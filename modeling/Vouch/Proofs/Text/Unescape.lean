import Mathlib.Tactic
import Vouch.Proofs.Text.Percent
import Vouch.Proofs.Text.Utf8

/-!
Undoing escapes.

A text with escapes is a row of tokens, met from left to right: escapes, and characters at which no
escape begins.  A reader of escapes finds the text that has the bytes of the tokens.  There is one
exactly if each run of escapes has the bytes of a text.
-/

namespace Vouch.Text

/-- What a text with escapes consists of. -/
inductive Token where
  | literal (c : Char)
  | escape (byte : UInt8)

def Token.bytes : Token → List UInt8
  | .literal c => String.utf8EncodeChar c
  | .escape byte => [byte]

def IsEscape (cs : List Char) : Prop :=
  ∃ high low, cs = ['%', high, low] ∧ isHexDigit high = true ∧ isHexDigit low = true

/-- A text and its tokens, from left to right: an escape where one begins, and else a character. -/
inductive Tokens : List Char → List Token → Prop
  | nil : Tokens [] []
  | escape {byte : UInt8} {high low : Char} {text : List Char} {tokens : List Token} :
      hexValue? high = some (byte.toNat / 16) → hexValue? low = some (byte.toNat % 16) →
      Tokens text tokens → Tokens ('%' :: high :: low :: text) (.escape byte :: tokens)
  | literal {c : Char} {text : List Char} {tokens : List Token} :
      (∀ cs, IsEscape cs → ¬cs <+: c :: text) →
      Tokens text tokens → Tokens (c :: text) (.literal c :: tokens)

namespace Token

def content (tokens : List Token) : ByteArray :=
  (tokens.flatMap bytes).toByteArray

/-- The bytes of the escapes, run by run, where the escapes before the tokens have the bytes `front`.
Every literal ends a run, which may be empty. -/
def runs (front : List UInt8) : List Token → List (List UInt8)
  | [] => [front]
  | .literal _ :: tokens => front :: runs [] tokens
  | .escape byte :: tokens => runs (front ++ [byte]) tokens

end Token

def ReadsEscapes (read? : String → Option String) : Prop :=
  ∀ (e : String) (tokens : List Token), Tokens e.toList tokens →
    ∀ s : String, read? e = some s ↔ s.toByteArray = Token.content tokens

variable {high low c : Char} {text cs : List Char} {tokens : List Token}

theorem hexValue?_of_isHexDigit (digit : isHexDigit c = true) : ∃ n, hexValue? c = some n := by
  unfold hexValue?
  split_ifs with number small capital
  · exact ⟨_, rfl⟩
  · exact ⟨_, rfl⟩
  · exact ⟨_, rfl⟩
  · simp [isHexDigit, number, small, capital] at digit

theorem isHexDigit_of_hexValue? {n : Nat} (value : hexValue? c = some n) :
    isHexDigit c = true := by
  unfold hexValue? at value
  split_ifs at value with number small capital
  · rw [isHexDigit, number, Bool.true_or, Bool.true_or]
  · rw [isHexDigit, small, Bool.or_true, Bool.true_or]
  · rw [isHexDigit, capital, Bool.or_true]

theorem isEscape_iff : IsEscape ['%', high, low] ↔ ∃ byte, escapedByte? high low = some byte := by
  constructor
  · rintro ⟨_, _, same, high_digit, low_digit⟩
    cases same
    obtain ⟨h, high_value⟩ := hexValue?_of_isHexDigit high_digit
    obtain ⟨l, low_value⟩ := hexValue?_of_isHexDigit low_digit
    rw [escapedByte?, high_value, low_value]
    exact ⟨_, rfl⟩
  · rintro ⟨byte, found⟩
    obtain ⟨high_value, low_value⟩ := escapedByte?_eq_some_iff.mp found
    exact ⟨high, low, rfl, isHexDigit_of_hexValue? high_value, isHexDigit_of_hexValue? low_value⟩

theorem exists_of_isEscape_prefix (escape : IsEscape cs) (front : cs <+: text) :
    ∃ high low rest byte, text = '%' :: high :: low :: rest ∧ escapedByte? high low = some byte := by
  obtain ⟨high, low, rfl, digits⟩ := escape
  obtain ⟨rest, rfl⟩ := front
  obtain ⟨byte, found⟩ := isEscape_iff.mp ⟨high, low, rfl, digits⟩
  exact ⟨high, low, rest, byte, rfl, found⟩

/-- There are tokens for every text, and their bytes are those that the escapes are replaced by. -/
theorem exists_tokens (text : List Char) :
    ∃ tokens, Tokens text tokens ∧ tokens.flatMap Token.bytes = unescapedBytes text := by
  fun_induction unescapedBytes text with
  | case1 high low rest byte found ih =>
    obtain ⟨tokens, met, bytes⟩ := ih
    obtain ⟨high_value, low_value⟩ := escapedByte?_eq_some_iff.mp found
    refine ⟨.escape byte :: tokens, .escape high_value low_value met, ?_⟩
    rw [List.flatMap_cons, bytes]
    rfl
  | case2 high low rest absent ih =>
    obtain ⟨tokens, met, bytes⟩ := ih
    -- Digits are missing after this sign, so it is a character like any other.
    refine ⟨.literal '%' :: tokens, .literal ?_ met, ?_⟩
    · intro cs escape front
      obtain ⟨_, _, _, byte, same, found⟩ := exists_of_isEscape_prefix escape front
      cases same
      rw [absent] at found
      cases found
    · rw [List.flatMap_cons, bytes]
      rfl
  | case3 c rest other ih =>
    obtain ⟨tokens, met, bytes⟩ := ih
    refine ⟨.literal c :: tokens, .literal ?_ met, ?_⟩
    · intro cs escape front
      obtain ⟨high, low, rest, _, same, -⟩ := exists_of_isEscape_prefix escape front
      cases same
      exact other high low rest rfl rfl
    · rw [List.flatMap_cons, bytes]
      rfl
  | case4 => exact ⟨[], .nil, rfl⟩

theorem Tokens.unique {others : List Token} (met : Tokens text tokens) (met' : Tokens text others) :
    tokens = others := by
  induction met generalizing others with
  | nil =>
    cases met'
    rfl
  | escape high_value low_value _ ih =>
    have found := escapedByte?_of_hexValue? high_value low_value
    cases met' with
    | escape high_value' low_value' later =>
      have found' := escapedByte?_of_hexValue? high_value' low_value'
      rw [ih later, Option.some.inj (found.symm.trans found')]
    | literal absent later =>
      exact absurd ⟨_, rfl⟩ (absent _ (isEscape_iff.mpr ⟨_, found⟩))
  | literal absent _ ih =>
    cases met' with
    | escape high_value low_value later =>
      have found := escapedByte?_of_hexValue? high_value low_value
      exact absurd ⟨_, rfl⟩ (absent _ (isEscape_iff.mpr ⟨_, found⟩))
    | literal _ later => rw [ih later]

theorem Tokens.bytes_eq (met : Tokens text tokens) :
    tokens.flatMap Token.bytes = unescapedBytes text := by
  obtain ⟨others, met', bytes⟩ := exists_tokens text
  rw [met.unique met', bytes]

theorem readsEscapes_unescaped? : ReadsEscapes unescaped? := by
  intro e tokens met s
  rw [unescaped?, ← met.bytes_eq, ofBytes?_eq_some_iff]
  rfl

/-- What is said of a reader of escapes leaves it no choice. -/
theorem eq_unescaped?_of_readsEscapes {read? : String → Option String} (known : ReadsEscapes read?) :
    read? = unescaped? := by
  funext e
  obtain ⟨tokens, met, -⟩ := exists_tokens e.toList
  apply Option.ext
  intro s
  exact (known e tokens met s).trans (readsEscapes_unescaped? e tokens met s).symm

theorem tokens_of_escapeless (escapeless : ∀ cs, IsEscape cs → ¬cs <:+: text) :
    Tokens text (text.map .literal) := by
  induction text with
  | nil => exact .nil
  | cons c rest ih =>
    apply Tokens.literal
    · intro cs escape front
      exact escapeless cs escape front.isInfix
    · apply ih
      intro cs escape inside
      exact escapeless cs escape (List.infix_cons inside)

theorem Token.content_literals (s : String) : content (s.toList.map .literal) = s.toByteArray := by
  rw [content, List.flatMap_map, toByteArray_eq]
  rfl

theorem Token.content_cons (token : Token) (tokens : List Token) :
    content (token :: tokens) = token.bytes.toByteArray ++ content tokens := by
  rw [content, List.flatMap_cons, List.toByteArray_append]
  rfl

/-- A literal leaves the run before it and the tokens after it to be judged apart. -/
theorem Token.isValidUTF8_append_content_iff (front : List UInt8) (tokens : List Token) :
    (front.toByteArray ++ content tokens).IsValidUTF8 ↔
      ∀ run ∈ runs front tokens, run.toByteArray.IsValidUTF8 := by
  -- The run in front grows with every escape, and starts anew after a literal.
  induction tokens generalizing front with
  | nil =>
    change (front.toByteArray ++ ByteArray.empty).IsValidUTF8 ↔ ∀ run ∈ [front], _
    rw [ByteArray.append_empty, List.forall_mem_singleton]
  | cons token tokens ih =>
    cases token with
    | literal c =>
      rw [content_cons, bytes, ← List.utf8Encode_singleton, isValidUTF8_around_char_iff, runs,
        List.forall_mem_cons, ← ih [], List.toByteArray_nil, ByteArray.empty_append]
    | escape byte =>
      rw [content_cons, bytes, ← ByteArray.append_assoc, ← List.toByteArray_append, ih, runs]

theorem Token.isValidUTF8_content_iff (tokens : List Token) :
    (content tokens).IsValidUTF8 ↔ ∀ run ∈ runs [] tokens, run.toByteArray.IsValidUTF8 := by
  rw [← isValidUTF8_append_content_iff, List.toByteArray_nil, ByteArray.empty_append]

/-! ### Undoing -/

theorem unescaped_of_tokens {e s : String} (met : Tokens e.toList tokens)
    (same : s.toByteArray = Token.content tokens) : unescaped e = s := by
  have found := (readsEscapes_unescaped? e tokens met s).mpr same
  rw [unescaped, unescapedBy, found, Option.getD_some]

theorem unescaped_of_invalid {e : String} (met : Tokens e.toList tokens)
    (invalid : ¬(Token.content tokens).IsValidUTF8) : unescaped e = e := by
  have nothing : unescaped? e = none := by
    rw [Option.eq_none_iff_forall_ne_some]
    intro s found
    have same := (readsEscapes_unescaped? e tokens met s).mp found
    exact invalid (same ▸ s.isValidUTF8)
  rw [unescaped, unescapedBy, nothing, Option.getD_none]

/-- Undoing escapes gives back what was escaped in whatever way, and leaves alone a text without escapes
and a text with a run of escapes that is not UTF-8.  In every other text each escape becomes its byte
and all else stays. -/
theorem escapes_undone {read? : String → Option String} (known : ReadsEscapes read?) :
    (∀ s e : String, Escaped (· ≠ '%') s.toList e.toList → unescapedBy read? e = s) ∧
    (∀ e : String, (∀ cs, IsEscape cs → ¬cs <:+: e.toList) → unescapedBy read? e = e) ∧
    (∀ e : String, ∃! tokens, Tokens e.toList tokens) ∧
    ∀ (e : String) (tokens : List Token), Tokens e.toList tokens →
      ((Token.content tokens).IsValidUTF8 ↔
        ∀ run ∈ Token.runs [] tokens, run.toByteArray.IsValidUTF8) ∧
      ((Token.content tokens).IsValidUTF8 →
        (unescapedBy read? e).toByteArray = Token.content tokens) ∧
      (¬(Token.content tokens).IsValidUTF8 → unescapedBy read? e = e) := by
  -- All readers find the same, so this one is the reader that runs.
  obtain rfl := eq_unescaped?_of_readsEscapes known
  refine ⟨?_, ?_, ?_, ?_⟩
  · intro s e escaped
    have undone := unescaped_of_escaped escaped (fun itself => itself rfl)
    rwa [String.ofList_toList] at undone
  · intro e escapeless
    exact unescaped_of_tokens (tokens_of_escapeless escapeless) (Token.content_literals e).symm
  · intro e
    obtain ⟨tokens, met, -⟩ := exists_tokens e.toList
    exact ⟨tokens, met, fun _ met' => met'.unique met⟩
  · intro e tokens met
    refine ⟨Token.isValidUTF8_content_iff tokens, ?_, unescaped_of_invalid met⟩
    intro valid
    let s : String := ⟨Token.content tokens, valid⟩
    have undone : unescaped e = s := unescaped_of_tokens met rfl
    exact congrArg String.toByteArray undone

/-- Digits in either case are read, a sign before other letters stays, and half of a character keeps the
whole text as it is. -/
theorem escapes_undone_in_names :
    ReadsEscapes unescaped? ∧ Escaped (· ≠ '%') "Zoë%".toList "Zo%C3%ab%25".toList ∧
      unescaped "Zo%C3%ab%25" = "Zoë%" ∧ unescaped "100%zz" = "100%zz" ∧
      unescaped "%41%C3z" = "%41%C3z" := by
  obtain ⟨undone, escapeless, -, every⟩ := escapes_undone readsEscapes_unescaped?
  have escaped : Escaped (· ≠ '%') "Zoë%".toList "Zo%C3%ab%25".toList := by
    refine .plain (by decide) (.plain (by decide) ?_)
    have letter : EscapedBytes (String.utf8EncodeChar 'ë') ['%', 'C', '3', '%', 'a', 'b'] :=
      .cons (by decide) (by decide) (.cons (by decide) (by decide) .nil)
    have sign : EscapedBytes (String.utf8EncodeChar '%') ['%', '2', '5'] :=
      .cons (by decide) (by decide) .nil
    exact .bytes letter (.bytes sign .nil)
  refine ⟨readsEscapes_unescaped?, escaped, undone _ _ escaped, ?_, ?_⟩
  · apply escapeless
    rintro cs ⟨high, low, rfl, high_digit, low_digit⟩ inside
    obtain ⟨rfl, rfl⟩ : high = 'z' ∧ low = 'z' := by simpa [List.infix_cons_iff] using inside
    exact absurd high_digit (by decide)
  · obtain ⟨tokens, met, bytes⟩ := exists_tokens "%41%C3z".toList
    apply (every _ tokens met).2.2
    rw [Token.content, bytes]
    decide +kernel

end Vouch.Text
