import Mathlib.Tactic
import Vouch.Proofs.Command.Finding
import Vouch.Proofs.Key.Name
import Vouch.Proofs.Text.Utf8
import Vouch.Rehearsal.Stage

/-!
The command that judges an engine's result.

Its exit code tells what was found, whether the finding is printed for people or as a document.
-/

namespace Vouch

/-! ### Playing programs -/

namespace Rehearsal.Stage

open Command

theorem play_print (stage : Stage) (stream : Stream) (line : String) (next : Program) :
    stage.play (.print stream line next) = (stage.print stream line).play next := rfl

theorem play_read (stage : Stage) (path : String)
    (next : Except File.Problem String → Program) :
    stage.play (.read path next) = stage.play (next (stage.folder.read path)) := rfl

theorem play_printAll_output (stage : Stage) (lines : List String) (next : Program) :
    stage.play (.printAll .output lines next) =
      Stage.play { stage with output := lines.reverse ++ stage.output } next := by
  induction lines generalizing stage with
  | nil => rfl
  | cons line rest ih =>
    rw [Program.printAll, List.foldr_cons, play_print]
    refine (ih _).trans ?_
    rw [List.reverse_cons, List.append_assoc]
    rfl

end Rehearsal.Stage

/-! ### What is given -/

/-- The path leads to a file that holds the text in UTF-8. -/
def Folder.Holds (place : Folder) (path text : String) : Prop :=
  ∃ content, place.at? path = .ok (.file content) ∧ String.fromUTF8? content = some text

theorem Folder.read_eq_ok_iff {place : Folder} {path text : String} :
    place.read path = .ok text ↔ place.Holds path text := by
  unfold Holds Folder.read
  cases place.at? path with
  | error problem => simp [bind, Except.bind]
  | ok found =>
    cases found with
    | folder => simp [bind, Except.bind, throw, throwThe, MonadExceptOf.throw]
    | file content =>
      simp only [bind, Except.bind, File.textOf]
      cases text : String.fromUTF8? content <;> simp [text]

/-- A text has no more characters than its file has bytes. -/
theorem length_le_of_fromUTF8? {content : ByteArray} {text : String}
    (decoded : String.fromUTF8? content = some text) : text.length ≤ content.size := by
  obtain rfl := Text.fromUTF8?_eq_some_iff.mp decoded
  rw [← String.length_toList]
  exact Key.length_le_utf8ByteSize _

theorem fromUTF8?_toUTF8 (text : String) : String.fromUTF8? text.toUTF8 = some text :=
  Text.fromUTF8?_eq_some_iff.mpr rfl

namespace Command

open Rehearsal

def GivesResult (place : Folder) (path : String) (raw : Engine.Result) : Prop :=
  ∃ document, place.Holds path document ∧ Engine.Result.read document = .ok raw

def GivesKeys (place : Folder) (keys : Option String) (db : Key.Snapshot) : Prop :=
  match keys with
  | none => db = .empty
  | some path => ∃ document, place.Holds path document ∧ Key.Snapshot.parse document = .ok db

theorem parse_eq_ok_iff {document : String} {raw : Engine.Result} :
    Engine.Result.parse document = .ok raw ↔ Engine.Result.read document = .ok raw := by
  unfold Engine.Result.parse
  cases Engine.Result.read document <;> simp

theorem snapshotIn_eq_ok_iff {place : Folder} {path : String} {db : Key.Snapshot} :
    snapshotIn path (place.read path) = .ok db ↔ GivesKeys place (some path) db := by
  unfold GivesKeys
  simp only [← Folder.read_eq_ok_iff]
  cases place.read path <;> simp [snapshotIn]

variable (zone : Time.Zone) {stage : Stage} {result : String} {keys : Option String}

theorem play_conclude (raw : Engine.Result) (db : Key.Snapshot) (json : Bool) :
    stage.play (conclude zone json raw (.ok db)) =
      (.exit (Finding.ofEngine zone db raw).exitCode,
        { stage with output :=
            ((Finding.ofEngine zone db raw).lines json).reverse ++ stage.output }) :=
  stage.play_printAll_output _ _

/-- With a result and keys, the command prints its finding and ends with the exit code of this. -/
theorem play_analyse_of_given {raw : Engine.Result} {db : Key.Snapshot}
    (given : GivesResult stage.folder result raw) (known : GivesKeys stage.folder keys db)
    (json : Bool) :
    stage.play (analyse zone result keys json) =
      (.exit (Finding.ofEngine zone db raw).exitCode,
        { stage with output :=
            ((Finding.ofEngine zone db raw).lines json).reverse ++ stage.output }) := by
  obtain ⟨document, holds, read⟩ := given
  rw [analyse, Stage.play_read, Folder.read_eq_ok_iff.mpr holds]
  simp only [parse_eq_ok_iff.mpr read]
  cases keys with
  | none =>
    cases known
    exact play_conclude zone raw _ json
  | some path =>
    simp only [Stage.play_read, snapshotIn_eq_ok_iff.mpr known]
    exact play_conclude zone raw db json

/-- Short of a result or of keys, the command complains and prints nothing else. -/
theorem play_analyse_of_not_given
    (missing : ¬∃ raw db, GivesResult stage.folder result raw ∧ GivesKeys stage.folder keys db)
    (json : Bool) :
    ∃ message, stage.play (analyse zone result keys json) =
      (.exit 2, stage.print .error ("error: " ++ message)) := by
  rw [analyse, Stage.play_read]
  cases read : stage.folder.read result with
  | error cause => exact ⟨_, rfl⟩
  | ok document =>
    dsimp only
    cases parsed : Engine.Result.parse document with
    | error problem => exact ⟨_, rfl⟩
    | ok raw =>
      have given : GivesResult stage.folder result raw :=
        ⟨document, Folder.read_eq_ok_iff.mp read, parse_eq_ok_iff.mp parsed⟩
      cases keys with
      | none => exact absurd ⟨raw, .empty, given, rfl⟩ missing
      | some path =>
        dsimp only
        rw [Stage.play_read]
        cases listed : snapshotIn path (stage.folder.read path) with
        | error problem => exact ⟨_, rfl⟩
        | ok db => exact absurd ⟨raw, db, given, snapshotIn_eq_ok_iff.mp listed⟩ missing

def Passes (report : Report) : Prop :=
  report.isVerification = true ∧ (Verdict.ofReport report).overall = .fullyValid ∨
    report.isVerification = false ∧ report.status ≠ .failed

instance (report : Report) : Decidable (Passes report) :=
  inferInstanceAs (Decidable (_ ∨ _))

theorem exitCode_ofEngine (db : Key.Snapshot) (raw : Engine.Result) :
    Passes (Report.ofEngine zone db raw) ∧ (Finding.ofEngine zone db raw).exitCode = 0 ∨
      ¬Passes (Report.ofEngine zone db raw) ∧ (Finding.ofEngine zone db raw).exitCode = 1 := by
  unfold Finding.ofEngine Finding.exitCode Passes
  generalize Report.ofEngine zone db raw = report
  cases verifies : report.isVerification with
  | true =>
    by_cases valid : (Verdict.ofReport report).overall = .fullyValid <;>
      simp [verifies, Verdict.isFullyValid, valid]
  | false => by_cases failed : report.status = .failed <;> simp [verifies, failed]

/-- The document that is printed for a result describes the finding. -/
theorem read?_of_given {raw : Engine.Result} (db : Key.Snapshot)
    (given : GivesResult stage.folder result raw)
    (small : ∀ content, stage.folder.at? result = .ok (.file content) → content.size < 2 ^ 63) :
    Finding.read? (Finding.ofEngine zone db raw).toValue.pretty =
      some (Finding.ofEngine zone db raw) := by
  obtain ⟨document, ⟨content, found, decoded⟩, read⟩ := given
  have few : raw.Within Decimal.maxU64 := by
    apply (Engine.Result.within_of_read read).mono
    have short := length_le_of_fromUTF8? decoded
    have limit := small content found
    change _ ≤ 18446744073709551615
    omega
  apply Finding.read?_pretty
  · exact Report.regular_ofEngine zone db few
  · intro verdict judged
    unfold Finding.ofEngine at judged
    dsimp only at judged
    split_ifs at judged
    · cases judged
      exact Verdict.regular_ofEngine zone db few
    · cases judged

theorem code_eq_two_iff (stage : Stage) (result : String) (keys : Option String) (json : Bool) :
    (stage.play (analyse zone result keys json)).1.code = 2 ↔
      ¬∃ raw db, GivesResult stage.folder result raw ∧ GivesKeys stage.folder keys db := by
  constructor
  · rintro refused ⟨raw, db, given, known⟩
    rw [play_analyse_of_given zone given known] at refused
    change (Finding.ofEngine zone db raw).exitCode = 2 at refused
    obtain ⟨_, code⟩ | ⟨_, code⟩ := exitCode_ofEngine zone db raw <;> omega
  · intro missing
    obtain ⟨message, played⟩ := play_analyse_of_not_given zone missing json
    rw [played]
    rfl

/-- Judging the result in one file with the keys in another, or with no keys.  If a file is missing, is
no text or does not hold what it should, the exit code is 2 and nothing is printed as output; otherwise
it tells whether the report passes, whatever the form of the output.  The document that is printed
describes the report, and the verdict if signatures were to be verified, as long as the file of the
result has fewer than 2 ^ 63 bytes. -/
theorem exit_code_tells_verdict (zone : Time.Zone) (stage : Stage) (result : String)
    (keys : Option String) :
    let played := fun json => stage.play (analyse zone result keys json)
    (∀ json, (played json).1.code = 2 ↔
      ¬∃ raw db, GivesResult stage.folder result raw ∧ GivesKeys stage.folder keys db) ∧
    (∀ json, (played json).1.code = 2 → (played json).2.output = stage.output) ∧
    (played true).1.code = (played false).1.code ∧
    ∀ raw db, GivesResult stage.folder result raw → GivesKeys stage.folder keys db →
      let report := Report.ofEngine zone db raw
      (∀ json, ((played json).1.code = 0 ↔ Passes report) ∧
        ((played json).1.code = 1 ↔ ¬Passes report)) ∧
      ((∀ content, stage.folder.at? result = .ok (.file content) → content.size < 2 ^ 63) →
        ∃ document, (played true).2.output = document :: stage.output ∧
          Finding.read? document =
            some ⟨report, if report.isVerification then some (Verdict.ofReport report)
              else none⟩) := by
  intro played
  have refused := code_eq_two_iff zone stage result keys
  refine ⟨refused, ?_, ?_, ?_⟩
  · intro json code
    obtain ⟨message, ran⟩ := play_analyse_of_not_given zone ((refused json).mp code) json
    change (stage.play (analyse zone result keys json)).2.output = _
    rw [ran]
    rfl
  · by_cases given : ∃ raw db, GivesResult stage.folder result raw ∧
        GivesKeys stage.folder keys db
    · obtain ⟨raw, db, given, known⟩ := given
      change (stage.play (analyse zone result keys true)).1.code =
        (stage.play (analyse zone result keys false)).1.code
      rw [play_analyse_of_given zone given known, play_analyse_of_given zone given known]
    · rw [(refused true).mpr given, (refused false).mpr given]
  · intro raw db given known report
    have ran := play_analyse_of_given zone given known
    refine ⟨?_, ?_⟩
    · intro json
      have code : (played json).1.code = (Finding.ofEngine zone db raw).exitCode := by
        change (stage.play (analyse zone result keys json)).1.code = _
        rw [ran]
        rfl
      rw [code]
      obtain ⟨passes, code⟩ | ⟨fails, code⟩ := exitCode_ofEngine zone db raw
      · simp [report, passes, code]
      · simp [report, fails, code]
    · intro small
      refine ⟨(Finding.ofEngine zone db raw).toValue.pretty, ?_, read?_of_given zone db given small⟩
      change (stage.play (analyse zone result keys true)).2.output = _
      rw [ran]
      rfl

/-- A good signature of a key that is fully trusted. -/
theorem good_signature_passes :
    let document :=
      "\x7b\"operation\":\"verify\",\"signatures\":[\x7b\"fingerprint\":\"A1\",\"summary\":3\x7d]\x7d"
    let listing := "keys:\n- fingerprint: A1\n  owner_trust: full\n"
    let place : Folder :=
      { entries := [(["work"], .folder), (["work", "result.json"], .file document.toUTF8),
          (["work", "keys.yaml"], .file listing.toUTF8)]
        here := ["work"] }
    let stage : Stage := .initial place []
    ∃ raw db, GivesResult stage.folder "result.json" raw ∧
      GivesKeys stage.folder (some "keys.yaml") db ∧
      (∀ content, stage.folder.at? "result.json" = .ok (.file content) → content.size < 2 ^ 63) ∧
      (stage.play (analyse .utc "result.json" (some "keys.yaml") true)).1.code = 0 ∧
      ∃ line, (stage.play (analyse .utc "result.json" (some "keys.yaml") true)).2.output = [line] ∧
        Finding.read? line = some ⟨Report.ofEngine .utc db raw,
          some (Verdict.ofReport (Report.ofEngine .utc db raw))⟩ := by
  intro document listing place stage
  have judged : ((Engine.Result.read document).toOption.bind fun raw =>
      (Key.Snapshot.parse listing).toOption.map fun db =>
        ((Report.ofEngine .utc db raw).isVerification,
          decide (Passes (Report.ofEngine .utc db raw)))) = some (true, true) := by
    decide +kernel
  have short : document.toUTF8.size < 2 ^ 63 := by decide +kernel
  clear_value document listing
  obtain ⟨raw, read, judged⟩ := Option.bind_eq_some_iff.mp judged
  obtain ⟨db, parsed, judged⟩ := Option.map_eq_some_iff.mp judged
  obtain ⟨verifies, passes⟩ := Prod.mk.inj judged
  have found : stage.folder.at? "result.json" = .ok (.file document.toUTF8) := by rfl
  have listed : stage.folder.at? "keys.yaml" = .ok (.file listing.toUTF8) := by rfl
  have given : GivesResult stage.folder "result.json" raw :=
    ⟨document, ⟨_, found, fromUTF8?_toUTF8 document⟩, ok_of_toOption read⟩
  have known : GivesKeys stage.folder (some "keys.yaml") db :=
    ⟨listing, ⟨_, listed, fromUTF8?_toUTF8 listing⟩, ok_of_toOption parsed⟩
  have small : ∀ content, stage.folder.at? "result.json" = .ok (.file content) →
      content.size < 2 ^ 63 := by
    intro content holds
    rw [found] at holds
    cases holds
    exact short
  obtain ⟨_, _, _, answers⟩ := exit_code_tells_verdict .utc stage "result.json" (some "keys.yaml")
  obtain ⟨codes, printed⟩ := answers raw db given known
  obtain ⟨line, output, described⟩ := printed small
  rw [verifies] at described
  exact ⟨raw, db, given, known, small, (codes true).1.mpr (of_decide_eq_true passes), line,
    output, described⟩

end Command

end Vouch
