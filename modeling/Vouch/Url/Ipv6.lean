import Vouch.Url.Ipv4

/-!
IPv6 addresses as hosts: eight groups of up to four hexadecimal digits with colons between them.
A double colon stands for one or more groups of zeros, and the last two groups may be written as an
IPv4 address.
-/

namespace Vouch.Url.Ipv6

abbrev Address := List Nat

def group? (cs : List Char) : Option Nat :=
  if cs.isEmpty || 4 < cs.length then none else Ipv4.ofDigits? 16 cs

def groupsOf? : List (List Char) → Option (List Nat)
  | [] => some []
  | [last] =>
    match group? last, Ipv4.plain? last with
    | some n, _ => some [n]
    | none, some [a, b, c, d] => some [256 * a + b, 256 * c + d]
    | none, _ => none
  | part :: rest => do return (← group? part) :: (← groupsOf? rest)

def groups? (cs : List Char) : Option (List Nat) :=
  if cs.isEmpty then some [] else groupsOf? (Text.pieces ':' cs)

def aroundGap : List Char → Option (List Char × List Char)
  | ':' :: ':' :: rest => some ([], rest)
  | c :: rest => (aroundGap rest).map fun (before, after) => (c :: before, after)
  | [] => none

def read? (cs : List Char) : Option Address := do
  match aroundGap cs with
  | none =>
    let groups ← groups? cs
    if groups.length = 8 then some groups else none
  | some (before, after) =>
    let before ← (groups? before).filter (fun _ => !before.contains '.')
    let after ← groups? after
    let present := before.length + after.length
    if present ≤ 7 then some (before ++ List.replicate (8 - present) 0 ++ after) else none

def leadingZeros (groups : List Nat) : Nat :=
  (groups.takeWhile (· == 0)).length

def longestGap (groups : List Nat) : Nat × Nat :=
  (List.range groups.length).foldl
    (fun best start =>
      let length := leadingZeros (groups.drop start)
      if best.2 < length then (start, length) else best)
    (0, 0)

def groupChars (groups : List Nat) : List Char :=
  [':'].intercalate (groups.map (Nat.toDigits 16))

/-- The text of an address; a double colon takes the place of the longest run of two or more
zeros. -/
def chars (address : Address) : List Char :=
  let (start, length) := longestGap address
  if length < 2 then groupChars address
  else groupChars (address.take start) ++ [':', ':'] ++ groupChars (address.drop (start + length))

end Vouch.Url.Ipv6
