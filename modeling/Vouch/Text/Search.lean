/-!
Finding a text inside another, and cutting a text into pieces.
-/

namespace Vouch.Text

def occursIn (needle : List Char) : List Char → Bool
  | [] => needle.isEmpty
  | c :: rest => needle.isPrefixOf (c :: rest) || occursIn needle rest

def mentions (text phrase : String) : Bool :=
  occursIn phrase.toList text.toList

def pieces (separator : Char) : List Char → List (List Char)
  | [] => [[]]
  | c :: rest =>
    if c == separator then [] :: pieces separator rest
    else
      match pieces separator rest with
      | [] => [[c]]
      | first :: others => (c :: first) :: others

def withoutReturn (line : List Char) : List Char :=
  match line.getLast? with
  | some '\r' => line.dropLast
  | _ => line

/-- The lines of a text.  A line break ends a line, so nothing follows the last one. -/
def lines (cs : List Char) : List (List Char) :=
  let cut := pieces '\n' cs
  let finished := cut.dropLast.map withoutReturn
  match cut.getLast? with
  | some [] | none => finished
  | some rest => finished ++ [rest]

def afterLeading? (leading text : List Char) : Option (List Char) :=
  leading.isPrefixOf? text

def withoutTrailingSlashes (s : String) : String :=
  String.ofList ((s.toList.reverse.dropWhile (· == '/')).reverse)

end Vouch.Text
