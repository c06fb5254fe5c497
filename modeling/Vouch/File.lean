/-!
Why a file cannot be read or written.
-/

namespace Vouch.File

/-- What the operating system, or a look at the content, says about a file. -/
inductive Problem where
  | missing
  | alreadyThere
  | notDirectory
  | isDirectory
  | nameTooLong
  | badPath
  | notText
  | other (cause : String)
  deriving DecidableEq, Repr

def Problem.message : Problem → String
  | .missing => "No such file or directory (os error 2)"
  | .alreadyThere => "File exists (os error 17)"
  | .notDirectory => "Not a directory (os error 20)"
  | .isDirectory => "Is a directory (os error 21)"
  | .nameTooLong => "File name too long (os error 36)"
  | .badPath => "file name contained an unexpected NUL byte"
  | .notText => "stream did not contain valid UTF-8"
  | .other cause => cause

def textOf (content : ByteArray) : Except Problem String :=
  match String.fromUTF8? content with
  | some text => .ok text
  | none => .error .notText

end Vouch.File
