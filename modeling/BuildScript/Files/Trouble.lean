import BuildScript.Files.Tree
import BuildScript.Number.Integer
import BuildScript.Text.Quoted

/-!
What can go wrong with a path, as it is reported: an error of the system with the path it was given, a
chain of links that leads back to itself, and a text that an operation of the system cannot be given at
all.
-/

namespace BuildScript.Files

/-- An error with a path. -/
inductive Trouble where
  | system (error : LookupError) (path : String)
  | linkCycle (path : String)
  | embeddedNul
  deriving Repr, DecidableEq

namespace Trouble

/-- The class under which the error is reported. -/
def className : Trouble → String
  | system .notFound _ => "FileNotFoundError"
  | system .notDirectory _ => "NotADirectoryError"
  | system .isDirectory _ => "IsADirectoryError"
  | system _ _ => "OSError"
  | linkCycle _ => "RuntimeError"
  | embeddedNul => "ValueError"

/-- The text of the error. -/
def message : Trouble → String
  | system e path =>
    "[Errno " ++ Number.natText e.code ++ "] " ++ e.text ++ ": " ++ Text.quoted path
  | linkCycle path => "Symlink loop from " ++ Text.quoted path
  | embeddedNul => "embedded null byte"

end Trouble

end BuildScript.Files
