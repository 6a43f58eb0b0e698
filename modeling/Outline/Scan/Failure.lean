import Outline.FileSystem.Basic
import Outline.Settings.Basic
import Outline.Syntax.Fault

/-! What goes wrong in a scan: nothing is scanned, a file is skipped, or a directory entry cannot be
looked into. -/
namespace Outline

/-- Why nothing is scanned. -/
inductive ScanError where
  | path (path : Path) (fault : FileSystem.Fault)
  | settings (invalid : Settings.Invalid)
  | exclude (refusal : Regex.Refusal)
deriving Repr, DecidableEq

def ScanError.message : ScanError → String
  | path p fault => "cannot scan " ++ p.text ++ ": " ++ fault.message
  | settings invalid => "invalid scan configuration: " ++ invalid.message
  | exclude refusal => "invalid exclude pattern: " ++ refusal.message

/-- Why a file is skipped. -/
inductive FileError where
  | unreadable (path : Path) (fault : FileSystem.Fault)
  | faulty (fault : SyntaxFault)
deriving Repr, DecidableEq

namespace FileError

def message : FileError → String
  | unreadable p fault => "I/O error reading " ++ p.text ++ ": " ++ fault.message
  | faulty fault => fault.message

def isSyntaxError : FileError → Bool
  | unreadable _ _ => false
  | faulty _ => true

end FileError

/-- A file that is skipped. -/
structure Failure where
  path : Path
  error : FileError
deriving Repr, DecidableEq

/-- `path: error`. -/
def Failure.message (f : Failure) : String := f.path.text ++ ": " ++ f.error.message

/-- Why an entry of a directory is passed over. -/
inductive Obstacle where
  | fault (path : Path) (fault : FileSystem.Fault)
  | loop (path ancestor : Path)
deriving Repr, DecidableEq

def Obstacle.message : Obstacle → String
  | fault p f => "IO error for operation on " ++ p.text ++ ": " ++ f.message
  | loop p ancestor =>
    "File system loop found: " ++ p.text ++ " points to an ancestor " ++ ancestor.text

end Outline
