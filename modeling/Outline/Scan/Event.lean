import Outline.Declaration.Collect
import Outline.Scan.Failure

/-! What a scan tells about its course. -/
namespace Outline

inductive Level where
  | trace
  | debug
  | info
  | warn
deriving Repr, DecidableEq

def Level.name : Level → String
  | trace => "TRACE"
  | debug => "DEBUG"
  | info => "INFO"
  | warn => "WARN"

inductive Event where
  | passedOver (root : Path) (obstacle : Obstacle)
  | excluded (path : Path)
  | started (path : Path) (candidates : Nat)
  | nameless (declaration : SyntaxTree.Nameless)
  | outlined (path : Path) (declarations : Nat)
  | skipped (failure : Failure)
  | diagnosticLost (cause : String)
  | finished (files declarations failed : Nat)
deriving Repr, DecidableEq

namespace Event

def level : Event → Level
  | passedOver .. => .warn
  | excluded _ => .debug
  | started .. => .info
  | nameless _ => .trace
  | outlined .. => .debug
  | skipped _ => .debug
  | diagnosticLost _ => .warn
  | finished .. => .info

def message : Event → String
  | passedOver root obstacle =>
    "scan: skipping unreadable entry under " ++ root.text ++ ": " ++ obstacle.message
  | excluded p => "scan: exclude " ++ p.text
  | started p n => "scan: start -> " ++ p.text ++ " (" ++ toString n ++ " candidates)"
  | nameless d =>
    "declaration without a name, visiting as plain syntax kind=" ++ d.kind.humanName ++ " line=" ++
      toString d.line
  | outlined p n => "scan: " ++ p.text ++ " -> " ++ toString n ++ " top-level declarations"
  | skipped f => "scan: skip " ++ f.message
  | diagnosticLost cause => "scan: failed to write diagnostic: " ++ cause
  | finished files declarations failed =>
    "scan: done -> " ++ toString files ++ " files, " ++ toString declarations ++
      " declarations, " ++ toString failed ++ " failed"

/-- `LEVEL message`. -/
def line (e : Event) : String := e.level.name ++ " " ++ e.message

end Event

end Outline
