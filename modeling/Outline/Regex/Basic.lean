import Outline.Regex.Resolve
import Outline.Regex.Size

/-! Regular expressions from their text. -/
namespace Outline

/-- A regular expression that can be searched for. -/
structure Regex where
  source : String
  expr : Regex.Expr
deriving Repr, DecidableEq

namespace Regex

/-- Why a text is no regular expression. -/
inductive Refusal where
  | flawed (pattern : String) (flaw : Flaw)
  | tooLarge
deriving Repr, DecidableEq

def Refusal.message : Refusal → String
  | flawed pattern flaw => flaw.message pattern
  | tooLarge => "Compiled regex exceeds size limit of " ++ toString sizeLimit ++ " bytes."

def compile (pattern : String) : Except Refusal Regex := do
  let written ← (Written.ofString pattern).mapError (.flawed pattern)
  let (expr, _) ← (written.resolve {}).mapError (.flawed pattern)
  if sizeLimit < expr.size then throw .tooLarge
  return { source := pattern, expr }

/-- Whether the expression matches anywhere in a text. -/
def isMatch (r : Regex) (text : String) : Bool := r.expr.matchesIn text

end Regex

end Outline
