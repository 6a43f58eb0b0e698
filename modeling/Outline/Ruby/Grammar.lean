import Outline.Ruby.Mark
import Outline.Ruby.Rules.Expressions
import Outline.Ruby.Rules.Literals
import Outline.Ruby.Tokens

/-! The grammar of Ruby, put together from its tokens, its marks and its rules. -/
namespace Outline.Ruby

open Grammar

def spec : Spec where
  tokens := tokens
  context := Mark.all.map fun m => (m.name, m.visibility)
  rules := statementRules ++ definitionRules ++ controlRules ++ patternRules ++ branchRules ++
    expressionRules ++ operationRules ++ literalRules

@[irreducible] def grammar : Grammar := spec.grammar

end Outline.Ruby
