import Outline.Scan.Survey
import Outline.Terminal.Style

/-! Surveys as text: the tree with an indented line a node, declarations a line each, and
declarations with their numbered source. -/
namespace Outline.Report

open Terminal (paint)

/-! ### The tree -/

/-- Where a declaration is. Below the top the file is that of the declaration above. -/
def location (n : Node) (topLevel : Bool) : String :=
  let lines := toString (n.firstLine.getD 0) ++ "-" ++ toString (n.lastLine.getD 0)
  if topLevel then n.filePath.text ++ ":" ++ lines else lines

/-- The lines of a declaration and of what is below it. -/
def nodeLines (coloured : Bool) (depth : Nat) (topLevel : Bool) : Node → List String
  | .mk k n o cs =>
    let node := Node.mk k n o cs
    let indent := String.ofList (List.replicate (2 * depth) ' ')
    (indent ++ paint coloured .cyan k.humanName ++ " " ++ paint coloured .bold (n.getD "") ++ " " ++
      paint coloured .dimmed (location node topLevel)) :: below (depth + 1) cs
where
  below (depth : Nat) : List Node → List String
  | [] => []
  | n :: r => nodeLines coloured depth false n ++ below depth r

def treeLines (coloured : Bool) (v : Survey) : List String :=
  paint coloured .bold v.root.display :: v.root.children.flatMap (nodeLines coloured 1 true)

/-! ### Matches -/

/-- The declarations with a name and, if one is asked for, a kind. -/
def matching (v : Survey) (name : String) (kind : Option Kind) : List Node :=
  v.root.findAll fun n => n.name == some name && kind.all (n.kind == ·)

def matchLine (n : Node) : String :=
  location n true ++ "\t" ++ n.kind.humanName ++ "\t" ++ n.name.getD ""

/-- A number in at least five places. -/
def padded (n : Nat) : String :=
  let digits := toString n
  String.ofList (List.replicate (5 - digits.length) ' ') ++ digits

def sourceLine (coloured : Bool) (line : Nat × String) : String :=
  paint coloured .dimmed (padded line.1 ++ " |") ++ " " ++ line.2

/-- A declaration and its source. -/
def block (coloured : Bool) (n : Node) : Except Node.MissingExtent (List String) := do
  let lines ← n.numberedLines
  return paint coloured .bold ("==> " ++ n.display) :: lines.map (sourceLine coloured)

/-- The blocks of some declarations with an empty line between them. -/
def blocks (coloured : Bool) (ns : List Node) : Except Node.MissingExtent (List String) := do
  return [""].intercalate (← ns.mapM (block coloured))

/-- Lines as text, each with its end. -/
def unlines (lines : List String) : String := String.join (lines.map (· ++ "\n"))

end Outline.Report
