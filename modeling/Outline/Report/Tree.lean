import Outline.Report.Json
import Outline.Scan.Survey

/-! A survey as a JSON report: the tree node for node, and the files that were skipped. -/
namespace Outline.Report

def fieldIf {α : Type} (name : String) (write : α → Json) : Option α → List (String × Json)
  | some a => [(name, write a)]
  | none => []

def ofNode : Node → Json
  | .mk k n o cs =>
    let node := Node.mk k n o cs
    .object ([("kind", .string k.humanName)] ++ fieldIf "name" .string n ++
      [("file", .string node.filePath.text)] ++ fieldIf "first_line" .number node.firstLine ++
      fieldIf "last_line" .number node.lastLine ++ [("children", .array (ofNodes cs))])
where
  ofNodes : List Node → List Json
  | [] => []
  | n :: r => ofNode n :: ofNodes r

def ofFailure (f : Failure) : Json :=
  .object [("path", .string f.path.text), ("error", .string f.error.message)]

def ofSurvey (v : Survey) : Json :=
  .object [("root", ofNode v.root), ("failures", .array (v.failures.map ofFailure))]

end Outline.Report
