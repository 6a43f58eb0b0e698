import Outline.Path

/-! Source files and their lines. -/
namespace Outline

/-- A file that has been read. The key tells apart files that were read separately, even with the
same path and text. -/
structure SourceFile where
  key : Nat := 0
  path : Path
  text : String
deriving Repr, DecidableEq, Inhabited

namespace SourceFile

/-- Whether two files have the same path, by components, and the same text. -/
def same (a b : SourceFile) : Bool := a.path.same b.path && a.text = b.text

/-- The lines of a text. A line ends in a line feed, or in a carriage return and a line feed, or
with the text; nothing after the last line feed is no line. `acc` holds the line read so far, last
character first. -/
def splitLines : List Char → List Char → List String
  | [], [] => []
  | [], c :: acc => [String.ofList (c :: acc).reverse]
  | '\n' :: rest, acc =>
    String.ofList (match acc with | '\r' :: line => line | line => line).reverse ::
      splitLines rest []
  | c :: rest, acc => splitLines rest (c :: acc)

def allLines (f : SourceFile) : List String := splitLines f.text.toList []

/-- The lines with numbers from `first` to `last`, counted from one. -/
def lines (f : SourceFile) (first last : Nat) : List String :=
  if first = 0 || last < first then []
  else (f.allLines.drop (first - 1)).take (last - first + 1)

end SourceFile

end Outline
