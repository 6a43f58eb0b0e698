import Outline.Source.File
import Outline.Text.Offset

/-! The lines of a file that a declaration takes up. -/
namespace Outline

structure Extent where
  file : SourceFile
  firstLine : Nat
  lastLine : Nat
deriving Repr, DecidableEq, Inhabited

namespace Extent

/-- An extent over lines counted from one, the last not before the first. -/
def new? (file : SourceFile) (first last : Nat) : Option Extent :=
  if 1 ≤ first && first ≤ last then some ⟨file, first, last⟩ else none

/-- The extent of a piece of syntax. An end at the start of a line does not reach into that line. -/
def ofSpan (file : SourceFile) (start stop : Text.Offset) : Extent :=
  let lastRow := if stop.column = 0 && start.row < stop.row then stop.row - 1 else stop.row
  ⟨file, start.row + 1, lastRow + 1⟩

def lineSpan (e : Extent) : Nat := e.lastLine - e.firstLine + 1

/-- Whether the lines of `b` are among those of `a`, in the very same file. -/
def contains (a b : Extent) : Bool :=
  a.file.key = b.file.key && a.firstLine ≤ b.firstLine && b.lastLine ≤ a.lastLine

def lines (e : Extent) : List String := e.file.lines e.firstLine e.lastLine

/-- The lines that exist, each with its number. -/
def numberedLines (e : Extent) : List (Nat × String) :=
  e.lines.zipIdx e.firstLine |>.map fun (line, n) => (n, line)

def source (e : Extent) : String := "\n".intercalate e.lines

/-- Whether two extents have the same lines of files with the same path and text. -/
def same (a b : Extent) : Bool :=
  a.file.same b.file && a.firstLine = b.firstLine && a.lastLine = b.lastLine

/-- `path:first-last`. -/
def describe (e : Extent) : String :=
  e.file.path.text ++ ":" ++ toString e.firstLine ++ "-" ++ toString e.lastLine

end Extent

end Outline
