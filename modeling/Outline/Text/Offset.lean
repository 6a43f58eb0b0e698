/-! How far a piece of text reaches: its bytes, its line breaks, and the bytes after the last line
break. Measured from the start of a file an offset is a position, with rows and columns from
zero. -/
namespace Outline.Text

structure Offset where
  bytes : Nat := 0
  row : Nat := 0
  column : Nat := 0
deriving Repr, DecidableEq, Inhabited, Hashable

namespace Offset

/-- The reach of one text followed by another: a line break in the second one resets the column. -/
def add (a b : Offset) : Offset :=
  if b.row = 0 then ⟨a.bytes + b.bytes, a.row, a.column + b.column⟩
  else ⟨a.bytes + b.bytes, a.row + b.row, b.column⟩

instance : Add Offset := ⟨add⟩

/-- The reach of the text from position `b` to the later position `a`. -/
def since (a b : Offset) : Offset :=
  if b.row < a.row then ⟨a.bytes - b.bytes, a.row - b.row, a.column⟩
  else ⟨a.bytes - b.bytes, 0, a.column - b.column⟩

/-- The position after a character: a line feed starts a row, any other one widens the column by
its bytes. -/
def push (p : Offset) (c : Char) : Offset :=
  if c = '\n' then ⟨p.bytes + c.utf8Size, p.row + 1, 0⟩
  else ⟨p.bytes + c.utf8Size, p.row, p.column + c.utf8Size⟩

@[simp] theorem add_bytes (a b : Offset) : (a + b).bytes = a.bytes + b.bytes := by
  show (add a b).bytes = _
  unfold add; split <;> rfl

@[simp] theorem push_bytes (p : Offset) (c : Char) : (p.push c).bytes = p.bytes + c.utf8Size := by
  unfold push; split <;> rfl

end Offset

end Outline.Text
