import Mathlib.Data.List.Induction
import Mathlib.Order.Monotone.Basic
import Outline.Proofs.Text.Utf8
import Outline.Source.Extent

/-! Positions in a text. A position counts bytes, rows and columns from the start of the text, a row
for each line feed. An extent is made from two positions by setting its end back when it stands at
the start of a later row; for a span that is not empty this amounts to taking the row of its last
byte, and rows only grow. -/
namespace Outline

namespace Text.Offset

/-- The position after one byte. -/
def pushByte (p : Offset) (b : UInt8) : Offset :=
  if b = 10 then ⟨p.bytes + 1, p.row + 1, 0⟩ else ⟨p.bytes + 1, p.row, p.column + 1⟩

/-- How far bytes reach: how many there are, the line feeds among them, and how many follow the last
line feed. -/
def ofBytes (bs : List UInt8) : Offset := bs.foldl pushByte {}

/-- The offset is a position of the text: its row and column are those of the bytes before it. -/
def IsIn (o : Offset) (text : String) : Prop :=
  o = ofBytes ((utf8 text).take o.bytes)

instance (o : Offset) (text : String) : Decidable (o.IsIn text) :=
  inferInstanceAs (Decidable (o = _))

theorem ofBytes_snoc (bs : List UInt8) (b : UInt8) :
    ofBytes (bs ++ [b]) = (ofBytes bs).pushByte b := by
  simp [ofBytes]

theorem bytes_pushByte (p : Offset) (b : UInt8) : (p.pushByte b).bytes = p.bytes + 1 := by
  unfold pushByte
  split <;> rfl

theorem bytes_ofBytes (bs : List UInt8) : (ofBytes bs).bytes = bs.length := by
  induction bs using List.reverseRecOn with
  | nil => rfl
  | append_singleton bs b ih =>
    rw [ofBytes_snoc, bytes_pushByte, ih, List.length_append, List.length_singleton]

theorem IsIn.le_length {o : Offset} {text : String} (h : o.IsIn text) :
    o.bytes ≤ (utf8 text).length := by
  have hb := congrArg Offset.bytes h
  rw [bytes_ofBytes, List.length_take] at hb
  omega

end Text.Offset

open Text

/-- The row of a byte of the text, or of its end. -/
def rowAt (text : String) (n : Nat) : Nat :=
  (Offset.ofBytes ((utf8 text).take n)).row

theorem Text.Offset.IsIn.row_eq {o : Offset} {text : String} (h : o.IsIn text) :
    o.row = rowAt text o.bytes :=
  congrArg Offset.row h

theorem ofBytes_take_succ {bs : List UInt8} {n : Nat} (h : n < bs.length) :
    Offset.ofBytes (bs.take (n + 1)) = (Offset.ofBytes (bs.take n)).pushByte bs[n] := by
  rw [List.take_succ_eq_append_getElem h, Offset.ofBytes_snoc]

theorem rowAt_le_succ (text : String) (n : Nat) : rowAt text n ≤ rowAt text (n + 1) := by
  unfold rowAt
  by_cases h : n < (utf8 text).length
  · rw [ofBytes_take_succ h, Offset.pushByte]
    split
    · exact Nat.le_succ _
    · exact Nat.le_refl _
  · rw [List.take_of_length_le (by omega), List.take_of_length_le (by omega)]

theorem rowAt_mono (text : String) : Monotone (rowAt text) :=
  monotone_nat_of_le_succ (rowAt_le_succ text)

namespace Extent

theorem firstLine_ofSpan {start : Offset} {text : String} (file : SourceFile)
    (hs : start.IsIn text) (stop : Offset) :
    (ofSpan file start stop).firstLine = rowAt text start.bytes + 1 := by
  rw [← hs.row_eq]
  rfl

/-- The last line of a span that is not empty is that of its last byte. -/
theorem lastLine_ofSpan {start stop : Offset} {text : String} (file : SourceFile)
    (hs : start.IsIn text) (he : stop.IsIn text) (h : start.bytes < stop.bytes) :
    (ofSpan file start stop).lastLine = rowAt text (stop.bytes - 1) + 1 := by
  obtain ⟨m, hm⟩ : ∃ m, stop.bytes = m + 1 := ⟨stop.bytes - 1, by omega⟩
  have hlen : m < (utf8 text).length := by
    have := he.le_length
    omega
  have hrow : start.row ≤ rowAt text m := by
    rw [hs.row_eq]
    exact rowAt_mono text (by omega)
  have hstop := he
  rw [Offset.IsIn, hm, ofBytes_take_succ hlen] at hstop
  simp only [ofSpan, hm, Nat.add_sub_cancel]
  rw [hstop, Offset.pushByte]
  split
  · -- the last byte is a line feed, so the end stands at the start of the row after it
    have hlt : start.row < (Offset.ofBytes ((utf8 text).take m)).row + 1 :=
      Nat.lt_succ_of_le hrow
    simp [hlt, rowAt]
  · simp [rowAt]

end Extent

end Outline
