import Outline.Regex.Expr

/-! How much memory an expression takes once it is compiled into states that read bytes. A state
takes 32 bytes, a choice four more for each way out and eight for each range of bytes. -/
namespace Outline.Regex

open Unicode (CodeSet)

/-- The bytes of a code point in UTF-8, from the length of their sequence. -/
def byteAt (n : Nat) : (length index : Nat) → Nat
  | 1, _ => n
  | 2, 0 => 0xc0 + n / 64
  | 3, 0 => 0xe0 + n / 4096
  | 4, 0 => 0xf0 + n / 262144
  | length, index => 0x80 + (n >>> (6 * (length - 1 - index))) % 64

/-- Splits a range of code points whose sequences have one length into pieces in which every byte
varies on its own: `low` bits from the right may be split off. -/
def splitAligned (lo hi : Nat) : (low : Nat) → List (Nat × Nat)
  | 0 => [(lo, hi)]
  | low + 1 =>
    let unit := 1 <<< (6 * (low + 1))
    if lo / unit = hi / unit then splitAligned lo hi low
    else
      let first := if lo % unit = 0 then lo else (lo / unit + 1) * unit
      let last := if hi % unit = unit - 1 then hi + 1 else hi / unit * unit
      (if lo < first then splitAligned lo (first - 1) low else []) ++
        (if first < last then [(first, last - 1)] else []) ++
        if last ≤ hi then splitAligned last hi low else []

/-- The ranges of bytes that spell the code points of a set. -/
def byteRanges (s : CodeSet) : List (List (Nat × Nat)) :=
  s.ranges.flatMap fun r =>
    ([(0, 0x7f, 1), (0x80, 0x7ff, 2), (0x800, 0xd7ff, 3), (0xe000, 0xffff, 3),
        (0x10000, 0x10ffff, 4)] : List (Nat × Nat × Nat)).flatMap fun (a, b, length) =>
      let lo := max r.1 a
      let hi := min r.2 b
      if hi < lo then []
      else (splitAligned lo hi (length - 1)).map fun (x, y) =>
        (List.range length).map fun i => (byteAt x length i, byteAt y length i)

/-- How many steps differ from those of the sequence before, all told. -/
def newSteps (before : List (Nat × Nat)) : List (List (Nat × Nat)) → Nat
  | [] => 0
  | s :: r => s.length - (List.zip before s |>.takeWhile fun p => p.1 = p.2).length + newSteps s r

def setSize (s : CodeSet) : Nat :=
  match s.ranges with
  | [(a, b)] => if a = b then 32 * (Char.ofNat a).utf8Size else general
  | _ => general
where
  general : Nat :=
    if s.isAscii then 64 + 8 * s.ranges.length
    else
      let seqs := byteRanges s
      64 + 32 * newSteps [] seqs + 4 * seqs.length

namespace Expr

/-- Whether an expression only matches the empty text. -/
def isBlank : Expr → Bool
  | empty | look _ => true
  | chars _ => false
  | seq a b | alt a b => a.isBlank && b.isBlank
  | times _ max e => max = some 0 || e.isBlank
  | capture e => e.isBlank

/-- The bytes taken by a compiled expression. -/
def size : Expr → Nat
  | empty | look _ => 32
  | chars s => setSize s
  | seq a b => a.size + b.size
  | alt a b => a.size + b.size + 72
  | times min max e =>
    if e.isBlank then e.size + 72
    else match max with
      | none => (if min = 0 then 1 else min) * e.size + 40
      | some max => min * e.size + (max - min) * (e.size + 40) + 32
  | capture e => e.size + 64

end Expr

/-- The most memory that a pattern may take. -/
def sizeLimit : Nat := 10485760

end Outline.Regex
