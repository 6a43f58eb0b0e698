import Outline.Text.Offset

/-! A place in a text: what is left to read, and the position reached. A `Passage` keeps the rest of
the text at every byte, so that reading can start anywhere. -/
namespace Outline.Text

structure Cursor where
  rest : List Char
  pos : Offset := {}
deriving Repr, DecidableEq, Inhabited

namespace Cursor

def atEnd (k : Cursor) : Bool := k.rest.isEmpty

/-- The next character, if there is one. -/
def peek (k : Cursor) : Option Char := k.rest.head?

/-- Whether the next character is `c`. -/
def sees (k : Cursor) (c : Char) : Bool := k.peek == some c

/-- Whether the next character is one of `cs`. -/
def seesAny (k : Cursor) (cs : List Char) : Bool := k.peek.any cs.contains

/-- Whether there is a next character and it satisfies `p`. -/
def seesIf (k : Cursor) (p : Char → Bool) : Bool := k.peek.any p

/-- Past the next character; the end of the text stays where it is. -/
def next (k : Cursor) : Cursor :=
  match k.rest with
  | [] => k
  | c :: r => ⟨r, k.pos.push c⟩

/-- Past all leading characters that satisfy `p`. -/
def skipWhile (p : Char → Bool) (k : Cursor) : Cursor := go k.rest k.pos
where
  go : List Char → Offset → Cursor
  | [], o => ⟨[], o⟩
  | c :: r, o => if p c then go r (o.push c) else ⟨c :: r, o⟩

end Cursor

/-- A text with the characters left at every byte where one starts. -/
structure Passage where
  tails : Array (List Char)
  size : Nat

namespace Passage

/-- Every byte of a character gets the text that starts at that character, and the end gets `[]`. -/
def ofString (s : String) : Passage :=
  let tails := go s.toList #[]
  ⟨tails, tails.size - 1⟩
where
  go : List Char → Array (List Char) → Array (List Char)
  | [], acc => acc.push []
  | c :: r, acc => go r (fill (c :: r) acc c.utf8Size)
  fill (t : List Char) (acc : Array (List Char)) : Nat → Array (List Char)
  | 0 => acc
  | n + 1 => fill t (acc.push t) n

/-- The place at a position of the text; positions past the end have nothing left. -/
def cursor (p : Passage) (o : Offset) : Cursor := ⟨p.tails.getD o.bytes [], o⟩

end Passage

end Outline.Text
