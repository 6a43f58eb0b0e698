import Outline.Ruby.Mark

/-! What is open at a place in a Ruby text: quoted literals, and here-documents whose bodies are
still to come. -/
namespace Outline.Ruby

/-- A literal that has been opened. -/
structure Quote where
  /-- The mark that opened it. -/
  kind : Mark
  opening : Char := '\x00'
  closing : Char := '\x00'
  /-- How many closing delimiters are due. -/
  depth : Nat := 1
  /-- Whether `#` and a backslash are special inside. -/
  interpolates : Bool := false
deriving Repr, DecidableEq

/-- A here-document that has been announced. Its word is kept by the low bytes of its characters. -/
structure Heredoc where
  word : List Nat
  /-- Whether the closing word may be indented. -/
  indented : Bool := false
  interpolates : Bool := false
  /-- Whether its body has begun. -/
  started : Bool := false
deriving Repr, DecidableEq

/-- The open literals, innermost last, and the here-documents in the order announced. -/
structure Opened where
  quotes : List Quote := []
  heredocs : List Heredoc := []
deriving Repr, DecidableEq

namespace Opened

/-- The room that a record of what is open may take. -/
def recordLimit : Nat := 1024

/-- What a token keeps of what is open after it: nothing when the record has no room for it, and
depths up to 255. -/
def recorded (o : Opened) : Option Opened :=
  let size := 5 * o.quotes.length + 2
  if recordLimit ≤ size then none
  else if fits size o.heredocs then
    some { o with quotes := o.quotes.map fun q => { q with depth := q.depth % 256 } }
  else none
where
  fits (size : Nat) : List Heredoc → Bool
  | [] => true
  | h :: r =>
    if recordLimit ≤ size + 2 + h.word.length then false else fits (size + 4 + h.word.length) r

end Opened

end Outline.Ruby
