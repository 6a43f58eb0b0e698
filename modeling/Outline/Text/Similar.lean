/-! How alike two words are: the share of letters that they have in common at about the same place,
less half of those that come in another order. -/
namespace Outline.Text

/-- A fraction. -/
structure Score where
  num : Nat
  den : Nat
deriving Repr, DecidableEq

namespace Score

def lt (a b : Score) : Bool := a.num * b.den < b.num * a.den

end Score

/-- The place of the first `c` in `low ≤ j < high` that is not taken, where `j` counts from the
start of the list. -/
def placeOf? (c : Char) (low high : Nat) (taken : List Nat) : List Char → Nat → Option Nat
  | [], _ => none
  | d :: r, j =>
    if low ≤ j && j < high && d = c && !taken.contains j then some j
    else placeOf? c low high taken r (j + 1)

/-- The letters of `a` that have a partner in `b`, each with the partner's place, where partners are
at most `reach` places apart. -/
def partners (b : List Char) (reach : Nat) : List Char → (i : Nat) → (taken : List Nat) →
    List (Char × Nat)
  | [], _, _ => []
  | c :: r, i, taken =>
    match placeOf? c (i - reach) (i + reach + 1) taken b 0 with
    | some j => (c, j) :: partners b reach r (i + 1) (j :: taken)
    | none => partners b reach r (i + 1) taken

/-- How alike two words are, from zero to one. -/
def similarity (a b : String) : Score :=
  let xs := a.toList
  let ys := b.toList
  if xs.isEmpty && ys.isEmpty then ⟨1, 1⟩
  else
    let found := partners ys (max xs.length ys.length / 2 - 1) xs 0 []
    let m := found.length
    if m = 0 then ⟨0, 1⟩
    else
      let inOrder := (found.map (·.2)).mergeSort (· ≤ ·) |>.filterMap (ys[·]?)
      let moved := ((found.map (·.1)).zip inOrder).countP (fun p => p.1 ≠ p.2) / 2
      ⟨m * m * ys.length + m * m * xs.length + (m - moved) * xs.length * ys.length,
        3 * m * xs.length * ys.length⟩

/-- The words that are more than seven tenths like `word`, the most like it last. -/
def similarTo (word : String) (words : List String) : List String :=
  let scored := words.map fun w => (similarity word w, w)
  ((scored.filter fun s => Score.lt ⟨7, 10⟩ s.1).mergeSort fun s t => !t.1.lt s.1).map (·.2)

example : similarTo "clas" ["module", "class", "class-method"] = ["class-method", "class"] := by
  cbv

end Outline.Text
