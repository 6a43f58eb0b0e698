/-! Texts cut into pieces at every place where a character stands. -/
namespace Outline.Text

/-- The pieces between the places where `sep` stands, one more than there are places. -/
def cut (sep : Char) : List Char → List (List Char)
  | [] => [[]]
  | c :: rest =>
    if c = sep then [] :: cut sep rest
    else
      match cut sep rest with
      | [] => [[c]]
      | piece :: more => (c :: piece) :: more

def pieces (sep : Char) (text : String) : List String := (cut sep text.toList).map String.ofList

theorem cut_ne_nil (sep : Char) (cs : List Char) : cut sep cs ≠ [] := by
  cases cs with
  | nil => simp [cut]
  | cons c cs =>
    rw [cut]
    split
    · simp
    · split <;> simp

theorem cut_of_notMem {sep : Char} {cs : List Char} (h : sep ∉ cs) : cut sep cs = [cs] := by
  induction cs with
  | nil => rfl
  | cons c cs ih =>
    simp only [List.mem_cons, not_or] at h
    simp [cut, ih h.2, Ne.symm h.1]

theorem eq_nil_of_cut_eq {sep : Char} {cs : List Char} (h : cut sep cs = [[]]) : cs = [] := by
  cases cs with
  | nil => rfl
  | cons c cs =>
    rw [cut] at h
    split at h
    · exact absurd (List.cons.inj h).2 (cut_ne_nil sep cs)
    · split at h <;> simp at h

/-- A place where the separator stands parts the pieces before it from those after it. -/
theorem cut_append (sep : Char) (a b : List Char) :
    cut sep (a ++ sep :: b) = cut sep a ++ cut sep b := by
  induction a with
  | nil => simp [cut]
  | cons c a ih =>
    rw [List.cons_append, cut, cut, ih]
    split
    · rfl
    · cases h : cut sep a with
      | nil => exact absurd h (cut_ne_nil sep a)
      | cons piece more => rfl

end Outline.Text
