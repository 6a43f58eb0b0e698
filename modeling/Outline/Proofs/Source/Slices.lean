import Outline.Proofs.Text.Lines

/-! Slices of a file by line numbers, for all numbers of 64 bits. A slice has the lines whose
numbers are in the range, as far as there are lines, and joined they are a piece of the text from a
line's start to a line's end. The numbers are counted in words here as well, with every sum and
difference checked: none is ever out of range, and the slices are the same. -/
namespace Outline

open Text

/-! ### Lines by number -/

namespace Text

/-- The text with a line feed at each end of a line. -/
def normalisedText (text : String) : String := String.ofList (normalised text.toList)

/-- The lines of a text with their numbers, counted from one. -/
def numberedOf (text : String) : List (Nat × String) :=
  ((linesOf text).zipIdx 1).map fun x => (x.2, x.1)

/-- The lines of a text with numbers from `first` to `last`, as far as there are lines. -/
def between (first last : Nat) (text : String) : List (Nat × String) :=
  (numberedOf text).filter fun x => first ≤ x.1 && x.1 ≤ min last (linesOf text).length

theorem filter_zipIdx_of_le {α : Type} (l : List α) {first k : Nat} (last : Nat) (h : first ≤ k) :
    (l.zipIdx k).filter (fun x => first ≤ x.2 && x.2 ≤ last) =
      (l.take (last + 1 - k)).zipIdx k := by
  induction l generalizing k with
  | nil => simp
  | cons a l ih =>
    rw [List.zipIdx_cons, List.filter_cons]
    by_cases hk : k ≤ last
    · obtain ⟨m, hm⟩ : ∃ m, last + 1 - k = m + 1 := ⟨last - k, by omega⟩
      have hrest : last + 1 - (k + 1) = m := by omega
      simp only [h, hk, decide_true, Bool.and_self, if_true]
      rw [ih (Nat.le_succ_of_le h), hm, hrest, List.take_succ_cons, List.zipIdx_cons]
    · have hzero : last + 1 - k = 0 := by omega
      have hzero' : last + 1 - (k + 1) = 0 := by omega
      simp only [hk, decide_false, Bool.and_false, Bool.false_eq_true, if_false]
      rw [ih (Nat.le_succ_of_le h), hzero, hzero', List.take_zero, List.take_zero]
      rfl

/-- Of a list that is numbered from `k` on, a range of numbers. -/
theorem filter_zipIdx {α : Type} (l : List α) {first k : Nat} (last : Nat) (h : k ≤ first) :
    (l.zipIdx k).filter (fun x => first ≤ x.2 && x.2 ≤ last) =
      ((l.drop (first - k)).take (last + 1 - first)).zipIdx first := by
  induction l generalizing k with
  | nil => simp
  | cons a l ih =>
    rcases Nat.eq_or_lt_of_le h with rfl | hlt
    · rw [filter_zipIdx_of_le _ _ (Nat.le_refl k), Nat.sub_self, List.drop_zero]
    · obtain ⟨m, hm⟩ : ∃ m, first - k = m + 1 := ⟨first - k - 1, by omega⟩
      have hrest : first - (k + 1) = m := by omega
      have hk : ¬first ≤ k := by omega
      rw [List.zipIdx_cons, List.filter_cons]
      simp only [hk, decide_false, Bool.false_and, Bool.false_eq_true, if_false]
      rw [ih hlt, hm, hrest, List.drop_succ_cons]

end Text

namespace SourceFile

/-- The lines of a slice, numbered from its first one, are those with numbers in the range. -/
theorem zipIdx_lines (f : SourceFile) {first last : Nat} (hone : 1 ≤ first) (hle : first ≤ last) :
    ((f.lines first last).zipIdx first).map (fun x => (x.2, x.1)) = between first last f.text := by
  have hspan : last - first + 1 = last + 1 - first := by omega
  have hbound : ((linesOf f.text).zipIdx 1).filter
      (fun x => first ≤ x.2 && x.2 ≤ min last (linesOf f.text).length) =
      ((linesOf f.text).zipIdx 1).filter (fun x => first ≤ x.2 && x.2 ≤ last) := by
    refine List.filter_congr fun x hx => ?_
    have hlt := List.snd_lt_of_mem_zipIdx hx
    have hmin : x.2 ≤ min last (linesOf f.text).length ↔ x.2 ≤ last := by omega
    simp only [hmin]
  rw [f.lines_of_le hone hle, allLines_eq, hspan, ← filter_zipIdx _ _ hone, ← hbound, between,
    numberedOf, List.filter_map]
  rfl

theorem lines_eq_between (f : SourceFile) {first last : Nat} (hone : 1 ≤ first)
    (hle : first ≤ last) : f.lines first last = (between first last f.text).map (·.2) := by
  rw [← f.zipIdx_lines hone hle, List.map_map]
  exact (List.zipIdx_map_fst _ _).symm

end SourceFile

/-! ### Joined lines -/

theorem Text.normalisedText_eq (text : String) : ∃ rest, normalisedText text =
    "\n".intercalate (linesOf text ++ rest) := by
  have hjoin : normalisedText text =
      "\n".intercalate (((normalised text.toList).splitOn '\n').map String.ofList) := by
    refine String.toList_inj.mp ?_
    rw [normalisedText, String.toList_ofList, String.toList_intercalate, List.map_map]
    have hid : String.toList ∘ String.ofList = id := funext fun cs => String.toList_ofList
    rw [hid, List.map_id]
    exact (List.intercalate_splitOn '\n').symm
  rw [hjoin, linesOf, withoutEmptyEnd]
  split
  · next hlast =>
    refine ⟨[""], congrArg _ ?_⟩
    obtain ⟨ps, hps⟩ := List.getLast?_eq_some_iff.mp hlast
    rw [hps, List.dropLast_concat, List.map_append]
    rfl
  · exact ⟨[], by rw [List.append_nil]⟩

/-- Where some lines stand among others, what they join to stands between ends of lines. -/
theorem Text.intercalate_between (before : List String) {lines : List String} (h : lines ≠ [])
    (after : List String) : ∃ a b,
      "\n".intercalate (before ++ lines ++ after) = a ++ "\n".intercalate lines ++ b ∧
        (a = "" ∨ ∃ a', a = a' ++ "\n") ∧ (b = "" ∨ ∃ b', b = "\n" ++ b') := by
  have hafter : ∃ b, "\n".intercalate (lines ++ after) = "\n".intercalate lines ++ b ∧
      (b = "" ∨ ∃ b', b = "\n" ++ b') := by
    by_cases hnil : after = []
    · exact ⟨"", by rw [hnil, List.append_nil, String.append_empty], .inl rfl⟩
    · exact ⟨"\n" ++ "\n".intercalate after,
        by rw [String.intercalate_append_of_ne_nil h hnil, String.append_assoc], .inr ⟨_, rfl⟩⟩
  obtain ⟨b, hb, hend⟩ := hafter
  rw [List.append_assoc]
  by_cases hnil : before = []
  · exact ⟨"", b, by rw [hnil, List.nil_append, hb, String.empty_append], .inl rfl, hend⟩
  · refine ⟨"\n".intercalate before ++ "\n", b, ?_, .inr ⟨_, rfl⟩, hend⟩
    rw [String.intercalate_append_of_ne_nil hnil (List.append_ne_nil_of_left_ne_nil h _), hb,
      ← String.append_assoc]

namespace Extent

variable {f : SourceFile} {first last : Nat} {e : Extent}

theorem eq_of_new? (h : new? f first last = some e) :
    e = ⟨f, first, last⟩ ∧ 1 ≤ first ∧ first ≤ last := by
  unfold new? at h
  split at h
  · rename_i hcond
    rw [Bool.and_eq_true, decide_eq_true_eq, decide_eq_true_eq] at hcond
    exact ⟨(Option.some.inj h).symm, hcond⟩
  · cases h

theorem lines_eq (h : new? f first last = some e) :
    e.lines = ((linesOf f.text).drop (first - 1)).take (last - first + 1) := by
  obtain ⟨rfl, hone, hle⟩ := eq_of_new? h
  rw [lines, f.lines_of_le hone hle, SourceFile.allLines_eq]

/-- The source of lines that exist is a piece of the text, from the start of a line to the end of
one. -/
theorem source_between (h : new? f first last = some e) (hle : first ≤ (linesOf f.text).length) :
    ∃ a b, normalisedText f.text = a ++ e.source ++ b ∧
      (a = "" ∨ ∃ a', a = a' ++ "\n") ∧ (b = "" ∨ ∃ b', b = "\n" ++ b') := by
  obtain ⟨-, hone, -⟩ := eq_of_new? h
  obtain ⟨rest, hrest⟩ := normalisedText_eq f.text
  have hsplit : linesOf f.text = (linesOf f.text).take (first - 1) ++ e.lines ++
      ((linesOf f.text).drop (first - 1)).drop (last - first + 1) := by
    rw [lines_eq h, List.append_assoc, List.take_append_drop, List.take_append_drop]
  have hne : e.lines ≠ [] := by
    rw [← List.length_pos_iff, lines_eq h, List.length_take, List.length_drop]
    omega
  rw [hrest, hsplit, List.append_assoc]
  exact intercalate_between _ hne _

theorem source_eq_empty (h : new? f first last = some e) (hlt : (linesOf f.text).length < first) :
    e.source = "" := by
  rw [source, lines_eq h, List.drop_of_length_le (by omega), List.take_nil,
    String.intercalate_nil]

end Extent

/-! ### Numbers of 64 bits -/

namespace Word

/-- The sum, if it is a word. -/
def add? (a b : UInt64) : Option UInt64 := if a.toNat + b.toNat < 2 ^ 64 then some (a + b) else none

/-- The difference, if it is not negative. -/
def sub? (a b : UInt64) : Option UInt64 := if b ≤ a then some (a - b) else none

/-- How many numbers there are from `first` to `last`. -/
def span? (first last : UInt64) : Option UInt64 := do add? (← sub? last first) 1

/-- The lines with numbers from `first` to `last`. -/
def lines? (f : SourceFile) (first last : UInt64) : Option (List String) :=
  if first = 0 || last < first then some []
  else do
    let skipped ← sub? first 1
    let span ← span? first last
    return (f.allLines.drop skipped.toNat).take span.toNat

/-- The number after `n`, unless that is the last one. -/
def next? (n last : UInt64) : Option (Option UInt64) :=
  if n < last then (add? n 1).map some else some none

/-- Puts numbers up to `last` beside lines, until there are no more of the ones or the others. A
number is stepped on from before it is known whether there is a line for it. -/
def number? (last : UInt64) : Option UInt64 → List String → Option (List (UInt64 × String))
  | none, _ => some []
  | some n, [] => do
    let _ ← next? n last
    return []
  | some n, line :: rest => do
    let next ← next? n last
    return (n, line) :: (← number? last next rest)

/-- The lines with numbers from `first` to `last`, each with its number. -/
def numberedLines? (f : SourceFile) (first last : UInt64) : Option (List (UInt64 × String)) := do
  number? last (if first ≤ last then some first else none) (← lines? f first last)

theorem add?_eq_some {a b : UInt64} (h : a.toNat + b.toNat < 2 ^ 64) :
    ∃ c, add? a b = some c ∧ c.toNat = a.toNat + b.toNat :=
  ⟨a + b, if_pos h, by rw [UInt64.toNat_add, Nat.mod_eq_of_lt h]⟩

theorem sub?_eq_some {a b : UInt64} (h : b ≤ a) :
    ∃ c, sub? a b = some c ∧ c.toNat = a.toNat - b.toNat :=
  ⟨a - b, if_pos h, UInt64.toNat_sub_of_le a b h⟩

theorem one_le_toNat {n : UInt64} (h : n ≠ 0) : 1 ≤ n.toNat := by
  rw [Nat.one_le_iff_ne_zero]
  exact fun hzero => h (UInt64.toNat_inj.mp hzero)

/-- A range that does not start at zero has a word for its length, also if it ends at the last
word. -/
theorem span?_eq_some {first last : UInt64} (hne : first ≠ 0) (h : first ≤ last) :
    ∃ span, span? first last = some span ∧ span.toNat = last.toNat - first.toNat + 1 := by
  have hone := one_le_toNat hne
  have hlast := last.toNat_lt
  obtain ⟨d, hd, hdiff⟩ := sub?_eq_some h
  obtain ⟨span, hspan, hsum⟩ := add?_eq_some (a := d) (b := 1) (by
    rw [hdiff]
    change last.toNat - first.toNat + 1 < 2 ^ 64
    omega)
  exact ⟨span, by simp [span?, hd, hspan], by rw [hsum, hdiff]; rfl⟩

theorem lines?_eq (f : SourceFile) (first last : UInt64) :
    lines? f first last = some (f.lines first.toNat last.toNat) := by
  unfold lines? SourceFile.lines
  by_cases hempty : first = 0 ∨ last < first
  · have hnat : first.toNat = 0 ∨ last.toNat < first.toNat := by
      rcases hempty with rfl | hlt
      · exact .inl rfl
      · exact .inr (UInt64.lt_iff_toNat_lt.mp hlt)
    rw [if_pos (by simpa using hempty), if_pos (by simpa using hnat)]
  · obtain ⟨hne, hnlt⟩ := not_or.mp hempty
    have hle : first ≤ last := UInt64.not_lt.mp hnlt
    have hnat : ¬(first.toNat = 0 ∨ last.toNat < first.toNat) := by
      have hone := one_le_toNat hne
      have hle' := UInt64.le_iff_toNat_le.mp hle
      omega
    obtain ⟨skipped, hskipped, hskip⟩ := sub?_eq_some (a := first) (b := 1)
      (UInt64.le_iff_toNat_le.mpr (one_le_toNat hne))
    obtain ⟨span, hspan, hlen⟩ := span?_eq_some hne hle
    rw [if_neg (by simpa using hempty), if_neg (by simpa using hnat), hskipped, hspan]
    simp only [Option.bind_eq_bind, Option.bind_some, Option.pure_def, hskip, hlen]
    rfl

/-- Stepping on from a number in the range never fails: at the last one there is no step. -/
theorem next?_cases {n last : UInt64} (h : n ≤ last) :
    (∃ m, next? n last = some (some m) ∧ m.toNat = n.toNat + 1 ∧ m ≤ last) ∨
      (next? n last = some none ∧ n.toNat = last.toNat) := by
  have hle := UInt64.le_iff_toNat_le.mp h
  by_cases hlt : n < last
  · have hnat := UInt64.lt_iff_toNat_lt.mp hlt
    have hlast := last.toNat_lt
    obtain ⟨m, hm, hsum⟩ := add?_eq_some (a := n) (b := 1) (by
      change n.toNat + 1 < 2 ^ 64
      omega)
    have hsucc : m.toNat = n.toNat + 1 := hsum
    refine .inl ⟨m, ?_, hsucc, UInt64.le_iff_toNat_le.mpr (by omega)⟩
    rw [next?, if_pos hlt, hm]
    rfl
  · exact .inr ⟨if_neg hlt, Nat.le_antisymm hle (UInt64.le_iff_toNat_le.mp (UInt64.not_lt.mp hlt))⟩

/-- Lines get the numbers from `n` on, as long as there are numbers. -/
theorem number?_eq_some {n last : UInt64} (h : n ≤ last) (lines : List String) :
    ∃ xs, number? last (some n) lines = some xs ∧ xs.map (fun x => (x.1.toNat, x.2)) =
      ((lines.take (last.toNat - n.toNat + 1)).zipIdx n.toNat).map fun x => (x.2, x.1) := by
  induction lines generalizing n with
  | nil =>
    refine ⟨[], ?_, by simp⟩
    obtain ⟨m, hstep, -⟩ | ⟨hstep, -⟩ := next?_cases h <;> simp [number?, hstep]
  | cons line rest ih =>
    rw [List.take_succ_cons, List.zipIdx_cons, List.map_cons]
    obtain ⟨m, hstep, hm, hle⟩ | ⟨hstep, heq⟩ := next?_cases h
    · obtain ⟨xs, hxs, hmap⟩ := ih hle
      refine ⟨(n, line) :: xs, by simp [number?, hstep, hxs], ?_⟩
      have hle' := UInt64.le_iff_toNat_le.mp hle
      have htake : last.toNat - n.toNat = last.toNat - m.toNat + 1 := by omega
      rw [List.map_cons, hmap, htake, hm]
    · refine ⟨[(n, line)], by simp [number?, hstep], ?_⟩
      rw [← heq, Nat.sub_self, List.take_zero]
      rfl

theorem numberedLines?_eq_some {f : SourceFile} {first last : UInt64} {e : Extent}
    (h : Extent.new? f first.toNat last.toNat = some e) :
    ∃ xs, numberedLines? f first last = some xs ∧
      xs.map (fun x => (x.1.toNat, x.2)) = e.numberedLines := by
  obtain ⟨rfl, -, hle⟩ := Extent.eq_of_new? h
  have hwords : first ≤ last := UInt64.le_iff_toNat_le.mpr hle
  obtain ⟨xs, hxs, hmap⟩ := number?_eq_some hwords (f.lines first.toNat last.toNat)
  refine ⟨xs, by simp [numberedLines?, lines?_eq, hwords, hxs], ?_⟩
  rw [hmap, List.take_of_length_le]
  · rfl
  · unfold SourceFile.lines
    split
    · exact Nat.zero_le _
    · rw [List.length_take]
      exact Nat.min_le_left _ _

end Word

/-! ### Slices -/

/-- A slice is empty if it starts at zero or ends before it starts, and else has the lines of the
text whose numbers are in the range. Counting in words gives the same, with no sum or difference out
of range. Each line of an extent comes with its own number, and the source of an extent is a piece
of the text from the start of a line to the end of one, or empty if there are no such lines. -/
theorem SourceFile.lines_exact (f : SourceFile) (first last : UInt64) :
    ((first = 0 ∨ last < first) → f.lines first.toNat last.toNat = []) ∧
    (¬(first = 0 ∨ last < first) →
      f.lines first.toNat last.toNat = (between first.toNat last.toNat f.text).map (·.2)) ∧
    Word.lines? f first last = some (f.lines first.toNat last.toNat) ∧
    ∀ e, Extent.new? f first.toNat last.toNat = some e →
      (∃ span, Word.span? first last = some span ∧ span.toNat = e.lineSpan) ∧
      (∃ xs, Word.numberedLines? f first last = some xs ∧
        xs.map (fun x => (x.1.toNat, x.2)) = e.numberedLines) ∧
      e.numberedLines = between first.toNat last.toNat f.text ∧
      (first.toNat ≤ (linesOf f.text).length → ∃ a b, normalisedText f.text = a ++ e.source ++ b ∧
        (a = "" ∨ ∃ a', a = a' ++ "\n") ∧ (b = "" ∨ ∃ b', b = "\n" ++ b')) ∧
      ((linesOf f.text).length < first.toNat → e.source = "") := by
  refine ⟨fun hempty => ?_, fun hrange => ?_, Word.lines?_eq f first last, fun e he => ?_⟩
  · refine if_pos ?_
    rcases hempty with rfl | hlt
    · rfl
    · simp [UInt64.lt_iff_toNat_lt.mp hlt]
  · obtain ⟨hne, hnlt⟩ := not_or.mp hrange
    exact f.lines_eq_between (Word.one_le_toNat hne)
      (UInt64.le_iff_toNat_le.mp (UInt64.not_lt.mp hnlt))
  · obtain ⟨heq, hone, hle⟩ := Extent.eq_of_new? he
    have hne : first ≠ 0 := by
      rintro rfl
      exact absurd hone (by decide)
    refine ⟨?_, Word.numberedLines?_eq_some he, ?_, Extent.source_between he,
      Extent.source_eq_empty he⟩
    · rw [heq]
      exact Word.span?_eq_some hne (UInt64.le_iff_toNat_le.mpr hle)
    · rw [heq]
      exact f.zipIdx_lines hone hle

/-- All lines from the second one on, up to the last number that there is. -/
theorem SourceFile.lines_exact_tail :
    let f : SourceFile := ⟨0, ⟨"a.rb"⟩, "a\r\nb\r\r\n\nc"⟩
    f.lines 2 (2 ^ 64 - 1) = ["b\r", "", "c"] ∧
      Word.lines? f 2 (-1) = some (f.lines 2 (2 ^ 64 - 1)) ∧
      ∃ a b, normalisedText f.text = a ++ (⟨f, 2, 2 ^ 64 - 1⟩ : Extent).source ++ b ∧
        (a = "" ∨ ∃ a', a = a' ++ "\n") ∧ (b = "" ∨ ∃ b', b = "\n" ++ b') := by
  obtain ⟨-, -, hwords, hextent⟩ :=
    SourceFile.lines_exact ⟨0, ⟨"a.rb"⟩, "a\r\nb\r\r\n\nc"⟩ 2 (-1)
  obtain ⟨-, -, -, hsource, -⟩ := hextent ⟨_, 2, 2 ^ 64 - 1⟩ rfl
  exact ⟨by decide +kernel, hwords, hsource (by decide +kernel)⟩

end Outline
