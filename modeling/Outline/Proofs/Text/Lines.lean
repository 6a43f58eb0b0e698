import Outline.Proofs.Text.Position

/-! The lines of a text. They are the pieces between the line feeds once every carriage return
before a line feed is dropped, but for an empty piece at the end; and there is a line for every
byte, if a line feed counts to the line that it ends. -/
namespace Outline

namespace Text

/-! ### Pieces between line feeds -/

/-- The text with a line feed for every carriage return and line feed. -/
def normalised : List Char → List Char
  | [] => []
  | '\r' :: '\n' :: rest => '\n' :: normalised rest
  | c :: rest => c :: normalised rest

/-- The pieces, but for a last one that is empty. -/
def withoutEmptyEnd (ps : List (List Char)) : List (List Char) :=
  if ps.getLast? = some [] then ps.dropLast else ps

/-- The lines of a text, each without its end. -/
def linesOf (text : String) : List String :=
  (withoutEmptyEnd ((normalised text.toList).splitOn '\n')).map String.ofList

/-- A line without the carriage return that it may end in. -/
def chomp (line : List Char) : List Char :=
  if line.getLast? = some '\r' then line.dropLast else line

theorem normalised_cons_of_ne {c d : Char} {rest : List Char} (hd : d ≠ '\n') :
    normalised (c :: d :: rest) = c :: normalised (d :: rest) := by
  rw [normalised]
  rintro rest' - h
  exact hd (List.cons.inj h).1

theorem normalised_of_notMem {cs : List Char} (h : '\n' ∉ cs) : normalised cs = cs := by
  induction cs with
  | nil => rfl
  | cons c cs ih =>
    rw [List.mem_cons, not_or] at h
    cases cs with
    | nil => simp [normalised]
    | cons d cs =>
      have hd : d ≠ '\n' := fun hd => h.2 (hd ▸ List.mem_cons_self)
      rw [normalised_cons_of_ne hd, ih h.2]

/-- The first line of a text, with its end, apart from the rest. -/
theorem normalised_append {line : List Char} (h : '\n' ∉ line) (rest : List Char) :
    normalised (line ++ '\n' :: rest) = chomp line ++ '\n' :: normalised rest := by
  induction line with
  | nil => rfl
  | cons c line ih =>
    rw [List.mem_cons, not_or] at h
    cases line with
    | nil =>
      by_cases hc : c = '\r'
      · subst hc
        rfl
      · simp [normalised, chomp, hc]
    | cons d line =>
      have hd : d ≠ '\n' := fun hd => h.2 (hd ▸ List.mem_cons_self)
      have hchomp : chomp (c :: d :: line) = c :: chomp (d :: line) := by
        unfold chomp
        rw [List.getLast?_cons_cons, List.dropLast_cons_cons]
        split <;> rfl
      rw [List.cons_append, List.cons_append, normalised_cons_of_ne hd, ← List.cons_append, ih h.2,
        hchomp, List.cons_append]

theorem withoutEmptyEnd_cons (p : List Char) {ps : List (List Char)} (h : ps ≠ []) :
    withoutEmptyEnd (p :: ps) = p :: withoutEmptyEnd ps := by
  obtain ⟨q, ps, rfl⟩ := List.exists_cons_of_ne_nil h
  unfold withoutEmptyEnd
  rw [List.getLast?_cons_cons, List.dropLast_cons_cons]
  split <;> rfl

end Text

open Text

namespace SourceFile

theorem splitLines_lineFeed (rest acc : List Char) :
    splitLines ('\n' :: rest) acc =
      String.ofList (chomp acc.reverse) :: splitLines rest [] := by
  cases acc with
  | nil => rfl
  | cons d acc =>
    by_cases hd : d = '\r'
    · subst hd
      simp [splitLines, chomp]
    · simp [splitLines, chomp, hd]

theorem splitLines_cons {c : Char} (hc : c ≠ '\n') (rest acc : List Char) :
    splitLines (c :: rest) acc = splitLines rest (c :: acc) := by
  rw [splitLines]
  exact hc

/-- What is read of a line so far stands in front of what is left of the text. -/
theorem splitLines_eq (cs : List Char) {acc : List Char} (h : '\n' ∉ acc) :
    splitLines cs acc =
      (withoutEmptyEnd ((normalised (acc.reverse ++ cs)).splitOn '\n')).map String.ofList := by
  have hrev : '\n' ∉ acc.reverse := by rwa [List.mem_reverse]
  induction cs generalizing acc with
  | nil =>
    rw [List.append_nil, normalised_of_notMem hrev, List.splitOn_eq_singleton hrev]
    cases acc with
    | nil => rfl
    | cons c acc =>
      rw [withoutEmptyEnd, if_neg (by simp)]
      rfl
  | cons c rest ih =>
    by_cases hc : c = '\n'
    · subst hc
      have hchomp : '\n' ∉ chomp acc.reverse := by
        intro hmem
        unfold chomp at hmem
        split at hmem
        · exact hrev (List.mem_of_mem_dropLast hmem)
        · exact hrev hmem
      rw [splitLines_lineFeed, ih List.not_mem_nil List.not_mem_nil, normalised_append hrev,
        List.splitOn_append_cons_self_of_not_mem hchomp,
        withoutEmptyEnd_cons _ (List.splitOn_ne_nil _ _), List.map_cons]
      rfl
    · have hmem : '\n' ∉ c :: acc := by
        rw [List.mem_cons, not_or]
        exact ⟨Ne.symm hc, h⟩
      rw [splitLines_cons hc, ih hmem (by rwa [List.mem_reverse]), List.reverse_cons,
        List.append_assoc, List.singleton_append]

theorem allLines_eq (f : SourceFile) : f.allLines = linesOf f.text :=
  splitLines_eq f.text.toList List.not_mem_nil

theorem lines_of_le (f : SourceFile) {first last : Nat} (hone : 1 ≤ first) (hle : first ≤ last) :
    f.lines first last = (f.allLines.drop (first - 1)).take (last - first + 1) := by
  refine if_neg ?_
  simp only [Bool.or_eq_true, decide_eq_true_eq]
  omega

theorem splitLines_ne_nil (cs : List Char) {acc : List Char} (h : acc ≠ []) :
    splitLines cs acc ≠ [] := by
  induction cs generalizing acc with
  | nil =>
    obtain ⟨c, acc, rfl⟩ := List.exists_cons_of_ne_nil h
    exact List.cons_ne_nil _ _
  | cons c cs ih =>
    by_cases hc : c = '\n'
    · subst hc
      rw [splitLines_lineFeed]
      exact List.cons_ne_nil _ _
    · rw [splitLines_cons hc]
      exact ih (List.cons_ne_nil _ _)

/-- A character has a line, after as many others as there are line feeds before it. -/
theorem count_lt_length_splitLines (a : List Char) (c : Char) (b acc : List Char) :
    a.count '\n' < (splitLines (a ++ c :: b) acc).length := by
  induction a generalizing acc with
  | nil =>
    refine List.length_pos_iff.mpr ?_
    rw [List.nil_append]
    by_cases hc : c = '\n'
    · subst hc
      rw [splitLines_lineFeed]
      exact List.cons_ne_nil _ _
    · rw [splitLines_cons hc]
      exact splitLines_ne_nil b (List.cons_ne_nil _ _)
  | cons d a ih =>
    rw [List.cons_append]
    by_cases hd : d = '\n'
    · subst hd
      rw [splitLines_lineFeed, List.count_cons_self, List.length_cons]
      exact Nat.succ_lt_succ (ih [])
    · rw [splitLines_cons hd, List.count_cons_of_ne hd]
      exact ih (d :: acc)

end SourceFile

/-! ### Lines of bytes -/

namespace Text

theorem le_of_mem_digits {k code : Nat} {b : UInt8} (h : b ∈ digits k code) : 0x80 ≤ b.toNat := by
  induction k with
  | zero => cases h
  | succ k ih =>
    rcases List.mem_cons.mp h with rfl | h
    · rw [UInt8.toNat_ofNat']
      omega
    · exact ih h

/-- No character but the line feed has its byte among others. -/
theorem lineFeed_notMem_utf8EncodeChar {c : Char} (hc : c ≠ '\n') :
    (10 : UInt8) ∉ String.utf8EncodeChar c := by
  obtain ⟨k, hk, hleast, hlt, henc⟩ := utf8EncodeChar_eq c
  have hbyte := lead_lt_byte hk hlt
  rw [henc, List.mem_cons, not_or]
  refine ⟨fun hlead => ?_, fun hmem => absurd (le_of_mem_digits hmem) (by decide)⟩
  have hvalue : mark k + c.val.toNat / 64 ^ k = 10 := by
    have := congrArg UInt8.toNat hlead
    rw [UInt8.toNat_ofNat', Nat.mod_eq_of_lt hbyte] at this
    exact this.symm
  obtain rfl : k = 0 := by
    by_contra hne
    have hmark : 0xc0 ≤ mark k := by
      interval_cases k <;> simp [mark] at hne ⊢
    exact absurd (Nat.le_trans hmark (Nat.le_add_right _ _)) (by rw [hvalue]; decide)
  have hval : c.val.toNat = 10 := by simpa [mark] using hvalue
  exact hc (Char.ext (UInt32.toNat_inj.mp hval))

theorem count_utf8EncodeChar (c : Char) :
    (String.utf8EncodeChar c).count 10 = if c = '\n' then 1 else 0 := by
  split
  · next hc =>
    subst hc
    decide
  · next hc => exact List.count_eq_zero.mpr (lineFeed_notMem_utf8EncodeChar hc)

/-- A byte belongs to a character, and as many line feeds are before the one as before the other. -/
theorem exists_char_of_byte {cs : List Char} {n : Nat}
    (h : n < (cs.flatMap String.utf8EncodeChar).length) :
    ∃ a c b, cs = a ++ c :: b ∧
      ((cs.flatMap String.utf8EncodeChar).take n).count 10 = a.count '\n' := by
  induction cs generalizing n with
  | nil => cases h
  | cons d cs ih =>
    rw [List.flatMap_cons] at h ⊢
    by_cases hn : n < (String.utf8EncodeChar d).length
    · refine ⟨[], d, cs, rfl, ?_⟩
      rw [List.take_append_of_le_length (Nat.le_of_lt hn), List.count_nil, List.count_eq_zero]
      intro hmem
      by_cases hd : d = '\n'
      · -- the line feed is one byte, so nothing of it stands before another byte of it
        subst hd
        obtain rfl : n = 0 := Nat.lt_one_iff.mp hn
        cases hmem
      · exact lineFeed_notMem_utf8EncodeChar hd (List.mem_of_mem_take hmem)
    · obtain ⟨m, rfl⟩ : ∃ m, n = (String.utf8EncodeChar d).length + m :=
        ⟨n - (String.utf8EncodeChar d).length, by omega⟩
      rw [List.length_append] at h
      obtain ⟨a, c, b, rfl, hcount⟩ := ih (n := m) (by omega)
      refine ⟨d :: a, c, b, rfl, ?_⟩
      rw [List.take_length_add_append, List.count_append, hcount, count_utf8EncodeChar,
        List.count_cons, Nat.add_comm]
      simp only [beq_iff_eq]

theorem row_ofBytes (bs : List UInt8) : (Offset.ofBytes bs).row = bs.count 10 := by
  induction bs using List.reverseRecOn with
  | nil => rfl
  | append_singleton bs b ih =>
    rw [Offset.ofBytes_snoc, List.count_append, List.count_singleton, ← ih, Offset.pushByte]
    by_cases hb : b = 10 <;> simp [hb]

end Text

/-- There is a line for every byte of a file. -/
theorem rowAt_lt_length_allLines (f : SourceFile) {n : Nat} (h : n < (utf8 f.text).length) :
    rowAt f.text n < f.allLines.length := by
  rw [utf8_eq_flatMap] at h
  obtain ⟨a, c, b, hchars, hcount⟩ := exists_char_of_byte h
  rw [rowAt, row_ofBytes, utf8_eq_flatMap, hcount, SourceFile.allLines, hchars]
  exact SourceFile.count_lt_length_splitLines a c b []

end Outline
