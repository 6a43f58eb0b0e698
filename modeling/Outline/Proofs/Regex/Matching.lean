import Mathlib.Logic.Function.Iterate
import Outline.Regex.Basic

/-! What it means that a regular expression matches. A match leads from one place of a text to
another: over a character, through parts one after the other, through one of two parts, or through a
part several times. Running an expression over marks follows all matches at once: it marks exactly
the places that matches lead to from marked ones, and a repetition without end needs no more rounds
than the text has places, as no match leads backwards. -/
namespace Outline.Regex

/-! ### Repetition -/

/-- A relation leads from one place to another in so many steps. -/
inductive Steps (R : Nat → Nat → Prop) : Nat → Nat → Nat → Prop
  | zero (i : Nat) : Steps R 0 i i
  | succ {n i k j : Nat} (first : R i k) (rest : Steps R n k j) : Steps R (n + 1) i j

namespace Steps

variable {R : Nat → Nat → Prop} {m n i j k : Nat}

theorem zero_iff : Steps R 0 i j ↔ j = i := by
  constructor
  · intro h
    cases h
    rfl
  · rintro rfl
    exact zero j

theorem succ_iff : Steps R (n + 1) i j ↔ ∃ k, R i k ∧ Steps R n k j := by
  constructor
  · intro h
    cases h with
    | succ first rest => exact ⟨_, first, rest⟩
  · rintro ⟨k, first, rest⟩
    exact succ first rest

theorem add_iff : Steps R (m + n) i j ↔ ∃ k, Steps R m i k ∧ Steps R n k j := by
  induction m generalizing i with
  | zero => simp [zero_iff]
  | succ m ih =>
    rw [Nat.succ_add, succ_iff]
    simp only [ih, succ_iff]
    constructor
    · rintro ⟨l, first, k, front, back⟩
      exact ⟨k, ⟨l, first, front⟩, back⟩
    · rintro ⟨k, ⟨l, first, front⟩, back⟩
      exact ⟨l, first, k, front, back⟩

theorem snoc_iff : Steps R (n + 1) i j ↔ ∃ k, Steps R n i k ∧ R k j := by
  rw [add_iff]
  simp only [succ_iff, zero_iff, exists_eq_right']

theorem le (hR : ∀ i j, R i j → i ≤ j) (h : Steps R n i j) : i ≤ j := by
  induction h with
  | zero i => exact Nat.le_refl i
  | succ first rest ih => exact Nat.le_trans (hR _ _ first) ih

theorem le_of_le {b : Nat} (hR : ∀ i j, R i j → i ≤ b → j ≤ b) (h : Steps R n i j) (hi : i ≤ b) :
    j ≤ b := by
  induction h with
  | zero i => exact hi
  | succ first rest ih => exact ih (hR _ _ first hi)

/-- Steps that stay where they are can be left out, so that each of the others gains a place. -/
theorem exists_short (hR : ∀ i j, R i j → i ≤ j) (h : Steps R n i j) :
    ∃ m ≤ j - i, Steps R m i j := by
  induction h with
  | zero i => exact ⟨0, Nat.zero_le _, zero i⟩
  | @succ n i k j first rest ih =>
    obtain ⟨m, hm, hsteps⟩ := ih
    have hik := hR _ _ first
    have hkj := hsteps.le hR
    by_cases heq : k = i
    · subst heq
      exact ⟨m, hm, hsteps⟩
    · exact ⟨m + 1, by omega, succ first hsteps⟩

end Steps

/-! ### Matches -/

namespace Expr

variable {text : List Char}

/-- The expression matches the text from one place to another. A repetition may go on up to its
largest number of times, and has to be done its smallest number of times. -/
def Spans (text : List Char) : Expr → Nat → Nat → Prop
  | empty, i, j => j = i
  | chars s, i, j => j = i + 1 ∧ ∃ c, text[i]? = some c ∧ s.contains c = true
  | look l, i, j => j = i ∧ l.holds (text.take i).getLast? text[i]? = true
  | seq a b, i, j => ∃ k, a.Spans text i k ∧ b.Spans text k j
  | alt a b, i, j => a.Spans text i j ∨ b.Spans text i j
  | times least most e, i, j =>
    ∃ n, least ≤ n ∧ (∀ m ∈ most, n ≤ max least m) ∧ Steps (e.Spans text) n i j
  | capture e, i, j => e.Spans text i j

theorem Spans.le {e : Expr} {i j : Nat} (h : e.Spans text i j) : i ≤ j := by
  induction e generalizing i j with
  | empty => exact Nat.le_of_eq h.symm
  | chars s => exact h.1 ▸ Nat.le_succ i
  | look l => exact Nat.le_of_eq h.1.symm
  | seq a b iha ihb =>
    obtain ⟨k, ha, hb⟩ := h
    exact Nat.le_trans (iha ha) (ihb hb)
  | alt a b iha ihb => exact h.elim iha ihb
  | times least most e ih =>
    obtain ⟨n, -, -, hsteps⟩ := h
    exact hsteps.le fun _ _ => ih
  | capture e ih => exact ih h

theorem Spans.le_length {e : Expr} {i j : Nat} (h : e.Spans text i j) (hi : i ≤ text.length) :
    j ≤ text.length := by
  induction e generalizing i j with
  | empty => exact h ▸ hi
  | chars s =>
    obtain ⟨rfl, c, hc, -⟩ := h
    exact (List.getElem?_eq_some_iff.mp hc).1
  | look l => exact h.1 ▸ hi
  | seq a b iha ihb =>
    obtain ⟨k, ha, hb⟩ := h
    exact ihb hb (iha ha hi)
  | alt a b iha ihb => exact h.elim (iha · hi) (ihb · hi)
  | times least most e ih =>
    obtain ⟨n, -, -, hsteps⟩ := h
    exact hsteps.le_of_le (fun _ _ => ih) hi
  | capture e ih => exact ih h hi

end Expr

/-! ### Marks -/

namespace Marks

/-- The marks stand at the places of a text of `n` characters that have the property. -/
structure At (n : Nat) (P : Nat → Prop) (m : Marks) : Prop where
  length_eq : m.length = n + 1
  getElem?_iff : ∀ i, m[i]? = some true ↔ P i

variable {n : Nat} {P Q : Nat → Prop} {m l : Marks}

theorem At.le (h : m.At n P) {i : Nat} (hi : P i) : i ≤ n := by
  have hlt := (List.getElem?_eq_some_iff.mp ((h.getElem?_iff i).mpr hi)).1
  rw [h.length_eq] at hlt
  exact Nat.le_of_lt_succ hlt

theorem At.congr (h : m.At n P) (hPQ : ∀ i, P i ↔ Q i) : m.At n Q :=
  ⟨h.length_eq, fun i => (h.getElem?_iff i).trans (hPQ i)⟩

theorem At.exists_getElem? (h : m.At n P) {i : Nat} (hi : i ≤ n) : ∃ b, m[i]? = some b :=
  ⟨_, List.getElem?_eq_getElem (by rw [h.length_eq]; omega)⟩

theorem At.or (hm : m.At n P) (hl : l.At n Q) : (m.or l).At n fun i => P i ∨ Q i where
  length_eq := by simp [Marks.or, hm.length_eq, hl.length_eq]
  getElem?_iff i := by
    rw [Marks.or, List.getElem?_zipWith_eq_some, ← hm.getElem?_iff, ← hl.getElem?_iff]
    constructor
    · rintro ⟨b, c, hb, hc, hbc⟩
      rw [hb, hc]
      simpa using hbc
    · intro h
      have hi : i ≤ n := h.elim (fun h => hm.le ((hm.getElem?_iff i).mp h))
        fun h => hl.le ((hl.getElem?_iff i).mp h)
      obtain ⟨b, hb⟩ := hm.exists_getElem? hi
      obtain ⟨c, hc⟩ := hl.exists_getElem? hi
      exact ⟨b, c, hb, hc, by simpa [hb, hc] using h⟩

/-- Stopping early changes nothing: what is not changed once is not changed again. -/
theorem iterate_eq (f : Marks → Marks) (n : Nat) (m : Marks) : iterate f n m = f^[n] m := by
  induction n generalizing m with
  | zero => rfl
  | succ n ih =>
    rw [iterate, Function.iterate_succ_apply]
    split
    · next hfix => rw [hfix, Function.iterate_fixed hfix]
    · exact ih (f m)

variable {R : Nat → Nat → Prop} {f : Marks → Marks}

/-- The function takes marks along a relation. -/
def Along (n : Nat) (R : Nat → Nat → Prop) (f : Marks → Marks) : Prop :=
  ∀ (P : Nat → Prop) (m : Marks), m.At n P → (f m).At n fun j => ∃ i, P i ∧ R i j

theorem Along.iterate (hf : Along n R f) (k : Nat) : Along n (Steps R k) (iterate f k) := by
  intro P m hm
  rw [iterate_eq]
  induction k with
  | zero => exact hm.congr fun j => by simp [Steps.zero_iff]
  | succ k ih =>
    rw [Function.iterate_succ_apply']
    refine (hf _ _ ih).congr fun j => ?_
    simp only [Steps.snoc_iff]
    constructor
    · rintro ⟨l, ⟨i, hi, hsteps⟩, hlast⟩
      exact ⟨i, hi, l, hsteps, hlast⟩
    · rintro ⟨i, hi, l, hsteps, hlast⟩
      exact ⟨l, ⟨i, hi, hsteps⟩, hlast⟩

/-- With the marks kept at each step, what is reached is what any smaller number of steps reaches. -/
theorem Along.iterate_or (hf : Along n R f) (k : Nat) :
    Along n (fun i j => ∃ r ≤ k, Steps R r i j) (Marks.iterate (fun m => m.or (f m)) k) := by
  intro P m hm
  rw [iterate_eq]
  induction k with
  | zero => exact hm.congr fun j => by simp [Steps.zero_iff]
  | succ k ih =>
    rw [Function.iterate_succ_apply']
    refine (ih.or (hf _ _ ih)).congr fun j => ?_
    constructor
    · rintro (⟨i, hi, r, hr, hsteps⟩ | ⟨l, ⟨i, hi, r, hr, hsteps⟩, hlast⟩)
      · exact ⟨i, hi, r, by omega, hsteps⟩
      · exact ⟨i, hi, r + 1, by omega, Steps.snoc_iff.mpr ⟨l, hsteps, hlast⟩⟩
    · rintro ⟨i, hi, r, hr, hsteps⟩
      by_cases hrk : r ≤ k
      · exact .inl ⟨i, hi, r, hrk, hsteps⟩
      · obtain rfl : r = k + 1 := by omega
        obtain ⟨l, hfront, hlast⟩ := Steps.snoc_iff.mp hsteps
        exact .inr ⟨l, ⟨i, hi, k, Nat.le_refl k, hfront⟩, hlast⟩

end Marks

/-! ### Runs -/

namespace Expr

open Marks (Along)

theorem getElem?_sides (text : List Char) {i : Nat} (hi : i ≤ text.length) :
    (sides text)[i]? = some ((text.take i).getLast?, text[i]?) := by
  have hbefore : (none :: text.map some)[i]? = some (text.take i).getLast? := by
    cases i with
    | zero => rfl
    | succ i => simp [List.getLast?_take, List.getElem?_eq_getElem hi]
  have hafter : (text.map some ++ [none])[i]? = some text[i]? := by
    rcases Nat.lt_or_eq_of_le hi with hlt | rfl
    · rw [List.getElem?_append_left (by simpa using hlt)]
      simp [List.getElem?_eq_getElem hlt]
    · simp
  rw [sides, List.getElem?_zip_eq_some]
  exact ⟨hbefore, hafter⟩

theorem length_sides (text : List Char) : (sides text).length = text.length + 1 := by
  simp [sides]

theorem along_chars (text : List Char) (s : Unicode.CodeSet) :
    Along text.length ((chars s).Spans text) ((chars s).run text) := by
  intro P m hm
  constructor
  · simp [run, hm.length_eq]
  · intro j
    cases j with
    | zero => simp [run, Spans]
    | succ i =>
      rw [run, List.getElem?_cons_succ, List.getElem?_zipWith_eq_some]
      simp only [Spans, Nat.add_right_cancel_iff, ← hm.getElem?_iff]
      constructor
      · rintro ⟨c, b, hc, hb, hmark⟩
        obtain ⟨rfl, hs⟩ := Bool.and_eq_true_iff.mp hmark
        exact ⟨i, hb, rfl, c, hc, hs⟩
      · rintro ⟨_, hb, rfl, c, hc, hs⟩
        exact ⟨c, true, hc, hb, hs⟩

theorem along_look (text : List Char) (l : Look) :
    Along text.length ((look l).Spans text) ((look l).run text) := by
  intro P m hm
  constructor
  · simp [run, length_sides, hm.length_eq]
  · intro j
    rw [run, List.getElem?_zipWith_eq_some]
    simp only [Spans, ← hm.getElem?_iff]
    constructor
    · rintro ⟨p, b, hp, hb, hmark⟩
      obtain ⟨rfl, hholds⟩ := Bool.and_eq_true_iff.mp hmark
      have hj := hm.le ((hm.getElem?_iff j).mp hb)
      obtain rfl := Option.some.inj ((getElem?_sides text hj).symm.trans hp)
      exact ⟨j, hb, rfl, hholds⟩
    · rintro ⟨_, hb, rfl, hholds⟩
      have hj := hm.le ((hm.getElem?_iff j).mp hb)
      exact ⟨_, true, getElem?_sides text hj, hb, hholds⟩

/-- A repetition is done its smallest number of times, then as often as it may be done more; with no
largest number, as often as the text has places is enough. -/
theorem times_iff {text : List Char} {e : Expr} {least : Nat} {most : Option Nat} {i j : Nat}
    (hi : i ≤ text.length) : (times least most e).Spans text i j ↔
      ∃ k, Steps (e.Spans text) least i k ∧
        ∃ r ≤ (most.map (· - least)).getD (text.length + 1), Steps (e.Spans text) r k j := by
  rw [Spans]
  constructor
  · rintro ⟨n, hleast, hmost, hsteps⟩
    obtain ⟨r, rfl⟩ := Nat.exists_eq_add_of_le hleast
    obtain ⟨k, hfront, hback⟩ := Steps.add_iff.mp hsteps
    refine ⟨k, hfront, ?_⟩
    cases most with
    | none =>
      obtain ⟨q, hq, hshort⟩ := hback.exists_short fun _ _ => Spans.le
      have hk := hfront.le_of_le (fun _ _ => Spans.le_length) hi
      have hj := hback.le_of_le (fun _ _ => Spans.le_length) hk
      refine ⟨q, ?_, hshort⟩
      rw [Option.map_none, Option.getD_none]
      omega
    | some most =>
      refine ⟨r, ?_, hback⟩
      have hle := hmost most rfl
      rw [Option.map_some, Option.getD_some]
      omega
  · rintro ⟨k, hfront, r, hr, hback⟩
    refine ⟨least + r, Nat.le_add_right _ _, fun m hm => ?_,
      Steps.add_iff.mpr ⟨k, hfront, hback⟩⟩
    rw [hm, Option.map_some, Option.getD_some] at hr
    omega

/-- A run marks the places that matches lead to from marked ones. -/
theorem along_run (text : List Char) (e : Expr) :
    Along text.length (e.Spans text) (e.run text) := by
  induction e with
  | empty => exact fun P m hm => hm.congr fun j => by simp [Spans]
  | chars s => exact along_chars text s
  | look l => exact along_look text l
  | seq a b iha ihb =>
    intro P m hm
    refine (ihb _ _ (iha _ _ hm)).congr fun j => ?_
    constructor
    · rintro ⟨k, ⟨i, hi, ha⟩, hb⟩
      exact ⟨i, hi, k, ha, hb⟩
    · rintro ⟨i, hi, k, ha, hb⟩
      exact ⟨k, ⟨i, hi, ha⟩, hb⟩
  | alt a b iha ihb =>
    intro P m hm
    refine ((iha _ _ hm).or (ihb _ _ hm)).congr fun j => ?_
    simp only [Spans, and_or_left, exists_or]
  | times least most e ih =>
    intro P m hm
    refine ((ih.iterate_or _) _ _ ((ih.iterate least) _ _ hm)).congr fun j => ?_
    constructor
    · rintro ⟨k, ⟨i, hi, hfront⟩, hback⟩
      exact ⟨i, hi, (times_iff (hm.le hi)).mpr ⟨k, hfront, hback⟩⟩
    · rintro ⟨i, hi, hspans⟩
      obtain ⟨k, hfront, hback⟩ := (times_iff (hm.le hi)).mp hspans
      exact ⟨k, ⟨i, hi, hfront⟩, hback⟩
  | capture e ih => exact ih

/-- An expression is found in a text if it matches from some place to some other. -/
theorem matchesIn_iff (e : Expr) (text : String) :
    e.matchesIn text = true ↔ ∃ i ≤ text.toList.length, ∃ j, e.Spans text.toList i j := by
  have hall : Marks.At text.toList.length (· ≤ text.toList.length)
      (List.replicate (text.toList.length + 1) true) := by
    refine ⟨List.length_replicate, fun i => ?_⟩
    rw [List.getElem?_replicate, ← Nat.lt_succ_iff]
    split
    · next hlt => exact iff_of_true rfl hlt
    · next hlt => exact iff_of_false nofun hlt
  have hrun := along_run text.toList e _ _ hall
  rw [matchesIn, List.any_eq_true]
  constructor
  · rintro ⟨b, hb, hmark⟩
    obtain ⟨j, hj⟩ := List.mem_iff_getElem?.mp hb
    obtain ⟨i, hi, hspans⟩ := (hrun.getElem?_iff j).mp (hj.trans (congrArg some hmark))
    exact ⟨i, hi, j, hspans⟩
  · rintro ⟨i, hi, j, hspans⟩
    exact ⟨true, List.mem_of_getElem? ((hrun.getElem?_iff j).mpr ⟨i, hi, hspans⟩), rfl⟩

end Expr

end Outline.Regex
