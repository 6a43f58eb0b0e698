import Outline.Parse.Lookahead
import Outline.Proofs.Text.Reach

/-! Where tokens and marks are found. Whatever is read from a place of the text, by a pattern or
from its surroundings, starts and ends at places that are no earlier, and ends no earlier than it
starts. -/
namespace Outline

open Text

/-- A place of the text at or after a byte. -/
structure Text.Offset.IsFrom (text : List Char) (n : Nat) (o : Offset) : Prop where
  isPlace : o.IsPlace text
  le : n ≤ o.bytes

/-- A cursor on the text at or after a byte. -/
structure Text.Cursor.IsFrom (text : List Char) (n : Nat) (k : Cursor) : Prop where
  isOn : k.IsOn text
  le : n ≤ k.pos.bytes

namespace Text.Cursor.IsFrom

variable {text : List Char} {n : Nat} {k : Cursor}

theorem pos (h : k.IsFrom text n) : k.pos.IsFrom text n := ⟨h.isOn.isPlace, h.le⟩

theorem next (h : k.IsFrom text n) : k.next.IsFrom text n :=
  ⟨h.isOn.next, h.le.trans k.bytes_le_next⟩

theorem skipWhile (h : k.IsFrom text n) (p : Char → Bool) : (k.skipWhile p).IsFrom text n :=
  ⟨h.isOn.skipWhile p, h.le.trans (k.bytes_le_skipWhile p)⟩

theorem push {c : Char} {rest : List Char} {o : Offset} (h : IsFrom text n ⟨c :: rest, o⟩) :
    IsFrom text n ⟨rest, o.push c⟩ :=
  h.next

end Text.Cursor.IsFrom

namespace Ruby

variable {text : List Char} {n : Nat}

/-! ### Tokens by their patterns -/

/-- What is read starts and ends at places from a byte on, and no further than was looked. -/
structure Lexed.IsFrom (text : List Char) (n : Nat) (l : Lexed) : Prop where
  start : l.start.IsFrom text n
  stop : l.stop.IsFrom text n
  reached : l.reached.IsFrom text n
  start_le : l.start.bytes ≤ l.stop.bytes
  stop_le : l.stop.bytes ≤ l.reached.pos.bytes

namespace Mode

theorem isFrom_finish {start here : Offset} {found : Option (Nat × Offset)} {rest : List Char}
    (hstart : start.IsFrom text n) (hhere : Cursor.IsFrom text n ⟨rest, here⟩)
    (hfound : ∀ x ∈ found, x.2.IsFrom text n ∧ x.2.bytes ≤ here.bytes) :
    (run.finish start here found rest).IsFrom text n := by
  have hstop : ((found.map (·.2)).getD here).IsFrom text n ∧
      ((found.map (·.2)).getD here).bytes ≤ here.bytes := by
    cases found with
    | none => exact ⟨hhere.pos, Nat.le_refl _⟩
    | some x => exact hfound x rfl
  unfold run.finish
  refine ⟨?_, hstop.1, hhere, ?_, hstop.2⟩
  · dsimp only
    split
    · exact hstop.1
    · exact hstart
  · dsimp only
    split <;> omega

theorem isFrom_keep (m : Mode) (r : Reading) {here : Offset} {found : Option (Nat × Offset)}
    (hhere : here.IsFrom text n)
    (hfound : ∀ x ∈ found, x.2.IsFrom text n ∧ x.2.bytes ≤ here.bytes) :
    ∀ x ∈ run.keep m here r found, x.2.IsFrom text n ∧ x.2.bytes ≤ here.bytes := by
  unfold run.keep
  split
  · intro x hx
    cases hx
    exact ⟨hhere, Nat.le_refl _⟩
  · exact hfound

theorem isFrom_run (m : Mode) (r : Reading) (atEnd : Bool) {start here : Offset}
    {found : Option (Nat × Offset)} {rest : List Char} (hstart : start.IsFrom text n)
    (hhere : Cursor.IsFrom text n ⟨rest, here⟩)
    (hfound : ∀ x ∈ found, x.2.IsFrom text n ∧ x.2.bytes ≤ here.bytes) :
    (m.run r atEnd start here found rest).IsFrom text n := by
  induction rest generalizing r atEnd start here found with
  | nil =>
    rw [run]
    refine isFrom_finish hstart hhere ?_
    split
    · intro x hx
      cases hx
      exact ⟨hhere.pos, Nat.le_refl _⟩
    · exact isFrom_keep m r hhere.pos hfound
  | cons c rest ih =>
    have hkept := isFrom_keep m r hhere.pos hfound
    rw [run]
    dsimp only
    split
    · exact isFrom_finish hstart hhere hkept
    · split
      · exact isFrom_finish hstart hhere hkept
      · refine ih _ _ ?_ hhere.push fun x hx => ⟨(hkept x hx).1, ?_⟩
        · split
          · exact hhere.push.pos
          · exact hstart
        · have hpush := Offset.push_bytes here c
          have hle : x.2.bytes ≤ here.bytes := (hkept x hx).2
          omega

/-- A token is read from where reading starts. -/
theorem isFrom_read (m : Mode) {k : Cursor} (h : k.IsFrom text n) : (m.read k).IsFrom text n := by
  unfold read
  have hstart : (if k.pos.bytes = 0 && k.sees '\uFEFF' then k.next else k).IsFrom text n := by
    split
    · exact h.next
    · exact h
  exact isFrom_run m _ _ hstart.pos hstart (by simp)

end Mode

/-! ### Marks from their surroundings -/

namespace Reader

/-- The reader is at a place from a byte on, and so are the ends of the mark that are settled. -/
structure IsFrom (text : List Char) (n : Nat) (r : Reader) : Prop where
  cur : r.cur.IsFrom text n
  start : r.start.IsFrom text n
  stop : ∀ o ∈ r.stop, o.IsFrom text n

variable {r : Reader}

@[grind ←]
theorem IsFrom.next (h : r.IsFrom text n) : r.next.IsFrom text n :=
  ⟨h.cur.next, h.start, h.stop⟩

@[grind ←]
theorem IsFrom.skip (h : r.IsFrom text n) : r.skip.IsFrom text n :=
  ⟨h.cur.next, h.cur.next.pos, h.stop⟩

@[grind ←]
theorem IsFrom.settle (h : r.IsFrom text n) : r.settle.IsFrom text n := by
  refine ⟨h.cur, h.start, fun o ho => ?_⟩
  cases ho
  exact h.cur.pos

@[grind ←]
theorem IsFrom.nextIf (h : r.IsFrom text n) (p : Char → Bool) : (r.nextIf p).IsFrom text n := by
  unfold Reader.nextIf
  split
  · exact h.next
  · exact h

@[grind ←]
theorem IsFrom.nextWhile (h : r.IsFrom text n) (p : Char → Bool) :
    (r.nextWhile p).IsFrom text n :=
  ⟨h.cur.skipWhile p, h.start, h.stop⟩

end Reader

/-- A mark that starts and ends at places from a byte on. -/
structure Recognised.IsFrom (text : List Char) (n : Nat) (x : Recognised) : Prop where
  start : x.start.IsFrom text n
  stop : x.stop.IsFrom text n
  start_le : x.start.bytes ≤ x.stop.bytes

@[grind ←]
theorem Reader.IsFrom.found {r : Reader} (h : r.IsFrom text n) (m : Mark) (o : Opened) :
    (r.found m o).IsFrom text n := by
  have hstop : (r.stop.getD r.cur.pos).IsFrom text n := by
    cases hr : r.stop with
    | none => exact h.cur.pos
    | some o => exact h.stop o hr
  unfold Reader.found
  refine ⟨?_, hstop, ?_⟩
  · dsimp only
    split
    · exact hstop
    · exact h.start
  · dsimp only
    split <;> omega

section Marks

variable {r : Reader} (h : r.IsFrom text n)
include h

theorem isFrom_shortInterpolation (content : Option Mark) :
    (shortInterpolation r content).1.IsFrom text n := by
  unfold shortInterpolation
  grind

theorem isFrom_operatorName : ∀ r' ∈ operatorName r, r'.IsFrom text n := by
  unfold operatorName
  grind

theorem isFrom_symbolName : ∀ r' ∈ symbolName r, r'.IsFrom text n := by
  have hsigil : (if r.look = '@' then r.next.nextIf (· = '@') else r.nextIf (· = '$')).IsFrom
      text n := by
    split
    · exact h.next.nextIf _
    · exact h.nextIf _
  unfold symbolName
  dsimp only
  generalize (if r.look = '@' then r.next.nextIf (· = '@') else r.nextIf (· = '$')) = s at hsigil
  intro r' hr
  obtain ⟨t, ht, rfl⟩ := Option.map_eq_some_iff.mp hr
  have hhead : t.IsFrom text n := by
    split at ht
    · cases ht
      exact hsigil.next
    · exact isFrom_operatorName hsigil t ht
  have hname := (hhead.nextWhile inName).nextIf fun c => c = '?' || c = '!'
  grind

theorem isFrom_percentDelimiters (e : Expected) (kind : Mark) (interpolates : Bool) :
    ∀ x ∈ percentDelimiters e kind interpolates r, x.2.IsFrom text n := by
  unfold percentDelimiters
  grind

theorem isFrom_quoteStart (e : Expected) : ∀ x ∈ quoteStart e r, x.2.IsFrom text n := by
  have hlettered := isFrom_percentDelimiters h.next.next e
  have hplain := isFrom_percentDelimiters h.next e
  unfold quoteStart
  grind

theorem isFrom_heredocWord (indented : Bool) : ∀ x ∈ heredocWord r indented, x.2.IsFrom text n := by
  unfold heredocWord
  grind

theorem isFrom_stars (e : Expected) : ∀ x ∈ stars e r, x.2.IsFrom text n := by
  unfold stars
  grind

theorem isFrom_dash (e : Expected) : ∀ x ∈ dash e r, x.2.IsFrom text n := by
  unfold dash
  grind

theorem isFrom_suffixedWord (e : Expected) : ∀ x ∈ suffixedWord e r, x.2.IsFrom text n := by
  unfold suffixedWord
  -- which word takes no suffix does not matter, so its letters are not computed
  generalize "defined".toList = word
  grind

theorem isFrom_opening (e : Expected) (o : Opened) : ∀ x ∈ opening e o r, x.IsFrom text n := by
  unfold opening
  split
  · dsimp only
    split
    · simp
    · intro x hx
      obtain ⟨d, hd, rfl⟩ := Option.map_eq_some_iff.mp hx
      refine (isFrom_heredocWord ?_ _ d hd).found _ _
      split
      · exact h.next.next.next
      · exact h.next.next
  · intro x hx
    obtain ⟨q, hq, rfl⟩ := Option.map_eq_some_iff.mp hx
    exact (isFrom_quoteStart h e q hq).found _ _

theorem isFrom_startingMark (e : Expected) (o : Opened) :
    ∀ x ∈ startingMark e o r, x.IsFrom text n := by
  have hplain {y : Option (Mark × Reader)} (hy : ∀ z ∈ y, z.2.IsFrom text n) :
      ∀ x ∈ y.map fun z => z.2.found z.1 o, x.IsFrom text n := by
    intro x hx
    obtain ⟨z, hz, rfl⟩ := Option.map_eq_some_iff.mp hx
    exact (hy z hz).found _ _
  have hstars := hplain (isFrom_stars h e)
  have hdash := hplain (isFrom_dash h e)
  have hword := hplain (isFrom_suffixedWord h e)
  have hsymbol : ∀ x ∈ (symbolName r.next).map fun s => s.found .simpleSymbol o,
      x.IsFrom text n := by
    intro x hx
    obtain ⟨s, hs, rfl⟩ := Option.map_eq_some_iff.mp hx
    exact (isFrom_symbolName h.next s hs).found _ _
  have hopening := isFrom_opening h e o
  unfold startingMark
  dsimp only
  split
  · split
    · simp [h.next.found]
    · simp
  split
  · split
    · simp [h.next.next.found]
    · simp
  split
  · exact hstars
  split
  · exact hdash
  split
  · split
    · simp [h.next.next.found]
    · split
      · simp [h.next.next.found]
      · rw [Option.map_map]
        exact hsymbol
  split
  · simp [h.next.found]
  split
  · exact hword
  split
  · exact hopening
  · simp

end Marks

/-! ### Inside literals -/

theorem isFrom_literalContents (outer : List Quote) (rest : Opened) (fuel : Nat) (q : Quote)
    (nonempty : Bool) {r : Reader} (h : r.IsFrom text n) :
    ∀ x ∈ literalContents outer rest fuel q nonempty r, x.IsFrom text n := by
  induction fuel generalizing q nonempty r with
  | zero => simp [literalContents]
  | succ fuel ih =>
    have hshort := isFrom_shortInterpolation h.settle.next
    rw [literalContents]
    grind

theorem isFrom_heredocContents (d : Heredoc) (o : Opened) (fuel : Nat) (left : List Nat)
    (atWord nonempty : Bool) {r : Reader} (h : r.IsFrom text n) :
    ∀ x ∈ heredocContents d o fuel left atWord nonempty r, x.IsFrom text n := by
  induction fuel generalizing left atWord nonempty r with
  | zero => simp [heredocContents]
  | succ fuel ih =>
    have hshort := isFrom_shortInterpolation h.settle.next
    cases left with
    | nil =>
      have hblank := (h.settle.nextWhile fun c => c = ' ' || c = '\t')
      have hblank' := (h.nextWhile fun c => c = ' ' || c = '\t')
      rw [heredocContents]
      grind
    | cons b left =>
      rw [heredocContents]
      grind

theorem isFrom_blanks (e : Expected) (waiting : Bool) (fuel : Nat) (crossed : Bool) {r : Reader}
    (h : r.IsFrom text n) : ∀ x ∈ blanks e waiting fuel crossed r, x.1.IsFrom text n := by
  induction fuel generalizing crossed r with
  | zero => simp [blanks]
  | succ fuel ih =>
    rw [blanks]
    grind

/-- A mark is recognised from the place where it is looked for. -/
theorem isFrom_recognise (e : Expected) (o : Opened) {k : Cursor} (h : k.IsFrom text n) :
    ∀ x ∈ recognise e o k, x.IsFrom text n := by
  have hstart : (if k.pos.bytes = 0 && k.sees '\uFEFF' then k.next else k).IsFrom text n := by
    split
    · exact h.next
    · exact h
  unfold recognise
  dsimp only
  generalize (if k.pos.bytes = 0 && k.sees '\uFEFF' then k.next else k) = j at hstart
  have hr : Reader.IsFrom text n { cur := j, start := j.pos } := ⟨hstart, hstart.pos, by simp⟩
  split
  · exact isFrom_literalContents _ _ _ _ _ hr
  · exact isFrom_heredocContents _ _ _ _ _ _ hr
  · have hblanks := isFrom_blanks e
      (e.has .heredocBodyStart && (o.heredocs.head?.map (!·.started)).getD false)
      (j.rest.length + 2) false hr
    split
    · simp
    · next heq => simpa using (hblanks _ heq).found _ _
    · next heq => simpa using (hblanks _ heq).found _ _
    · next heq => exact isFrom_startingMark (hblanks _ heq) e o

end Ruby

end Outline
