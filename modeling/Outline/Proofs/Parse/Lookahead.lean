import Outline.Proofs.Parse.Stack
import Outline.Proofs.Ruby.Reading

/-! The next token goes on from where a version stands. It is looked for from there on, and text
that is skipped on the way has a start and an end that are no earlier, so that padding and size lead
from the one place to the next. -/
namespace Outline.Parse

open Text Ruby Session


/-! ### Reading -/

/-- The cursor is on the text from a byte on, and what was skipped ends no later than there. -/
structure Skips (text : List Char) (n : Nat) (skipping : Option (Offset × Offset)) (k : Cursor) :
    Prop where
  cursor : k.IsFrom text n
  stretch : ∀ x ∈ skipping, x.1.IsFrom text n ∧ x.2.IsFrom text n ∧ x.1.bytes ≤ x.2.bytes ∧
    x.2.bytes ≤ k.pos.bytes

/-- What is read starts and ends at places from a byte on. -/
def Reading.IsFrom (text : List Char) (n : Nat) : Reading → Prop
  | mark r _ _ => r.IsFrom text n
  | token l _ => l.IsFrom text n
  | skipped a b => a.IsFrom text n ∧ b.IsFrom text n ∧ a.bytes ≤ b.bytes

def Attempt.IsFrom (text : List Char) (n : Nat) : Attempt → Prop
  | found r => r.IsFrom text n
  | again skipping k => Skips text n skipping k

variable {text : List Char} {n : Nat} {skipping : Option (Offset × Offset)} {k : Cursor}

theorem Skips.after (h : Skips text n skipping k) {r : Reading} (hr : r.IsFrom text n) :
    (r.after skipping).IsFrom text n := by
  cases skipping with
  | none => exact hr
  | some x =>
    obtain ⟨hstart, hstop, hle, -⟩ := h.stretch x rfl
    exact ⟨hstart, hstop, hle⟩

theorem isFrom_skip {past : Offset × Offset} (hstart : past.1.IsFrom text n)
    (hstop : past.2.IsFrom text n) (hle : past.1.bytes ≤ past.2.bytes) (hk : k.IsFrom text n)
    (hreached : past.1.bytes ≤ k.pos.bytes) : (Attempt.skip past k).IsFrom text n := by
  unfold Attempt.skip
  split
  · split
    · exact ⟨hstart, hstop, hle⟩
    · refine ⟨hk.next, fun x hx => ?_⟩
      cases hx
      exact ⟨hstart, hk.next.pos, hreached.trans k.bytes_le_next, Nat.le_refl _⟩
  · refine ⟨hk, fun x hx => ?_⟩
    cases hx
    exact ⟨hstart, hk.pos, hreached, Nat.le_refl _⟩

/-- Nothing is skipped before the text is read as skipped text. -/
theorem isFrom_ofLexed (h : Skips text n skipping k) {l : Lexed} (hl : l.IsFrom text k.pos.bytes)
    {lost : Bool} (hlost : lost = false → skipping = none) {start : Cursor}
    (hstart : start.IsFrom text n) : (Attempt.ofLexed l lost skipping start).IsFrom text n := by
  have hn : n ≤ k.pos.bytes := h.cursor.le
  have hreached : l.reached.IsFrom text n := ⟨hl.reached.isOn, hn.trans hl.reached.le⟩
  have hlstart : l.start.IsFrom text n := ⟨hl.start.isPlace, hn.trans hl.start.le⟩
  unfold Attempt.ofLexed
  split
  · refine h.after ⟨hlstart, ⟨hl.stop.isPlace, hn.trans hl.stop.le⟩, hreached, hl.start_le,
      hl.stop_le⟩
  · split
    · next hnot =>
      obtain rfl : lost = false := by simpa using hnot
      rw [hlost rfl]
      exact ⟨hstart, by simp⟩
    · cases skipping with
      | none =>
        exact isFrom_skip hlstart hlstart (Nat.le_refl _) hreached (hl.start_le.trans hl.stop_le)
      | some x =>
        obtain ⟨ha, hb, hle, hbefore⟩ := h.stretch x rfl
        exact isFrom_skip ha hb hle hreached (hle.trans (hbefore.trans hl.reached.le))

section Version

variable (s : Session) (v state : Nat) (before : Option Opened) (lost : Bool)

theorem isFrom_markAt (hk : k.IsFrom text n) :
    ∀ x ∈ markAt s v state before lost k, x.1.IsFrom text n := by
  intro x hx
  unfold markAt at hx
  extract_lets e at hx
  split at hx
  · cases hx
  · split at hx
    · cases hx
    · next r hr =>
      extract_lets record changes idle label useless at hx
      split at hx
      · cases hx
      · obtain rfl := Option.some.inj hx
        exact isFrom_recognise e _ hk r hr

theorem isFrom_lexedAt (hk : k.IsFrom text n) : (lexedAt state lost k).IsFrom text n := by
  unfold lexedAt
  extract_lets mode
  cases mode with
  | none => exact ⟨hk.pos, hk.pos, hk, Nat.le_refl _, Nat.le_refl _⟩
  | some m => exact m.isFrom_read hk

variable {lost} {origin : Offset} (hlost : lost = false → skipping = none)
  (horigin : (s.text.cursor origin).IsFrom text n)
include hlost horigin

/-- One look for a token. -/
theorem isFrom_attempt (h : Skips text n skipping k) :
    (attempt s v state before origin lost skipping k).IsFrom text n := by
  have hmark := isFrom_markAt s v state before lost h.cursor
  have hhere : k.IsFrom text k.pos.bytes := ⟨h.cursor.isOn, Nat.le_refl _⟩
  have hlexed := isFrom_lexedAt state lost hhere
  rw [attempt]
  generalize markAt s v state before lost k = found at hmark
  generalize lexedAt state lost k = l at hlexed
  cases found with
  | none =>
    rw [Option.map_none, Option.getD_none]
    exact isFrom_ofLexed h hlexed hlost horigin
  | some x =>
    obtain ⟨r, record, changes⟩ := x
    exact h.after (r := .mark r record changes) (hmark (r, record, changes) rfl)

/-- Looking goes on until a token is found or all text is skipped. -/
theorem isFrom_readFrom (fuel : Nat) (h : Skips text n skipping k) :
    (readFrom s v state before origin fuel lost skipping k).IsFrom text n := by
  induction fuel generalizing lost skipping k with
  | zero =>
    rw [readFrom]
    cases skipping with
    | none => exact ⟨h.cursor.pos, h.cursor.pos, Nat.le_refl _⟩
    | some x =>
      obtain ⟨hstart, -, hle, hbefore⟩ := h.stretch x rfl
      exact ⟨hstart, h.cursor.pos, hle.trans hbefore⟩
  | succ fuel ih =>
    have hattempt := isFrom_attempt s v state before hlost horigin h
    rw [readFrom]
    generalize attempt s v state before origin lost skipping k = a at hattempt
    cases a with
    | found r => exact hattempt
    | again skipping k => exact ih (by simp) hattempt

end Version

/-! ### Tokens -/

theorem Tree.isToken_node {s : Summary} {a p q : Offset} (hfirst : s.first = s.label)
    (hpadding : s.padding = p.since a) (hsize : s.size = q.since p) (ha : a.IsPlace text)
    (hp : p.IsFrom text a.bytes) (hq : q.IsFrom text a.bytes) (hpq : p.bytes ≤ q.bytes) :
    (node s []).IsToken text a := by
  have hstart : a + s.padding = p := hpadding ▸ ha.add_since hp.isPlace hp.le
  have hstop : p + s.size = q := hsize ▸ hp.isPlace.add_since hq.isPlace hpq
  refine ⟨rfl, hfirst, q, hstart ▸ hp.isPlace, ?_, hq.isPlace, .inl rfl⟩
  rw [hstart, hstop]

/-- The next token of a version goes on from where it stands. -/
theorem ensures_lookahead {text : String} {s : Session} {v : Nat} {p : Offset} {c : Bool}
    (h : s.Good text) (hv : s.stands[v]? = some ⟨p, c⟩) (state : Nat) :
    Ensures text (lookahead v state) s fun t l =>
      l = s.stands ∧ ∀ x ∈ t, x.IsToken text.toList p := by
  have hp : p.IsPlace text.toList := h.place_isPlace hv
  unfold lookahead
  rw [ensures_get]
  split
  · exact ensures_pure h ⟨rfl, by simp⟩
  · extract_lets origin before k
    have horigin : origin = p := position_top hv
    have hk : k.IsFrom text.toList p.bytes := by
      have hcursor : k = (Passage.ofString text).cursor p := by rw [← h.text_eq, ← horigin]
      rw [hcursor]
      exact ⟨Passage.isOn_cursor hp, Nat.le_refl _⟩
    have hread : (readFrom s v state before origin (2 * k.rest.length + 4) (state = 0) none
        k).IsFrom text.toList p.bytes :=
      isFrom_readFrom s v state before (fun _ => rfl) hk _ ⟨hk, by simp⟩
    generalize readFrom s v state before origin (2 * k.rest.length + 4) (state = 0) none k = r
      at hread
    rw [horigin]
    have hsome {x : Tree} (hx : x.IsToken text.toList p) :
        Ensures text (pure (some x)) s fun t l => l = s.stands ∧ ∀ x ∈ t, x.IsToken text.toList p :=
      ensures_pure h ⟨rfl, by simpa using hx⟩
    cases r with
    | skipped a b =>
      obtain ⟨ha, hb, hle⟩ := hread
      exact hsome (Tree.isToken_node rfl rfl rfl hp ha hb hle)
    | mark r record changes =>
      exact hsome (Tree.isToken_node rfl rfl rfl hp hread.start hread.stop hread.start_le)
    | token l t =>
      dsimp only
      split
      · exact hsome (Tree.isToken_node rfl rfl rfl hp hread.start hread.stop hread.start_le)
      · exact hsome (Tree.isToken_node rfl rfl rfl hp hread.start hread.stop hread.start_le)

end Outline.Parse
