import Outline.Parse.Run
import Outline.Proofs.Parse.Lookahead
import Outline.Proofs.Parse.Recovery

/-! A parse from start to end. Each step keeps what is on the stacks fitted into the text, and so do
all rounds; the tree that is kept in the end takes up the text from its start. So every text has a
syntax tree that is well placed in it, whatever errors there are. -/
namespace Outline

open Text

namespace Parse

open Session

variable {text : String} {s : Session} {v : Nat} {p : Offset} {t : Tree}

/-! ### One token -/

theorem Tree.IsToken.asIdentifier {text : List Char} (h : t.IsToken text p) :
    (asIdentifier t).IsToken text p := by
  cases t
  exact ⟨h.parts_eq, rfl, h.fits⟩

theorem ensures_take (h : s.Good text) (hv : s.stands[v]? = some ⟨p, false⟩)
    (ht : t.IsToken text.toList p) {i : Nat} (hlabel : t.label = .terminal i) (extra : Bool)
    (next : Nat) : Ensures text (take v t extra next) s fun _ l => s.stands.length ≤ l.length := by
  obtain ⟨b, hfits, hsolid⟩ := ht.spans hlabel
  have hspans : Spans text.toList (some (t.withExtra extra)) p b :=
    ⟨hfits.withExtra extra, hsolid.withExtra extra⟩
  unfold take
  refine (ensures_push h hv hspans (by simp) next).bind fun _ s₁ h₁ hs₁ => ?_
  have hle : s.stands.length ≤ s₁.stands.length := by rw [hs₁, List.length_set]
  split
  · refine (ensures_modifyVersion_still h₁ v ?_).mono fun _ l hl => hl ▸ hle
    exact fun _ => ⟨rfl, rfl⟩
  · exact ensures_pure h₁ hle

/-- A version that pauses keeps the token it has met. -/
theorem ensures_pause (h : s.Good text) (hv : s.stands[v]? = some ⟨p, false⟩)
    (ht : t.IsToken text.toList p) (count : Nat) :
    Ensures text (modifyVersion v fun h => { h with status := .paused t, countAtError := count }) s
      fun _ l => s.stands.length ≤ l.length := by
  refine (ensures_modifyVersion h v (g := fun x => { x with paused := true }) ?_).mono
    fun _ l hl => by rw [hl, List.length_modify]
  intro x hx hholds
  obtain rfl : s.version v = x := by
    rw [Session.version, Array.getD_eq_getD_getElem?, hx]
    rfl
  refine ⟨⟨hholds.node_lt, fun u hu => ?_⟩, rfl⟩
  obtain rfl : t = u := by injection hu
  exact (position_top hv).symm ▸ ht

theorem ensures_meet (h : s.Good text) (hv : s.stands[v]? = some ⟨p, false⟩)
    (ht : t.IsToken text.toList p) (state : Nat) (label : Label) (action : Option Grammar.Action)
    (hlabel : action.isSome → ∃ i, t.label = .terminal i) :
    Ensures text (meet v state t label action) s fun _ l => s.stands.length ≤ l.length := by
  unfold meet
  split
  · obtain ⟨i, hi⟩ := hlabel rfl
    exact ensures_take h hv ht hi _ _
  · obtain ⟨i, hi⟩ := hlabel rfl
    exact ensures_take h hv ht hi _ _
  · obtain ⟨i, hi⟩ := hlabel rfl
    exact ensures_accept h hv ht hi
  · exact ensures_recover h hv ht
  · split
    · exact ensures_recover h hv ht
    · rw [ensures_get]
      exact ensures_pause h hv ht _

theorem exists_terminal_of_actionAt {state : Nat} {label : Label}
    (h : (actionAt state label).isSome) : ∃ i, label = .terminal i := by
  unfold actionAt at h
  split at h
  · exact ⟨_, rfl⟩
  · simp at h

/-- Acting on a token keeps the versions that were there. While productions are finished the version
stays where it stands, so that the token still goes on from there. -/
theorem ensures_act (h : s.Good text) (hv : s.stands[v]? = some ⟨p, false⟩) (fuel state : Nat)
    {lookahead : Option Tree} {label : Label}
    (ht : ∀ t ∈ lookahead, t.IsToken text.toList p ∧ label = t.label) :
    Ensures text (act v fuel state lookahead label) s fun _ l => s.stands.length ≤ l.length := by
  induction fuel generalizing s state lookahead label with
  | zero =>
    rw [act]
    exact ensures_halt_length h v (Nat.le_refl _)
  | succ fuel ih =>
    have hlt := (List.getElem?_eq_some_iff.mp hv).1
    rw [act]
    split
    · next k _ _ =>
      refine (ensures_reduce h hv k _).bind fun named s₁ h₁ hs₁ => ?_
      cases named with
      | none => exact ensures_halt_length h₁ v hs₁.older.length_le
      | some w =>
        obtain ⟨hle, hw⟩ := hs₁.named w rfl
        refine (ensures_replaceVersion_front h₁ hs₁.older hlt hle hw).bind fun _ s₂ h₂ hs₂ => ?_
        rw [set_eq_self hv] at hs₂
        have hv₂ := getElem?_of_isPrefix hs₂ hv
        rw [ensures_get]
        split
        · next t =>
          obtain ⟨htoken, -⟩ := ht t rfl
          refine (ih h₂ hv₂ _ fun u hu => ?_).mono fun _ l hl => hs₂.length_le.trans hl
          obtain rfl := Option.some.inj hu
          exact ⟨htoken, htoken.first_eq⟩
        · refine (ensures_lookahead h₂ hv₂ _).bind fun t s₃ h₃ ⟨hs₃, ht⟩ => ?_
          refine (ih h₃ (hs₃ ▸ hv₂) _ fun u hu => ?_).mono fun _ l hl =>
            hs₂.length_le.trans (hs₃ ▸ hl)
          cases hu
          exact ⟨ht u rfl, rfl⟩
    · split
      · exact ensures_halt_length h v (Nat.le_refl _)
      · next t =>
        obtain ⟨htoken, hlabel⟩ := ht t rfl
        split
        · refine ih h hv _ fun u hu => ?_
          obtain rfl := Option.some.inj hu
          cases t
          exact ⟨htoken.asIdentifier, rfl⟩
        · refine ensures_meet h hv htoken _ _ _ fun hsome => ?_
          exact hlabel ▸ exists_terminal_of_actionAt hsome

theorem ensures_advance (h : s.Good text) (hv : s.stands[v]? = some ⟨p, false⟩) :
    Ensures text (advance v) s fun _ l => s.stands.length ≤ l.length := by
  unfold advance
  rw [ensures_get]
  refine (ensures_lookahead h hv _).bind fun t s₁ h₁ ⟨hs₁, ht⟩ => ?_
  rw [← hs₁] at hv ⊢
  refine ensures_act h₁ hv _ _ fun u hu => ?_
  cases hu
  exact ⟨ht u rfl, rfl⟩

/-! ### Rounds -/

/-- A version that is active stands at a place. -/
theorem exists_stand_of_isActive (hlt : v < s.versions.size) (hactive : s.isActive v = true) :
    ∃ p, s.stands[v]? = some ⟨p, false⟩ := by
  refine ⟨(s.stand (s.version v)).place, (stands_of_lt hlt).trans (congrArg some ?_)⟩
  unfold isActive at hactive
  unfold stand
  split at hactive
  · next hstatus => rw [hstatus]
  · cases hactive

theorem ensures_advanceVersion (h : s.Good text) (hlt : v < s.stands.length) (fuel furthest : Nat) :
    Ensures text (advanceVersion v fuel furthest) s fun _ l => s.stands.length ≤ l.length := by
  induction fuel generalizing s with
  | zero => exact ensures_pure h (Nat.le_refl _)
  | succ fuel ih =>
    rw [advanceVersion, ensures_get]
    split
    · exact ensures_pure h (Nat.le_refl _)
    · next hactive =>
      obtain ⟨p, hv⟩ := exists_stand_of_isActive (by simpa using hlt) (by simpa using hactive)
      refine (ensures_advance h hv).bind fun _ s₁ h₁ hle => ?_
      rw [ensures_get]
      dsimp only
      split
      · exact ensures_pure h₁ hle
      · exact (ih h₁ (hlt.trans_le hle)).mono fun _ l hl => hle.trans hl

theorem ensures_advanceAll (h : s.Good text) (steps fuel v furthest : Nat) :
    Ensures text (advanceAll steps fuel v furthest) s fun _ _ => True := by
  induction fuel generalizing s v furthest with
  | zero => exact ensures_pure h trivial
  | succ fuel ih =>
    rw [advanceAll, ensures_versionCount]
    split
    · exact ensures_pure h trivial
    · next hlt =>
      exact (ensures_advanceVersion h (Nat.not_le.mp hlt) _ _).bind fun _ s₁ h₁ _ => ih h₁ _ _

theorem ensures_swap (h : s.Good text) (i j : Nat) :
    Ensures text (modify fun s => { s with versions := s.versions.swapIfInBounds i j }) s
      fun _ _ => True := by
  refine ⟨h.withVersions fun x hx => h.holds x ?_, trivial⟩
  rw [Array.mem_toList_iff] at hx ⊢
  unfold Array.swapIfInBounds at hx
  split at hx
  · split at hx
    · exact (Array.swap_perm _ _).mem_iff.mp hx
    · exact hx
  · exact hx

theorem ensures_compareWith (h : s.Good text) (mine : Standing) (i fuel j : Nat) :
    Ensures text (compareWith mine i fuel j) s fun _ _ => True := by
  induction fuel generalizing s i j with
  | zero => exact ensures_pure h trivial
  | succ fuel ih =>
    rw [compareWith]
    split
    · exact ensures_pure h trivial
    · refine (ensures_standing h j).bind fun other s₁ h₁ _ => ?_
      have hmerge {x : Run Nat}
          (hx : ∀ s' : Session, s'.Good text → Ensures text x s' fun _ _ => True) :
          Ensures text (do if ← merge j i then return i else x) s₁ fun _ _ => True := by
        refine (ensures_merge h₁ j i).bind fun merged s₂ h₂ _ => ?_
        split
        · exact ensures_pure h₂ trivial
        · exact hx s₂ h₂
      split
      · exact (ensures_removeVersion h₁ i).bind fun _ s₂ h₂ _ => ensures_pure h₂ trivial
      · exact hmerge fun s₂ h₂ => ih h₂ i (j + 1)
      · exact hmerge fun s₂ h₂ => ih h₂ i (j + 1)
      · exact hmerge fun s₂ h₂ => (ensures_swap h₂ i j).bind fun _ s₃ h₃ _ => ih h₃ i (j + 1)
      · exact (ensures_removeVersion h₁ j).bind fun _ s₂ h₂ _ => ih h₂ (i - 1) j

theorem ensures_weedOut (h : s.Good text) (fuel i : Nat) (least : Option Nat) :
    Ensures text (weedOut fuel i least) s fun _ _ => True := by
  induction fuel generalizing s i least with
  | zero => exact ensures_pure h trivial
  | succ fuel ih =>
    rw [weedOut, ensures_get]
    split
    · exact ensures_pure h trivial
    · split
      · exact (ensures_removeVersion h i).bind fun _ s₁ h₁ _ => ih h₁ _ _
      · refine (ensures_standing h i).bind fun mine s₁ h₁ _ => ?_
        exact (ensures_compareWith h₁ mine i _ 0).bind fun _ s₂ h₂ _ => ih h₂ _ _

theorem ensures_resumeRest (h : s.Good text) (fuel i count : Nat) (least : Option Nat) :
    Ensures text (resume.resumeRest fuel i count least) s fun _ _ => True := by
  induction fuel generalizing s i count with
  | zero => exact ensures_pure h trivial
  | succ fuel ih =>
    rw [resume.resumeRest]
    split
    · exact ensures_pure h trivial
    · rw [ensures_get]
      split
      · exact (ensures_removeVersion h i).bind fun _ s₁ h₁ _ => ih h₁ _ _
      · exact ih h _ _

theorem ensures_activate (h : s.Good text) (v : Nat) :
    Ensures text (modifyVersion v fun h => { h with status := .active }) s fun _ l =>
      l = s.stands.modify v fun x => { x with paused := false } :=
  ensures_modifyVersion h v fun _ _ hx => ⟨⟨hx.node_lt, fun _ ht => nomatch ht⟩, rfl⟩

/-- A version that is resumed goes on with the token it has kept. -/
theorem ensures_resume (h : s.Good text) (fuel i : Nat) (going : Bool) (least : Option Nat) :
    Ensures text (resume fuel i going least) s fun _ _ => True := by
  induction fuel generalizing s i going with
  | zero => exact ensures_pure h trivial
  | succ fuel ih =>
    rw [resume, ensures_get]
    split
    · exact ensures_pure h trivial
    · next hlt =>
      split
      · next t hstatus =>
        split
        · have ht := (h.holds_version i).paused t hstatus
          refine (ensures_activate h i).bind fun _ s₁ h₁ hs₁ => ?_
          have hi : s₁.stands[i]? = some ⟨(s.top i).position, false⟩ := by
            rw [hs₁, List.getElem?_modify_eq, stands_of_lt (Nat.not_le.mp hlt)]
            rfl
          rw [ensures_versionCount]
          refine (ensures_handleError h₁ hi ht).bind fun _ s₂ h₂ _ => ?_
          exact ensures_resumeRest h₂ _ _ _ _
        · exact (ensures_removeVersion h i).bind fun _ s₁ h₁ _ => ih h₁ _ _
      · exact ih h _ _

theorem ensures_condense (h : s.Good text) : Ensures text condense s fun _ _ => True := by
  unfold condense
  rw [ensures_versionCount]
  refine (ensures_weedOut h _ 0 none).bind fun least s₁ h₁ _ => ?_
  refine (ensures_takeVersions h₁ maxVersions).bind fun _ s₂ h₂ _ => ?_
  exact ensures_resume h₂ _ 0 false least

theorem ensures_rounds (h : s.Good text) (steps fuel furthest : Nat) :
    Ensures text (rounds steps fuel furthest) s fun _ _ => True := by
  induction fuel generalizing s furthest with
  | zero => exact ensures_pure h trivial
  | succ fuel ih =>
    rw [rounds]
    refine (ensures_advanceAll h steps _ _ _).bind fun furthest s₁ h₁ _ => ?_
    refine (ensures_condense h₁).bind fun least s₂ h₂ _ => ?_
    rw [ensures_get]
    extract_lets settled
    split
    · exact ensures_pure h₂ trivial
    · exact ih h₂ furthest

/-! ### The whole text -/

-- Nothing below looks into what a round does.
attribute [local irreducible] rounds

theorem good_start (text : String) : (start text).Good text := by
  have hnode (i : Nat) :
      ((start text).node i).position = {} ∧ ((start text).node i).links = [] := by
    cases i <;> exact ⟨rfl, rfl⟩
  refine ⟨rfl, Nat.zero_lt_one, fun i => ?_, fun i _ => (hnode i).1, fun i l hl => ?_,
    fun x hx => ?_, fun t ht => nomatch ht⟩
  · rw [(hnode i).1]
    exact Offset.isPlace_zero
  · rw [(hnode i).2] at hl
    cases hl
  · obtain rfl := List.mem_singleton.mp hx
    exact ⟨Nat.zero_lt_one, fun t ht => nomatch ht⟩

/-- What is kept after some rounds takes up the text from its start. -/
theorem exists_fits_finished (h : s.Good text) (steps fuel furthest : Nat) :
    ∃ b, (((rounds steps fuel furthest).run s).2.finished.getD (Tree.ofParts .error [] 0)).Fits
      text.toList {} b := by
  have hdone := (ensures_rounds h steps fuel furthest).1
  rw [show (rounds steps fuel furthest).run s = rounds steps fuel furthest s from rfl]
  generalize (rounds steps fuel furthest s).2 = done at hdone
  cases hfinished : done.finished with
  | none => exact ⟨{}, (Tree.fitAll_nil.mpr rfl).ofParts Offset.isPlace_zero _ _⟩
  | some t => exact hdone.finished t hfinished

theorem exists_fits_parse (text : String) : ∃ b, (parse text).Fits text.toList {} b := by
  unfold parse
  exact exists_fits_finished (good_start text) _ _ _

end Parse

-- The tree of a text is only known by where it fits.
attribute [local irreducible] Parse.parse

/-- The syntax tree of every text is well placed in it: all nodes start and end at places of the
text, inside the node they are part of and after the nodes before them. -/
theorem SyntaxTree.wellPlaced_ofText (text : String) : (ofText text).WellPlaced text := by
  obtain ⟨b, hfits⟩ := Parse.exists_fits_parse text
  have hplaced := wellPlaced_showTree (Parse.parse text) {} b hfits none
  rw [Offset.zero_add] at hplaced
  exact hplaced

end Outline
