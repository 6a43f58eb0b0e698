import Outline.Proofs.Parse.Stack

/-! Popping. A walk goes down from a version on all ways at once, and the trees on each way take up
the text from the node it has come to up to where the version stands. Each node at which a way ends
becomes a version of its own, after those that are there; the slices name these versions in order,
each at least once. -/
namespace Outline.Parse

open Text Session

variable {text : String} {s : Session} {v : Nat}

/-! ### Ways down -/

/-- Trees that lead from one place to another, for the stacks. -/
structure Backs (text : List Char) (p q : Offset) (ts : List Tree) : Prop where
  fits : Tree.FitAll text ts q p
  solid : ∀ t ∈ ts, t.Solid

/-- A way down from a place. -/
structure Path.Reaches (text : String) (s : Session) (place : Offset) (p : Path) : Prop where
  node_lt : p.node < s.nodes.size
  backs : Backs text.toList place (s.node p.node).position p.trees

theorem Path.Reaches.follow {place : Offset} {p : Path} {l : Link}
    (hp : p.Reaches text s place) (h : s.Good text) (hl : l ∈ (s.node p.node).links) :
    (p.follow l).Reaches text s place := by
  obtain ⟨hlt, hspans⟩ := h.link p.node l hl
  obtain ⟨node, tree⟩ := l
  cases tree with
  | none =>
    refine ⟨hlt, ?_, hp.backs.solid⟩
    rw [show (s.node (p.follow ⟨node, none⟩).node).position = _ from hspans]
    exact hp.backs.fits
  | some t =>
    exact ⟨hlt, ⟨_, hspans.1, hp.backs.fits⟩, List.forall_mem_cons.mpr ⟨hspans.2, hp.backs.solid⟩⟩

namespace Walk

variable {σ : Type} {visit : σ → Path → σ × Visit} {I J : Path → Prop}

/-- The paths taken are of one kind, and those to go on with of another. -/
structure All (I J : Path → Prop) (w : Walk σ) : Prop where
  taken : ∀ p ∈ w.taken, J p
  onward : ∀ p ∈ w.onward, I p
  branches : ∀ p ∈ w.branches, I p

theorem All.foldl_branches {w : Walk σ} (hw : w.All I J) {p : Path} {ls : List Link}
    (hls : ∀ l ∈ ls, I (p.follow l)) :
    (ls.foldl (fun (w : Walk σ) l => if maxPaths ≤ w.width then w
      else { w with branches := w.branches.push (p.follow l), width := w.width + 1 }) w).All I J := by
  refine List.foldlRecOn ls _ hw fun w hw l hl => ?_
  split
  · exact hw
  · refine ⟨hw.taken, hw.onward, fun q hq => ?_⟩
    rcases Array.mem_push.mp hq with hq | rfl
    · exact hw.branches q hq
    · exact hls l hl

section

variable
  (hfollow : ∀ k p, I p → (visit k p).2.stop = false → ∀ l ∈ (s.node p.node).links, I (p.follow l))
  (htake : ∀ k p, I p → (visit k p).2.take = true → J p)
include hfollow htake

theorem All.visitPath {w : Walk σ} (hw : w.All I J) {p : Path} (hp : I p) :
    (w.visitPath s visit p).All I J := by
  have htaken : ∀ q ∈ if (visit w.kept p).2.take then w.taken.push p else w.taken, J q := by
    split
    · next hpush =>
      intro q hq
      rcases Array.mem_push.mp hq with hq | rfl
      · exact hw.taken q hq
      · exact htake w.kept q hp hpush
    · exact hw.taken
  unfold Walk.visitPath
  dsimp only
  split
  · next first others hstop hlinks =>
    have hlink := hfollow w.kept p hp hstop
    rw [hlinks, List.forall_mem_cons] at hlink
    have hothers := All.foldl_branches (w := { w with
      kept := (visit w.kept p).1
      taken := if (visit w.kept p).2.take then w.taken.push p else w.taken })
      ⟨htaken, hw.onward, hw.branches⟩ hlink.2
    refine ⟨hothers.taken, fun q hq => ?_, hothers.branches⟩
    rcases Array.mem_push.mp hq with hq | rfl
    · exact hothers.onward q hq
    · exact hlink.1
  · exact ⟨htaken, hw.onward, hw.branches⟩

theorem All.rounds {w : Walk σ} (hw : w.All I J) (n : Nat) : (rounds s visit n w).All I J := by
  induction n generalizing w with
  | zero => exact hw
  | succ n ih =>
    rw [Walk.rounds]
    split
    · exact hw
    · refine ih ?_
      rw [← Array.foldl_toList]
      refine List.foldlRecOn _ _ ⟨hw.taken, by simp, by simp⟩ fun w' hw' p hp => ?_
      refine hw'.visitPath hfollow htake ?_
      rw [Array.toList_append, List.mem_append, Array.mem_toList_iff, Array.mem_toList_iff] at hp
      exact hp.elim (hw.onward p) (hw.branches p)

theorem forall_taken_start (init : σ) (hstart : I ⟨(s.version v).node, [], 0⟩) :
    ∀ p ∈ (start s v visit init).taken, J p := by
  refine (All.rounds hfollow htake ⟨by simp, ?_, by simp⟩ _).taken
  simpa using hstart

end

end Walk

/-! ### Slices -/

/-- Slices of the versions from number `n` on, in order; these stand where the trees of each of
their slices lead from, as `R` says. -/
structure Cut (R : Offset → List Tree → Prop) (n : Nat) (l : List Stand)
    (slices : List Slice) : Prop where
  ordered : slices.Pairwise fun a b => a.version ≤ b.version
  stands : ∀ sl ∈ slices, n ≤ sl.version ∧ ∃ q, l[sl.version - n]? = some ⟨q, false⟩ ∧ R q sl.trees
  covers : ∀ i < l.length, ∃ sl ∈ slices, sl.version = n + i

variable {R : Offset → List Tree → Prop} {n : Nat} {l : List Stand} {slices : List Slice}

theorem Cut.version_lt (h : Cut R n l slices) {sl : Slice} (hsl : sl ∈ slices) :
    sl.version < n + l.length := by
  obtain ⟨hle, q, hq, -⟩ := h.stands sl hsl
  have hlt := (List.getElem?_eq_some_iff.mp hq).1
  omega

theorem Cut.stands_first {slices : Array Slice} (h : Cut R n l slices.toList) {sl : Slice}
    (hsl : slices[0]? = some sl) :
    n ≤ sl.version ∧ ∃ q, l[sl.version - n]? = some ⟨q, false⟩ ∧ R q sl.trees :=
  h.stands sl (Array.mem_toList_iff.mpr (Array.mem_of_getElem? hsl))

theorem Cut.nil (n : Nat) : Cut R n [] [] := ⟨.nil, by simp, by simp⟩

/-- A slice of one more version. -/
theorem Cut.push (h : Cut R n l slices) {q : Offset} {ts : List Tree} (hq : R q ts) :
    Cut R n (l ++ [⟨q, false⟩]) (slices ++ [⟨ts, n + l.length⟩]) where
  ordered := by
    refine List.pairwise_append.mpr ⟨h.ordered, List.pairwise_singleton _ _, fun a ha b hb => ?_⟩
    rw [List.mem_singleton.mp hb]
    exact (h.version_lt ha).le
  stands sl hsl := by
    rcases List.mem_append.mp hsl with hsl | hsl
    · obtain ⟨hle, q, hq, hR⟩ := h.stands sl hsl
      exact ⟨hle, q, by rw [List.getElem?_append_left (List.getElem?_eq_some_iff.mp hq).1, hq], hR⟩
    · rw [List.mem_singleton.mp hsl]
      exact ⟨Nat.le_add_right _ _, q, by simp, hq⟩
  covers i hi := by
    rw [List.length_append, List.length_singleton] at hi
    by_cases hlt : i < l.length
    · obtain ⟨sl, hsl, hversion⟩ := h.covers i hlt
      exact ⟨sl, List.mem_append_left _ hsl, hversion⟩
    · exact ⟨_, List.mem_append_right _ (List.mem_singleton_self _), by simp; omega⟩

/-- One more slice of a version, after another one of it. -/
theorem Cut.insert {a : Slice} {before after : List Slice} (h : Cut R n l (before ++ a :: after))
    {q : Offset} {ts : List Tree} (hq : l[a.version - n]? = some ⟨q, false⟩) (hR : R q ts) :
    Cut R n l (before ++ a :: ⟨ts, a.version⟩ :: after) where
  ordered := by
    have hordered := h.ordered
    simp only [List.pairwise_append, List.pairwise_cons, List.mem_cons] at hordered ⊢
    grind
  stands sl hsl := by
    have hold := h.stands
    have hle := (h.stands a (by simp)).1
    simp only [List.mem_append, List.mem_cons] at hold hsl
    rcases hsl with hsl | rfl | rfl | hsl
    · exact hold sl (.inl hsl)
    · exact hold _ (.inr (.inl rfl))
    · exact ⟨hle, q, hq, hR⟩
    · exact hold sl (.inr (.inr hsl))
  covers i hi := by
    obtain ⟨sl, hsl, hversion⟩ := h.covers i hi
    refine ⟨sl, ?_, hversion⟩
    simp only [List.mem_append, List.mem_cons] at hsl ⊢
    tauto

theorem insertIdx_length_succ {α : Type} (before : List α) (a x : α) (after : List α) :
    (before ++ a :: after).insertIdx (before.length + 1) x = before ++ a :: x :: after := by
  induction before with
  | nil => rfl
  | cons b before ih => exact congrArg (b :: ·) ih

/-- Every path taken becomes a slice, of a version that stands where it has led. -/
theorem ensures_addSlices (h : s.Good text) (v : Nat) (l : List Stand) (paths : List Path)
    (acc : Array Slice) {l' : List Stand} (hs : s.stands = l ++ l')
    (hacc : Cut R l.length l' acc.toList)
    (hpaths : ∀ p ∈ paths, p.node < s.nodes.size ∧ R (s.node p.node).position p.trees) :
    Ensures text (addSlices v paths acc) s fun slices k =>
      ∃ l', k = l ++ l' ∧ Cut R l.length l' slices.toList := by
  induction paths generalizing s acc l' with
  | nil => exact ensures_pure h ⟨l', hs, hacc⟩
  | cons p paths ih =>
    rw [List.forall_mem_cons] at hpaths
    obtain ⟨⟨hlt, hR⟩, hpaths⟩ := hpaths
    rw [addSlices, ensures_get]
    dsimp only
    split
    · next i hfind =>
      -- The version of slice `i` is at the same node, so it stands where the path has led.
      have hi : i < acc.size := by simpa using List.mem_of_find?_eq_some hfind
      have hnode : (s.version (acc.getD i default).version).node = p.node := by
        simpa using List.find?_some hfind
      obtain ⟨before, a, after, hsplit, hlength⟩ : ∃ before a after,
          acc.toList = before ++ a :: after ∧ before.length = i :=
        ⟨acc.toList.take i, acc[i], acc.toList.drop (i + 1),
          by rw [← Array.getElem_toList, List.getElem_cons_drop, List.take_append_drop],
          List.length_take_of_le (by simpa using hi.le)⟩
      have ha : acc.getD i default = a := by
        rw [Array.getD_eq_getD_getElem?, ← Array.getElem?_toList, hsplit, ← hlength]
        simp
      rw [ha] at hnode
      rw [hsplit] at hacc
      obtain ⟨hle, q, hq, -⟩ := hacc.stands a (by simp)
      have hposition : (s.node p.node).position = q := by
        have hstand : s.stands[a.version]? = some ⟨q, false⟩ := by
          rw [hs, List.getElem?_append_right hle, hq]
        rw [← hnode]
        exact position_top hstand
      refine ih h _ hs ?_ hpaths
      have hinsert : (acc.insertIdxIfInBounds (i + 1) ⟨p.trees, a.version⟩).toList =
          before ++ a :: ⟨p.trees, a.version⟩ :: after := by
        rw [Array.insertIdxIfInBounds, dif_pos (by omega), Array.toList_insertIdx, hsplit, ← hlength,
          insertIdx_length_succ]
      rw [ha, hinsert]
      exact hacc.insert hq (hposition ▸ hR)
    · have hholds : s.Holds text { node := p.node, countAtError := (s.version v).countAtError,
                                   lastMark := (s.version v).lastMark } :=
        ⟨hlt, fun t ht => nomatch ht⟩
      obtain ⟨hgood, -, hstands⟩ := ensures_addVersion h hholds
      rw [hs, List.append_assoc] at hstands
      refine ih hgood _ hstands ?_ hpaths
      have hcount : s.versions.size = l.length + l'.length := by
        rw [← length_stands, hs, List.length_append]
      rw [Array.toList_push, hcount]
      exact hacc.push hR

/-! ### Popping -/

section Pop

variable {p : Offset} {c : Bool} (h : s.Good text) (hv : s.stands[v]? = some ⟨p, c⟩)
include h hv

theorem ensures_popWhere {σ : Type} {visit : σ → Path → σ × Visit} (init : σ) (K : Path → Prop)
    (hstart : K ⟨(s.version v).node, [], 0⟩)
    (hfollow : ∀ k q, K q → (visit k q).2.stop = false →
      ∀ l ∈ (s.node q.node).links, K (q.follow l))
    (htake : ∀ k q, K q → q.Reaches text s p → (visit k q).2.take = true →
      R (s.node q.node).position q.trees) :
    Ensures text (popWhere v visit init) s fun slices l =>
      ∃ l', l = s.stands ++ l' ∧ Cut R s.stands.length l' slices.toList := by
  have hreaches : Path.Reaches text s p ⟨(s.version v).node, [], 0⟩ :=
    ⟨(h.holds_version v).node_lt, position_top hv, by simp⟩
  have htaken : ∀ q ∈ (Walk.start s v visit init).taken,
      q.node < s.nodes.size ∧ R (s.node q.node).position q.trees := by
    refine Walk.forall_taken_start (I := fun q => K q ∧ q.Reaches text s p) ?_ ?_ init
      ⟨hstart, hreaches⟩
    · rintro k q ⟨hK, hq⟩ hstop l hl
      exact ⟨hfollow k q hK hstop l hl, hq.follow h hl⟩
    · rintro k q ⟨hK, hq⟩ hpush
      exact ⟨hq.node_lt, htake k q hK hq hpush⟩
  unfold popWhere
  rw [ensures_get]
  refine ensures_addSlices h v s.stands _ #[] (List.append_nil _).symm (.nil _) ?_
  simpa using htaken

theorem ensures_popSteps (n : Nat) :
    Ensures text (popSteps v n) s fun slices l =>
      ∃ l', l = s.stands ++ l' ∧ Cut (Backs text.toList p) s.stands.length l' slices.toList :=
  ensures_popWhere h hv () (fun _ => True) trivial (fun _ _ _ _ _ _ => trivial)
    fun _ _ _ hq _ => hq.backs

/-- Everything is popped down to the start of the text. -/
theorem ensures_popAll :
    Ensures text (popAll v) s fun slices l =>
      ∃ l', l = s.stands ++ l' ∧ Cut (fun q ts => q = {} ∧ Backs text.toList p q ts)
        s.stands.length l' slices.toList := by
  unfold popAll
  rw [ensures_get]
  refine ensures_popWhere h hv () (fun _ => True) trivial (fun _ _ _ _ _ _ => trivial) ?_
  intro _ q _ hq htake
  exact ⟨h.bottom q.node (List.isEmpty_iff.mp htake), hq.backs⟩

end Pop

/-- An error on top of a version is popped, and the version goes back to where it starts. -/
theorem ensures_popError {p : Offset} {c : Bool} (h : s.Good text)
    (hv : s.stands[v]? = some ⟨p, c⟩) :
    Ensures text (popError v) s fun t l => t = none ∧ l = s.stands ∨
      ∃ u q, t = some u ∧ Backs text.toList p q u.parts ∧ s.stands.set v ⟨q, false⟩ <+: l := by
  unfold popError
  rw [ensures_get]
  split
  · refine Ensures.bind (ensures_popWhere
      (R := fun q ts => ∃ u, ts = [u] ∧ u.label = .error ∧ Backs text.toList p q ts)
      h hv false (fun q => q.trees.length ≤ 1) (by simp) ?_ ?_) fun slices s₁ h₁ hs₁ => ?_
    · intro k q _ hstop l _
      have hnil : q.trees = [] := by
        rw [← List.getLast?_eq_none_iff]
        cases hlast : q.trees.getLast? with
        | none => rfl
        | some t =>
          simp only [hlast] at hstop
          split at hstop <;> simp at hstop
      unfold Path.follow
      split <;> simp [hnil]
    · intro k q hlength hq htake
      obtain ⟨u, hu⟩ : ∃ u, q.trees.getLast? = some u := by
        cases hlast : q.trees.getLast? with
        | none => simp [hlast] at htake
        | some u => exact ⟨u, rfl⟩
      have hlabel : u.label = .error := by
        by_contra hne
        simp [hu, hne] at htake
      obtain ⟨ts, hts⟩ := List.getLast?_eq_some_iff.mp hu
      have hnil : ts = [] := by
        rw [hts, List.length_append, List.length_singleton] at hlength
        exact List.length_eq_zero_iff.mp (by omega)
      exact ⟨u, by rw [hts, hnil, List.nil_append], hlabel, hq.backs⟩
    · obtain ⟨l', hl', hcut⟩ := hs₁
      have hlt := (List.getElem?_eq_some_iff.mp hv).1
      cases hfirst : slices[0]? with
      | none =>
        have hempty : slices.toList = [] := by simpa using hfirst
        have hnone : l' = [] := by
          rw [hempty] at hcut
          by_contra hne
          simpa using hcut.covers 0 (List.length_pos_iff.mpr hne)
        exact ensures_pure h₁ (.inl ⟨rfl, by rw [hl', hnone, List.append_nil]⟩)
      | some sl =>
        obtain ⟨hle, q, hq, u, hu, hlabel, hbacks⟩ := hcut.stands_first hfirst
        have hstand : s₁.stands[sl.version]? = some ⟨q, false⟩ := by
          rw [hl', List.getElem?_append_right hle, hq]
        rw [hu] at hbacks
        have hold : s.stands <+: s₁.stands := hl' ▸ List.prefix_append _ _
        refine (ensures_replaceVersion_front h₁ hold hlt hle hstand).bind fun _ s₂ h₂ hs₂ => ?_
        refine ensures_pure h₂ (.inr ⟨u, q, by rw [hu]; rfl, ?_, hs₂⟩)
        have hsolid := hbacks.solid u (List.mem_singleton_self u)
        refine ⟨(Tree.fitAll_singleton.mp hbacks.fits).fitAll_parts hsolid ?_, hsolid.inside hlabel⟩
        simp [hlabel, Label.terminal]
  · exact ensures_pure h (.inl ⟨rfl, rfl⟩)

end Outline.Parse
