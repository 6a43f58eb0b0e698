import Outline.Parse.Recovery
import Outline.Proofs.Parse.Reduction

/-! Going on after an error. Whatever is tried, the versions that were there stay where they stand,
and the one that met the error goes on from its own place: past the token, or back to an earlier
place with an error over what was read since. -/
namespace Outline.Parse

open Text Session

variable {text : String} {s : Session} {v : Nat} {p q : Offset} {c : Bool} {t : Tree}

/-- A version that is halted is still there. -/
theorem ensures_halt_length (h : s.Good text) (v : Nat) {n : Nat} (hn : n ≤ s.stands.length) :
    Ensures text (halt v) s fun _ l => n ≤ l.length :=
  (ensures_halt h v).mono fun _ l hl => by rwa [hl, List.length_modify]

/-! ### Comparing -/

theorem ensures_countSinceError (h : s.Good text) (v : Nat) :
    Ensures text (countSinceError v) s fun _ l => l = s.stands := by
  unfold countSinceError
  rw [ensures_get]
  dsimp only
  split
  · refine (ensures_modifyVersion_still h v ?_).bind fun _ s₁ h₁ hs₁ => ensures_pure h₁ hs₁
    exact fun _ => ⟨rfl, rfl⟩
  · exact ensures_pure h rfl

theorem ensures_standing (h : s.Good text) (v : Nat) :
    Ensures text (standing v) s fun _ l => l = s.stands := by
  unfold standing
  refine (ensures_countSinceError h v).bind fun _ s₁ h₁ hs₁ => ?_
  rw [ensures_get]
  exact ensures_pure h₁ hs₁

theorem ensures_betterExists (h : s.Good text) (v cost : Nat) :
    Ensures text (betterExists v cost) s fun _ l => l = s.stands := by
  have hgo (mine : Standing) (here : Nat) (is : List Nat) (s' : Session) (h' : s'.Good text)
      (hs' : s'.stands = s.stands) :
      Ensures text (betterExists.go v mine here is) s' fun _ l => l = s.stands := by
    induction is generalizing s' with
    | nil => exact ensures_pure h' hs'
    | cons i is ih =>
      rw [betterExists.go, ensures_get]
      split
      · exact ih s' h' hs'
      · refine (ensures_standing h' i).bind fun other s₁ h₁ hs₁ => ?_
        have hs₁ : s₁.stands = s.stands := hs₁.trans hs'
        split
        · exact ensures_pure h₁ hs₁
        · rw [ensures_get]
          split
          · exact ensures_pure h₁ hs₁
          · exact ih s₁ h₁ hs₁
        · exact ih s₁ h₁ hs₁
  unfold betterExists
  rw [ensures_get]
  split
  · exact ensures_pure h rfl
  · exact (ensures_countSinceError h v).bind fun _ s₁ h₁ hs₁ => hgo _ _ _ s₁ h₁ hs₁

/-! ### Accepting -/

theorem Session.Good.finish (h : s.Good text) (n : Nat) {best : Option Tree}
    (hbest : ∀ t, best = some t → ∃ b, t.Fits text.toList {} b) :
    { s with accepted := n, finished := best }.Good text where
  text_eq := h.text_eq
  nodes_pos := h.nodes_pos
  isPlace := h.isPlace
  bottom := h.bottom
  link := h.link
  holds x hx := ⟨(h.holds x hx).node_lt, (h.holds x hx).paused⟩
  finished := hbest

theorem Tree.Fits.fitAll_leaves {text : List Char} (h : t.Fits text q p) (hsolid : t.Solid) :
    Tree.FitAll text t.leaves q p := by
  unfold Tree.leaves
  split
  · exact Tree.fitAll_singleton.mpr h
  · next hlabel => exact h.fitAll_parts hsolid fun i => hlabel _

/-- The trees of a whole text make up one for it. -/
theorem ensures_keepRoot (h : s.Good text) {ts : List Tree} (hts : Backs text.toList p {} ts) :
    Ensures text (keepRoot ts) s fun _ l => l = s.stands := by
  obtain ⟨m, hupTo, hafter⟩ := hts.splitTrailing
  unfold keepRoot
  generalize Tree.splitTrailing ts = split at hupTo hafter
  obtain ⟨upTo, after⟩ := split
  dsimp only at hupTo hafter ⊢
  split
  · exact ensures_pure h rfl
  · next x hx =>
    obtain ⟨front, rfl⟩ := List.getLast?_eq_some_iff.mp hx
    obtain ⟨k, hfront, hlast⟩ := Tree.fitAll_append.mp hupTo.fits
    have hleaves := (Tree.fitAll_singleton.mp hlast).fitAll_leaves (hupTo.solid x (by simp))
    have hroot : (Tree.ofParts x.label ((front ++ [x]).dropLast ++ x.leaves ++ after)
        x.summary.production).Fits text.toList {} p := by
      refine Tree.FitAll.ofParts ?_ Offset.isPlace_zero _ _
      rw [List.dropLast_concat, Tree.fitAll_append]
      exact ⟨m, Tree.fitAll_append.mpr ⟨k, hfront, hleaves⟩, hafter.fits⟩
    refine ⟨h.finish _ fun t ht => ?_, rfl⟩
    split at ht
    · next best hbest =>
      split at ht
      · exact Option.some.inj ht ▸ ⟨p, hroot⟩
      · exact h.finished t (hbest.trans ht)
    · exact Option.some.inj ht ▸ ⟨p, hroot⟩

/-- A token that the grammar has a terminal for can be pushed. -/
theorem Tree.IsToken.spans {text : List Char} (h : t.IsToken text p) {i : Nat}
    (hlabel : t.label = .terminal i) : ∃ b, Spans text (some t) p b := by
  obtain ⟨b, hb⟩ := h.fits
  exact ⟨b, hb, Tree.solid_of_terminal hlabel⟩

/-- A version that has come to the end of the text is halted. -/
theorem ensures_accept (h : s.Good text) (hv : s.stands[v]? = some ⟨p, false⟩)
    (ht : t.IsToken text.toList p) {i : Nat} (hlabel : t.label = .terminal i) :
    Ensures text (accept v t) s fun _ l => s.stands.length ≤ l.length := by
  obtain ⟨b, hspans⟩ := ht.spans hlabel
  have hlt := (List.getElem?_eq_some_iff.mp hv).1
  unfold accept
  refine (ensures_push h hv hspans (by simp) 1).bind fun _ s₁ h₁ hs₁ => ?_
  have hv₁ : s₁.stands[v]? = some ⟨b, false⟩ := by rw [hs₁, List.getElem?_set_self hlt]
  have hlength : s₁.stands.length = s.stands.length := by rw [hs₁, List.length_set]
  refine (ensures_popAll h₁ hv₁).bind ?_
  rintro slices s₂ h₂ ⟨l', hs₂, hcut⟩
  have hroots : Ensures text (slices.toList.forM fun sl => keepRoot sl.trees) s₂ fun _ l =>
      l = s₁.stands ++ l' := by
    refine ensures_forM _ (fun sl hsl s' h' hs' => ?_) h₂ hs₂
    obtain ⟨-, q, -, rfl, hbacks⟩ := hcut.stands sl hsl
    exact (ensures_keepRoot h' hbacks).mono fun _ l hl => hl.trans hs'
  refine hroots.bind fun _ s₃ h₃ hs₃ => ?_
  split
  · next sl hsl =>
    have hle := (hcut.stands_first hsl).1
    refine (ensures_removeVersion h₃ sl.version).bind fun _ s₄ h₄ hs₄ =>
      ensures_halt_length h₄ v ?_
    rw [hs₄, hs₃, ← hlength]
    exact (prefix_eraseIdx (List.prefix_append _ _) hle).length_le
  · refine ensures_halt_length h₃ v ?_
    rw [hs₃, List.length_append, hlength]
    exact Nat.le_add_right _ _

/-! ### Going back -/

theorem Backs.append {ts us : List Tree} {r : Offset} (hus : Backs text.toList q r us)
    (hts : Backs text.toList p q ts) : Backs text.toList p r (us ++ ts) :=
  ⟨Tree.fitAll_append.mpr ⟨q, hus.fits, hts.fits⟩,
    List.forall_mem_append.mpr ⟨hus.solid, hts.solid⟩⟩

theorem ensures_pushError (h : s.Good text) (hv : s.stands[v]? = some ⟨q, false⟩) {ts : List Tree}
    (hts : Backs text.toList p q ts) (goal : Nat) :
    Ensures text (pushError v goal ts) s fun _ l => l = s.stands.set v ⟨p, false⟩ := by
  obtain ⟨m, hparts, htrailing⟩ := hts.splitTrailing
  have hlt := (List.getElem?_eq_some_iff.mp hv).1
  unfold pushError
  generalize Tree.splitTrailing ts = split at hparts htrailing
  obtain ⟨parts, trailing⟩ := split
  dsimp only at hparts htrailing ⊢
  split
  · obtain ⟨hfits, hsolid⟩ := hparts.ofParts (h.place_isPlace hv) .error 0
    have herror : Spans text.toList (some ((Tree.ofParts .error parts 0).withExtra true)) q m :=
      ⟨hfits.withExtra true, hsolid.withExtra true⟩
    refine (ensures_push h hv herror (by simp) goal).bind fun _ s₁ h₁ hs₁ => ?_
    have hv₁ : s₁.stands[v]? = some ⟨m, false⟩ := by rw [hs₁, List.getElem?_set_self hlt]
    refine (ensures_pushAll h₁ hv₁ htrailing goal).mono fun _ l hl => ?_
    rw [hl, hs₁, List.set_set]
  · next hempty =>
    obtain rfl : parts = [] := by simpa using hempty
    obtain rfl : q = m := hparts.fits
    exact ensures_pushAll h hv htrailing goal

/-- The slices that are still to be gone through. Those of the version gone on with last are passed
over; the versions of the others still stand where they were split off. -/
structure Due (text : List Char) (p : Offset) (l : List Stand) (previous : Option Nat)
    (slices : List Slice) : Prop where
  ordered : slices.Pairwise fun a b => a.version ≤ b.version
  previous_le : ∀ w ∈ previous, ∀ sl ∈ slices, w ≤ sl.version
  stands : ∀ sl ∈ slices, previous = some sl.version ∨
    ∃ q, l[sl.version]? = some ⟨q, false⟩ ∧ Backs text p q sl.trees

variable {l : List Stand} {previous : Option Nat} {sl : Slice} {slices : List Slice}

theorem Due.tail (h : Due text.toList p l previous (sl :: slices)) :
    Due text.toList p l previous slices where
  ordered := (List.pairwise_cons.mp h.ordered).2
  previous_le w hw a ha := h.previous_le w hw a (List.mem_cons_of_mem sl ha)
  stands a ha := h.stands a (List.mem_cons_of_mem sl ha)

/-- After a version was gone on with, the others stand where they stood. -/
theorem Due.next (h : Due text.toList p l previous (sl :: slices)) {l' : List Stand}
    (hsame : ∀ i, i ≠ sl.version → ∀ x, l[i]? = some x → l'[i]? = some x) :
    Due text.toList p l' (some sl.version) slices where
  ordered := h.tail.ordered
  previous_le w hw := Option.some.inj hw ▸ (List.pairwise_cons.mp h.ordered).1
  stands a ha := by
    by_cases hsl : sl.version = a.version
    · exact .inl (congrArg some hsl)
    · have hle := (List.pairwise_cons.mp h.ordered).1 a ha
      have hprevious : previous ≠ some a.version := by
        intro heq
        have := h.previous_le a.version heq sl List.mem_cons_self
        omega
      obtain ⟨q, hq, hbacks⟩ := (h.tail.stands a ha).resolve_left hprevious
      exact .inr ⟨q, hsame _ (Ne.symm hsl) _ hq, hbacks⟩

theorem ensures_recoverSlice (h : s.Good text)
    (hdue : Due text.toList p s.stands previous (sl :: slices)) {l : List Stand}
    (hl : l <+: s.stands) (hle : l.length ≤ sl.version) (goal : Nat) :
    Ensures text (recoverSlice goal previous sl) s fun previous k =>
      l <+: k ∧ Due text.toList p k previous slices := by
  unfold recoverSlice
  split
  · exact ensures_pure h ⟨hl, hdue.tail⟩
  · next hnew =>
    obtain ⟨q, hq, hbacks⟩ := (hdue.stands sl List.mem_cons_self).resolve_left hnew
    have hlt := (List.getElem?_eq_some_iff.mp hq).1
    rw [ensures_get]
    split
    · refine (ensures_halt h sl.version).bind fun _ s₁ h₁ hs₁ => ensures_pure h₁ ?_
      have hstill : s₁.stands = s.stands := by
        rw [hs₁, List.modify_eq_set_getElem?, hq]
        exact set_eq_self hq
      rw [hstill]
      exact ⟨hl, hdue.tail⟩
    · refine (ensures_popError h hq).bind fun error s₁ h₁ hs₁ => ?_
      obtain ⟨r, hbacks₁, hs₁⟩ : ∃ r,
          Backs text.toList p r ((error.map (·.parts)).getD [] ++ sl.trees) ∧
            s.stands.set sl.version ⟨r, false⟩ <+: s₁.stands := by
        rcases hs₁ with ⟨rfl, hs₁⟩ | ⟨u, r, rfl, hu, hs₁⟩
        · exact ⟨q, hbacks, by rw [set_eq_self hq, hs₁]⟩
        · exact ⟨r, hu.append hbacks, hs₁⟩
      have hv₁ : s₁.stands[sl.version]? = some ⟨r, false⟩ :=
        getElem?_of_isPrefix hs₁ (List.getElem?_set_self hlt)
      refine (ensures_pushError h₁ hv₁ hbacks₁ goal).bind fun _ s₂ h₂ hs₂ =>
        ensures_pure h₂ ⟨?_, ?_⟩
      · rw [hs₂]
        exact prefix_set ((prefix_set hl hle _).trans hs₁) hle _
      · refine hdue.next fun i hi x hx => ?_
        rw [hs₂, List.getElem?_set_ne (Ne.symm hi)]
        refine getElem?_of_isPrefix hs₁ ?_
        rw [List.getElem?_set_ne (Ne.symm hi), hx]

theorem ensures_recoverSlices (h : s.Good text) (hdue : Due text.toList p s.stands previous slices)
    {l : List Stand} (hl : l <+: s.stands) (hle : ∀ sl ∈ slices, l.length ≤ sl.version)
    (goal : Nat) :
    Ensures text (slices.foldlM (recoverSlice goal) previous) s fun _ k => l <+: k := by
  induction slices generalizing s previous with
  | nil => exact ensures_pure h hl
  | cons sl slices ih =>
    rw [List.forall_mem_cons] at hle
    rw [List.foldlM_cons]
    refine (ensures_recoverSlice h hdue hl hle.1 goal).bind fun previous s₁ h₁ ⟨hl₁, hdue₁⟩ => ?_
    exact ih h₁ hdue₁ hl₁ hle.2

theorem ensures_recoverTo (h : s.Good text) (hv : s.stands[v]? = some ⟨p, c⟩) (depth goal : Nat) :
    Ensures text (recoverTo v depth goal) s fun _ l => s.stands <+: l := by
  unfold recoverTo
  refine (ensures_popSteps h hv depth).bind ?_
  rintro slices s₁ h₁ ⟨l', hs₁, hcut⟩
  have hdue : Due text.toList p s₁.stands none slices.toList := by
    refine ⟨hcut.ordered, by simp, fun sl hsl => .inr ?_⟩
    obtain ⟨hle, q, hq, hbacks⟩ := hcut.stands sl hsl
    exact ⟨q, by rw [hs₁, List.getElem?_append_right hle, hq], hbacks⟩
  refine (ensures_recoverSlices h₁ hdue (hs₁ ▸ List.prefix_append _ _)
    (fun sl hsl => (hcut.stands sl hsl).1) goal).bind fun _ s₂ h₂ hs₂ => ensures_pure h₂ hs₂

theorem ensures_recoverBelow (h : s.Good text) {l : List Stand} (hl : l <+: s.stands)
    (hv : l[v]? = some ⟨p, c⟩) (count cost : Nat) (versions : List Nat) (bs : List Below) :
    Ensures text (recoverBelow v count cost t versions bs) s fun _ k => l <+: k := by
  induction bs generalizing s with
  | nil => exact ensures_pure h hl
  | cons b bs ih =>
    rw [recoverBelow, ensures_get]
    dsimp only
    split
    · exact ih h hl
    · refine (ensures_betterExists h v _).bind fun better s₁ h₁ hs₁ => ?_
      have hl₁ : l <+: s₁.stands := hs₁ ▸ hl
      split
      · exact ensures_pure h₁ hl₁
      · split
        · refine (ensures_recoverTo h₁ (getElem?_of_isPrefix hl₁ hv) _ _).bind
            fun did s₂ h₂ hs₂ => ?_
          split
          · exact ensures_pure h₂ (hl₁.trans hs₂)
          · exact ih h₂ (hl₁.trans hs₂)
        · exact ih h₁ hl₁

/-! ### Going on -/

theorem ensures_dropInactive (h : s.Good text) {l : List Stand} (hl : l <+: s.stands)
    (hv : l.length ≤ v) (fuel : Nat) :
    Ensures text (dropInactive fuel v) s fun _ k => l <+: k := by
  induction fuel generalizing s v with
  | zero => exact ensures_pure h hl
  | succ fuel ih =>
    rw [dropInactive, ensures_get]
    split
    · exact ensures_pure h hl
    · split
      · exact ih h hl (by omega)
      · refine (ensures_removeVersion h v).bind fun _ s₁ h₁ hs₁ => ?_
        exact ih h₁ (hs₁ ▸ prefix_eraseIdx hl hv) hv

theorem ensures_takeVersions (h : s.Good text) (n : Nat) :
    Ensures text (modify fun s => { s with versions := s.versions.take n }) s fun _ l =>
      l = s.stands.take n := by
  have hvs : (s.versions.take n).toList = s.versions.toList.take n := by simp
  refine ⟨h.withVersions fun x hx => h.holds x ?_, ?_⟩
  · rw [hvs] at hx
    exact List.mem_of_mem_take hx
  · change List.map s.stand (s.versions.take n).toList = _
    rw [hvs, stands, List.map_take]

/-- A version goes on past a token that is skipped, in one stretch with those skipped just before
it. -/
theorem ensures_skipToken (h : s.Good text) (hv : s.stands[v]? = some ⟨p, false⟩)
    (ht : t.IsToken text.toList p) (count : Nat) :
    Ensures text (skipToken v count t) s fun _ l => s.stands.length ≤ l.length := by
  obtain ⟨b, hb⟩ := ht.fits
  have hlt := (List.getElem?_eq_some_iff.mp hv).1
  unfold skipToken
  extract_lets anywhere token fresh finish
  have hfresh : Spans text.toList (some fresh) p b := by
    have htoken : token.Fits text.toList p b := by
      rw [show token = if anywhere then t.withExtra true else t from rfl]
      split
      · exact hb.withExtra true
      · exact hb
    exact ⟨(Tree.fitAll_singleton.mpr htoken).ofParts (h.place_isPlace hv) _ _,
      Tree.solid_ofParts (by simp) _⟩
  have hfinish (s' : Session) (tree : Tree) (q : Offset) (h' : s'.Good text)
      (hv' : s'.stands[v]? = some ⟨q, false⟩) (htree : Spans text.toList (some tree) q b)
      (hle : s.stands.length ≤ s'.stands.length) :
      Ensures text (finish tree) s' fun _ l => s.stands.length ≤ l.length := by
    refine (ensures_push h' hv' htree (by simp) 0).bind fun _ s₁ h₁ hs₁ => ?_
    have hle₁ : s.stands.length ≤ s₁.stands.length := by rwa [hs₁, List.length_set]
    split
    · refine (ensures_modifyVersion_still h₁ v ?_).mono fun _ l hl => hl ▸ hle₁
      exact fun _ => ⟨rfl, rfl⟩
    · exact ensures_pure h₁ hle₁
  split
  · refine (ensures_popSteps h hv 1).bind ?_
    rintro slices s₁ h₁ ⟨l', hs₁, hcut⟩
    have hl₁ : s.stands <+: s₁.stands := hs₁ ▸ List.prefix_append _ _
    split
    · next sl hsl =>
      obtain ⟨hle, q, hq, hbacks⟩ := hcut.stands_first hsl
      have hsl₁ : s₁.stands[sl.version]? = some ⟨q, false⟩ := by
        rw [hs₁, List.getElem?_append_right hle, hq]
      have htree :
          Spans text.toList (some (Tree.ofParts .skipped (sl.trees ++ [fresh]) 0)) q b := by
        have hone : Backs text.toList b p [fresh] :=
          ⟨Tree.fitAll_singleton.mpr hfresh.1, by simpa using hfresh.2⟩
        exact (hbacks.append hone).ofParts (h₁.place_isPlace hsl₁) _ _
      extract_lets replace
      have hreplace (s' : Session) (h' : s'.Good text) (hl' : s.stands <+: s'.stands)
          (hsl' : s'.stands[sl.version]? = some ⟨q, false⟩) :
          Ensures text (replace ()) s' fun _ l => s.stands.length ≤ l.length := by
        refine (ensures_replaceVersion_front h' hl' hlt hle hsl').bind fun _ s₂ h₂ hs₂ => ?_
        refine hfinish s₂ _ q h₂ (getElem?_of_isPrefix hs₂ (List.getElem?_set_self hlt)) htree ?_
        simpa using hs₂.length_le
      split
      · refine (ensures_takeVersions h₁ (sl.version + 1)).bind fun _ s₂ h₂ hs₂ => ?_
        refine hreplace s₂ h₂ ?_ ?_
        · rw [hs₂]
          exact List.prefix_take_iff.mpr ⟨hl₁, by omega⟩
        · rw [hs₂, List.getElem?_take_of_lt (Nat.lt_succ_self _), hsl₁]
      · exact hreplace s₁ h₁ hl₁ hsl₁
    · exact hfinish s₁ fresh p h₁ (getElem?_of_isPrefix hl₁ hv) hfresh hl₁.length_le
  · exact hfinish s fresh p h hv hfresh (Nat.le_refl _)

/-- Recovery keeps the versions that were there. -/
theorem ensures_recover (h : s.Good text) (hv : s.stands[v]? = some ⟨p, false⟩)
    (ht : t.IsToken text.toList p) :
    Ensures text (recover v t) s fun _ l => s.stands.length ≤ l.length := by
  unfold recover
  rw [ensures_versionCount, ensures_get]
  refine (ensures_countSinceError h v).bind fun count s₁ h₁ hs₁ => ?_
  extract_lets cost reach newCost goOn
  have hgoOn (did : Bool) (s' : Session) (h' : s'.Good text) (hl' : s.stands <+: s'.stands) :
      Ensures text (goOn did) s' fun _ l => s.stands.length ≤ l.length := by
    refine (ensures_dropInactive h' hl' (Nat.le_refl _) _).bind fun _ s₂ h₂ hl₂ => ?_
    have hv₂ := getElem?_of_isPrefix hl₂ hv
    rw [ensures_versionCount]
    split
    · exact ensures_halt_length h₂ v hl₂.length_le
    · split
      · next hend =>
        have hempty : Spans text.toList (some (Tree.ofParts .error [] 0)) p p :=
          ⟨(Tree.fitAll_nil.mpr rfl).ofParts (h.place_isPlace hv) _ _,
            Tree.solid_ofParts (by simp) _⟩
        refine (ensures_push h₂ hv₂ hempty (by simp) 1).bind fun _ s₃ h₃ hs₃ => ?_
        rw [set_eq_self hv₂] at hs₃
        refine (ensures_accept h₃ (hs₃ ▸ hv₂) ht hend).mono fun _ l hl => ?_
        exact hl₂.length_le.trans (hs₃ ▸ hl)
      · refine (ensures_betterExists h₂ v newCost).bind fun better s₃ h₃ hs₃ => ?_
        split
        · exact ensures_halt_length h₃ v (hs₃ ▸ hl₂.length_le)
        · refine (ensures_skipToken h₃ (hs₃ ▸ hv₂) ht count).mono fun _ l hl => ?_
          exact hl₂.length_le.trans (hs₃ ▸ hl)
  split
  · split
    · exact hgoOn false s₁ h₁ (hs₁ ▸ List.prefix_refl _)
    · refine (ensures_recoverBelow h₁ (hs₁ ▸ List.prefix_refl _) hv count cost _ _).bind ?_
      exact fun did s₂ h₂ hl₂ => hgoOn did s₂ h₂ hl₂
  · exact hgoOn false s₁ h₁ (hs₁ ▸ List.prefix_refl _)

/-! ### Leaving the grammar -/

/-- A missing token takes up no text. -/
theorem spans_missing (hp : p.IsPlace text.toList) (i : Nat) :
    Spans text.toList (some (missing i)) p p :=
  ⟨⟨hp, rfl, hp, .inl rfl⟩, Tree.solid_of_terminal rfl⟩

theorem ensures_insertMissing (h : s.Good text) {l : List Stand} (hl : l <+: s.stands)
    (hv : l[v]? = some ⟨p, c⟩) (is : List Nat) :
    Ensures text (insertMissing v t is) s fun _ k => l <+: k := by
  induction is generalizing s with
  | nil => exact ensures_pure h hl
  | cons i is ih =>
    have hvs := getElem?_of_isPrefix hl hv
    rw [insertMissing, ensures_get]
    extract_lets state next first copy terminal
    split
    · exact ih h hl
    · have hholds : s.Holds text { s.version v with below := none } :=
        ⟨(h.holds_version v).node_lt, (h.holds_version v).paused⟩
      refine (ensures_addVersion h hholds).bind fun w s₁ h₁ ⟨hw, hs₁⟩ => ?_
      have hlw : l.length ≤ w := hw ▸ hl.length_le
      have hw₁ : s₁.stands[w]? = some ⟨p, c⟩ := by
        rw [hs₁, hw, List.getElem?_concat_length]
        exact congrArg some (stand_version hvs)
      have hl₁ : l <+: s₁.stands := hs₁ ▸ hl.trans (List.prefix_append _ _)
      have hmissing := spans_missing (h.place_isPlace hvs) i
      refine (ensures_push h₁ hw₁ hmissing (fun _ => rfl) next).bind fun _ s₂ h₂ hs₂ => ?_
      rw [set_eq_self hw₁] at hs₂
      refine (ensures_allReductions h₂ (hs₂ ▸ hl₁) terminal (.inl hlw)).bind fun did s₃ h₃ hl₃ => ?_
      split
      · exact ensures_pure h₃ hl₃
      · exact ih h₃ hl₃

theorem ensures_leaveGrammar (h : s.Good text) {l : List Stand} (hl : l <+: s.stands)
    (before fuel w : Nat) (did : Bool) :
    Ensures text (leaveGrammar v before l.length t fuel w did) s fun _ k => l <+: k := by
  induction fuel generalizing s w did with
  | zero => exact ensures_pure h hl
  | succ fuel ih =>
    rw [leaveGrammar]
    split
    · exact ensures_pure h hl
    · next hw =>
      obtain ⟨⟨q, c⟩, hq⟩ : ∃ x, l[w]? = some x := ⟨_, List.getElem?_eq_getElem (by omega)⟩
      extract_lets leave
      have hleave (did : Bool) (s' : Session) (h' : s'.Good text) (hl' : l <+: s'.stands) :
          Ensures text (leave did) s' fun _ k => l <+: k := by
        have hw' := getElem?_of_isPrefix hl' hq
        have hmark : Spans text.toList none q q := rfl
        refine (ensures_push h' hw' hmark (fun _ => rfl) 0).bind fun _ s₁ h₁ hs₁ => ?_
        rw [set_eq_self hw'] at hs₁
        exact ih h₁ (hs₁ ▸ hl') _ did
      split
      · exact hleave true s h hl
      · exact (ensures_insertMissing h hl hq _).bind fun did s₁ h₁ hl₁ => hleave did s₁ h₁ hl₁

theorem ensures_nodesBelow (h : s.Good text) (v : Nat) :
    Ensures text (nodesBelow v) s fun _ l => l = s.stands := by
  unfold nodesBelow
  rw [ensures_get]
  exact ensures_pure h rfl

/-- Handling an error keeps the versions that were there. -/
theorem ensures_handleError (h : s.Good text) (hv : s.stands[v]? = some ⟨p, false⟩)
    (ht : t.IsToken text.toList p) :
    Ensures text (handleError v t) s fun _ l => s.stands.length ≤ l.length := by
  unfold handleError
  rw [ensures_versionCount]
  refine (ensures_allReductions h (List.prefix_refl _) 0 (.inr ⟨rfl, p, hv⟩)).bind
    fun _ s₁ h₁ hl₁ => ?_
  rw [ensures_versionCount]
  refine (ensures_leaveGrammar h₁ (List.prefix_refl _) _ _ v false).bind fun _ s₂ h₂ hl₂ => ?_
  have hmerge : Ensures text ((List.range (s₁.stands.length - s.stands.length)).forM fun _ => do
      let _ ← merge v s.stands.length
      pure ()) s₂ fun _ l => s.stands <+: l := by
    refine ensures_forM _ (fun _ _ s' h' hl' => ?_) h₂ (hl₁.trans hl₂)
    refine (ensures_merge h' v s.stands.length).bind fun merged s'' h'' hs'' => ?_
    refine ensures_pure h'' ?_
    rw [hs'']
    split
    · exact prefix_eraseIdx hl' (Nat.le_refl _)
    · exact hl'
  refine hmerge.bind fun _ s₃ h₃ hl₃ => ?_
  refine (ensures_nodesBelow h₃ v).bind fun below s₄ h₄ hs₄ => ?_
  refine (ensures_modifyVersion_still h₄ v ?_).bind fun _ s₅ h₅ hs₅ => ?_
  · exact fun _ => ⟨rfl, rfl⟩
  · rw [← hs₄, ← hs₅] at hl₃
    refine (ensures_recover h₅ (getElem?_of_isPrefix hl₃ hv) ht).mono fun _ l hl => ?_
    exact hl₃.length_le.trans hl

end Outline.Parse
