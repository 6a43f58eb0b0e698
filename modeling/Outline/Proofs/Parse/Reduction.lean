import Outline.Parse.Reduction
import Outline.Proofs.Parse.Slices

/-! Finishing a production leaves every version where it stands. The versions that arise from it all
stand where the one stands that they arise from, after those that were there; so one of them can
take its place. -/
namespace Outline.Parse

open Text Session

variable {text : String} {s : Session} {v : Nat}

/-! ### Groups -/

/-- Groups of slices for the versions from number `n` on, one for each. -/
inductive Grouped (R : Offset → List Tree → Prop) :
    Nat → List Stand → List (Nat × List (List Tree)) → Prop
  | nil (n : Nat) : Grouped R n [] []
  | cons {n : Nat} {q : Offset} {l : List Stand} {tss : List (List Tree)}
      {gs : List (Nat × List (List Tree))} (nonempty : tss ≠ []) (all : ∀ ts ∈ tss, R q ts)
      (rest : Grouped R (n + 1) l gs) : Grouped R n (⟨q, false⟩ :: l) ((n, tss) :: gs)

variable {R : Offset → List Tree → Prop} {n : Nat} {x : Stand} {l : List Stand} {a : Slice}
  {slices : List Slice}

/-- The first slice is of the first version. -/
theorem Cut.version_head (h : Cut R n l (a :: slices)) : a.version = n := by
  obtain ⟨hle, q, hq, -⟩ := h.stands a List.mem_cons_self
  have hlength : 0 < l.length := Nat.zero_lt_of_lt (List.getElem?_eq_some_iff.mp hq).1
  obtain ⟨b, hb, hversion⟩ := h.covers 0 hlength
  rcases List.mem_cons.mp hb with rfl | hb
  · exact hversion
  · have := (List.pairwise_cons.mp h.ordered).1 b hb
    omega

/-- Without a slice of which there are more. -/
theorem Cut.of_cons_of_mem (h : Cut R n l (a :: slices)) {b : Slice} (hb : b ∈ slices)
    (hversion : b.version = a.version) : Cut R n l slices where
  ordered := (List.pairwise_cons.mp h.ordered).2
  stands sl hsl := h.stands sl (List.mem_cons_of_mem a hsl)
  covers i hi := by
    obtain ⟨sl, hsl, heq⟩ := h.covers i hi
    rcases List.mem_cons.mp hsl with rfl | hsl
    · exact ⟨b, hb, hversion.trans heq⟩
    · exact ⟨sl, hsl, heq⟩

/-- Without the only slice of the first version. -/
theorem Cut.of_cons_of_notMem (h : Cut R n (x :: l) (a :: slices))
    (hnot : ∀ b ∈ slices, b.version ≠ a.version) : Cut R (n + 1) l slices where
  ordered := (List.pairwise_cons.mp h.ordered).2
  stands sl hsl := by
    obtain ⟨hle, q, hq, hR⟩ := h.stands sl (List.mem_cons_of_mem a hsl)
    have hne : sl.version ≠ n := h.version_head ▸ hnot sl hsl
    have hindex : sl.version - n = sl.version - (n + 1) + 1 := by omega
    rw [hindex, List.getElem?_cons_succ] at hq
    exact ⟨by omega, q, hq, hR⟩
  covers i hi := by
    obtain ⟨sl, hsl, heq⟩ := h.covers (i + 1) (by simpa using hi)
    have hhead := h.version_head
    rcases List.mem_cons.mp hsl with rfl | hsl
    · omega
    · exact ⟨sl, hsl, by omega⟩

theorem Cut.grouped (h : Cut R n l slices) : Grouped R n l (groupSlices slices) := by
  induction slices generalizing n l with
  | nil =>
    cases l with
    | nil => exact .nil n
    | cons x l => simpa using h.covers 0 (Nat.zero_lt_succ _)
  | cons a slices ih =>
    obtain ⟨-, q, hq, hR⟩ := h.stands a List.mem_cons_self
    have hhead := h.version_head
    rw [hhead, Nat.sub_self] at hq
    obtain ⟨l, rfl⟩ : ∃ l', l = ⟨q, false⟩ :: l' := by
      cases l with
      | nil => simp at hq
      | cons x l => exact ⟨l, by simpa using hq⟩
    rw [groupSlices]
    by_cases hmore : ∃ b ∈ slices, b.version = a.version
    · obtain ⟨b, hb, hversion⟩ := hmore
      have hgrouped := ih (h.of_cons_of_mem hb hversion)
      generalize groupSlices slices = gs at hgrouped ⊢
      cases hgrouped with
      | cons nonempty all rest =>
        dsimp only
        rw [if_pos hhead.symm]
        exact .cons (List.cons_ne_nil _ _) (List.forall_mem_cons.mpr ⟨hR, all⟩) rest
    · have hgrouped := ih (h.of_cons_of_notMem fun b hb hversion => hmore ⟨b, hb, hversion⟩)
      have hone : Grouped R n (⟨q, false⟩ :: l) ((a.version, [a.trees]) :: groupSlices slices) := by
        rw [hhead]
        exact .cons (List.cons_ne_nil _ _) (by simpa using hR) hgrouped
      generalize groupSlices slices = gs at hgrouped hone
      cases hgrouped with
      | nil => exact hone
      | cons nonempty all rest =>
        dsimp only
        rw [if_neg (by omega)]
        exact hone

/-! ### Trees for a production -/

theorem splitTrailing_append (ts : List Tree) :
    (Tree.splitTrailing ts).1 ++ (Tree.splitTrailing ts).2 = ts := by
  obtain ⟨us, hus⟩ : ∃ us, ts = us ++ (ts.reverse.takeWhile (·.extra)).reverse :=
    ⟨(ts.reverse.dropWhile (·.extra)).reverse, by
      rw [← List.reverse_append, List.takeWhile_append_dropWhile, List.reverse_reverse]⟩
  unfold Tree.splitTrailing
  generalize (ts.reverse.takeWhile (·.extra)).reverse = trailing at hus ⊢
  simp [hus]

/-- A tree, with others after it, leads from one place to another. -/
def Completes (text : List Char) (p q : Offset) (x : Tree × List Tree) : Prop :=
  ∃ m, Spans text (some x.1) q m ∧ Backs text p m x.2

variable {p q : Offset}

theorem Backs.splitTrailing {ts : List Tree} (h : Backs text.toList p q ts) :
    ∃ m, Backs text.toList m q (Tree.splitTrailing ts).1 ∧
      Backs text.toList p m (Tree.splitTrailing ts).2 := by
  obtain ⟨hfits, hsolid⟩ := h
  rw [← splitTrailing_append ts] at hfits hsolid
  obtain ⟨m, hparts, htrailing⟩ := Tree.fitAll_append.mp hfits
  rw [List.forall_mem_append] at hsolid
  exact ⟨m, ⟨hparts, hsolid.1⟩, ⟨htrailing, hsolid.2⟩⟩

theorem Backs.ofParts {ts : List Tree} (h : Backs text.toList p q ts) (hq : q.IsPlace text.toList)
    (label : Label) (production : Nat) :
    Spans text.toList (some (Tree.ofParts label ts production)) q p :=
  ⟨h.fits.ofParts hq label production, Tree.solid_ofParts (fun _ => h.solid) production⟩

theorem completes_bestTree (label : Label) (production : Nat) {tss : List (List Tree)}
    (hne : tss ≠ []) (hall : ∀ ts ∈ tss, Backs text.toList p q ts) (hq : q.IsPlace text.toList) :
    Completes text.toList p q (bestTree label production tss) := by
  have hbuild {ts : List Tree} (hts : Backs text.toList p q ts) (k : Nat) :
      Completes text.toList p q
        (Tree.ofParts label (Tree.splitTrailing ts).1 k, (Tree.splitTrailing ts).2) := by
    obtain ⟨m, hparts, htrailing⟩ := hts.splitTrailing
    exact ⟨m, hparts.ofParts hq label k, htrailing⟩
  obtain ⟨ts, tss, rfl⟩ := List.exists_cons_of_ne_nil hne
  rw [List.forall_mem_cons] at hall
  refine List.foldlRecOn tss _ (hbuild hall.1 production) fun best hbest us hus => ?_
  split
  · exact hbuild (hall.2 us hus) production
  · exact hbest

/-! ### Reducing -/

/-- Pushing trees one after the other. -/
theorem ensures_pushAll (h : s.Good text) {ts : List Tree} (hv : s.stands[v]? = some ⟨q, false⟩)
    (hts : Backs text.toList p q ts) (state : Nat) :
    Ensures text (ts.forM fun t => push v (some t) state) s fun _ l =>
      l = s.stands.set v ⟨p, false⟩ := by
  induction ts generalizing s q with
  | nil =>
    obtain rfl : q = p := hts.fits
    exact ensures_pure h (set_eq_self hv).symm
  | cons t ts ih =>
    obtain ⟨⟨m, ht, hfits⟩, hsolid⟩ := hts
    rw [List.forall_mem_cons] at hsolid
    have hspans : Spans text.toList (some t) q m := ⟨ht, hsolid.1⟩
    refine (ensures_push h hv hspans (by simp) state).bind fun _ s₁ h₁ hs₁ => ?_
    have hlt := (List.getElem?_eq_some_iff.mp hv).1
    have hv₁ : s₁.stands[v]? = some ⟨m, false⟩ := by
      rw [hs₁, List.getElem?_set_self hlt]
    refine (ih h₁ hv₁ ⟨hfits, hsolid.2⟩).mono fun _ l hl => ?_
    rw [hl, hs₁, List.set_set]

/-- A version split off goes on to where the one stands that is reduced, or is gone. -/
theorem ensures_reduceSlice (h : s.Good text) {before after : List Stand} {q : Offset}
    (hs : s.stands = before ++ ⟨q, false⟩ :: after) {k removed : Nat} {tss : List (List Tree)}
    (hk : before.length + removed = k) (hne : tss ≠ [])
    (hall : ∀ ts ∈ tss, Backs text.toList p q ts) (label : Label) (production : Nat)
    (embedded : Bool) (halted : Nat) :
    Ensures text (reduceSlice v label production embedded halted removed (k, tss)) s
      fun removed l => ∃ before', l = before' ++ after ∧ before'.length + removed = k + 1 ∧
        (before' = before ∨ before' = before ++ [⟨p, false⟩]) := by
  have hw : k - removed = before.length := by omega
  have hplace : s.stands[before.length]? = some ⟨q, false⟩ := by simp [hs]
  have hgone {y : Stand} : (before ++ y :: after).eraseIdx before.length = before ++ after := by
    simp [List.eraseIdx_append_of_length_le]
  unfold reduceSlice
  dsimp only
  rw [hw]
  split
  · refine (ensures_removeVersion h _).bind fun _ s₁ h₁ hs₁ => ensures_pure h₁ ?_
    rw [hs₁, hs, hgone]
    exact ⟨before, rfl, by omega, .inl rfl⟩
  · obtain ⟨m, htree, htrailing⟩ :=
      completes_bestTree label production hne hall (h.place_isPlace hplace)
    rw [ensures_get]
    generalize nextState (s.top before.length).state label = next
    have htree' : Spans text.toList (some (if embedded && next = (s.top before.length).state
        then (bestTree label production tss).1.withExtra true
        else (bestTree label production tss).1)) q m := by
      split
      · exact ⟨htree.1.withExtra true, htree.2.withExtra true⟩
      · exact htree
    refine (ensures_push h hplace htree' (by simp) next).bind fun _ s₁ h₁ hs₁ => ?_
    have hplace₁ : s₁.stands[before.length]? = some ⟨m, false⟩ := by simp [hs₁, hs]
    refine (ensures_pushAll h₁ hplace₁ htrailing next).bind fun _ s₂ h₂ hs₂ => ?_
    have hs₂ : s₂.stands = before ++ ⟨p, false⟩ :: after := by
      rw [hs₂, hs₁, List.set_set, hs]
      simp
    refine (ensures_mergeInto h₂ _ _).bind fun merged s₃ h₃ ⟨_, hs₃⟩ => ensures_pure h₃ ?_
    cases merged with
    | true => exact ⟨before, by rw [hs₃, hs₂]; exact hgone, by simp; omega, .inl rfl⟩
    | false => exact ⟨before ++ [⟨p, false⟩], by rw [hs₃, hs₂]; simp, by simp; omega, .inr rfl⟩

/-- What arises from a version: more versions than those there were, among them perhaps one that is
named and stands at a place. -/
structure Arises (l : List Stand) (p : Offset) (named : Option Nat) (l' : List Stand) : Prop where
  older : l <+: l'
  named : ∀ w ∈ named, l.length ≤ w ∧ l'[w]? = some ⟨p, false⟩

theorem ensures_reduceSlices {gs : List (Nat × List (List Tree))} {before after : List Stand}
    {r k removed : Nat} (hgs : Grouped (Backs text.toList p) k after gs) (h : s.Good text)
    (hs : s.stands = before ++ List.replicate r ⟨p, false⟩ ++ after)
    (hk : before.length + r + removed = k) (label : Label) (production : Nat) (embedded : Bool)
    (halted : Nat) :
    Ensures text (gs.foldlM (reduceSlice v label production embedded halted) removed) s fun _ l =>
      ∃ r, l = before ++ List.replicate r ⟨p, false⟩ := by
  induction hgs generalizing s r removed with
  | nil => exact ensures_pure h ⟨r, by rw [hs, List.append_nil]⟩
  | cons nonempty all rest ih =>
    rw [List.foldlM_cons]
    refine (ensures_reduceSlice h hs (by simpa using hk) nonempty all label production embedded
      halted).bind ?_
    rintro removed s₁ h₁ ⟨before', hs₁, hcount, rfl | rfl⟩
    · exact ih h₁ hs₁ (by simpa using hcount)
    · rw [List.append_assoc before, ← List.replicate_succ'] at hs₁
      exact ih h₁ hs₁ (by simp at hcount; omega)

/-- Finishing a production leaves the versions there are where they stand. -/
theorem ensures_reduce (h : s.Good text) {c : Bool} (hv : s.stands[v]? = some ⟨p, c⟩)
    (production : Nat) (embedded : Bool) :
    Ensures text (reduce v production embedded) s fun named l => Arises s.stands p named l := by
  unfold reduce
  dsimp only
  rw [ensures_versionCount]
  refine (ensures_popSteps h hv _).bind ?_
  rintro slices s₁ h₁ ⟨l', hs₁, hcut⟩
  rw [ensures_get]
  refine (ensures_reduceSlices hcut.grouped h₁ (r := 0) (by simpa using hs₁) rfl _ _ _ _).bind ?_
  rintro _ s₂ h₂ ⟨r, hs₂⟩
  rw [ensures_versionCount, hs₂]
  refine ensures_pure h₂ ⟨hs₂ ▸ List.prefix_append _ _, fun w hw => ?_⟩
  split at hw
  · next hlt =>
    obtain rfl : s.stands.length = w := Option.some.inj hw
    have hr : 0 < r := by simpa using hlt
    exact ⟨Nat.le_refl _, by rw [hs₂, List.getElem?_append_right (Nat.le_refl _), Nat.sub_self,
      List.getElem?_replicate, if_pos hr]⟩
  · simp at hw

theorem Arises.trans {l l' l'' : List Stand} {named : Option Nat} (h : l <+: l')
    (h' : Arises l' p named l'') : Arises l p named l'' :=
  ⟨h.trans h'.older, fun w hw => ⟨h.length_le.trans (h'.named w hw).1, (h'.named w hw).2⟩⟩

/-- Finishing several productions one after the other. -/
theorem ensures_reduceEach (h : s.Good text) {c : Bool} (hv : s.stands[v]? = some ⟨p, c⟩)
    (ps : List Nat) :
    Ensures text (ps.foldlM (fun (_ : Option Nat) p => reduce v p false) none) s fun named l =>
      Arises s.stands p named l := by
  suffices hgeneral : ∀ (named : Option Nat) (s' : Session), s'.Good text →
      Arises s.stands p named s'.stands →
      Ensures text (ps.foldlM (fun (_ : Option Nat) p => reduce v p false) named) s' fun named l =>
        Arises s.stands p named l from
    hgeneral none s h ⟨List.prefix_refl _, by simp⟩
  induction ps with
  | nil => exact fun named s' h' hnamed => ensures_pure h' hnamed
  | cons k ps ih =>
    intro named s' h' hnamed
    rw [List.foldlM_cons]
    have hv' := getElem?_of_isPrefix hnamed.older hv
    refine (ensures_reduce h' hv' k false).bind fun named' s₁ h₁ hs₁ => ?_
    exact ih named' s₁ h₁ (Arises.trans hnamed.older hs₁)

/-- Doing all reductions keeps the versions at the front, that from which they start included unless
it is dropped. -/
theorem ensures_reduceAll (start initial : Nat) (terminal : Option Nat) {l : List Stand}
    (hinitial : l.length ≤ initial) (fuel v i : Nat) (taken : Bool) (h : s.Good text)
    (hl : l <+: s.stands)
    (hv : l.length ≤ v ∨ v = start ∧ terminal = none ∧ ∃ p, l[v]? = some ⟨p, false⟩) :
    Ensures text (reduceAll start initial terminal fuel v i taken) s fun _ k => l <+: k := by
  induction fuel generalizing s v i taken with
  | zero =>
    rw [reduceAll]
    exact ensures_pure h hl
  | succ fuel ih =>
    rw [reduceAll, ensures_versionCount]
    split
    · exact ensures_pure h hl
    · next hcount =>
      rw [Nat.not_le, length_stands] at hcount
      have hmerge := ensures_mergeInto h v (List.range' initial (v - initial))
      refine hmerge.bind fun merged s₁ h₁ ⟨hnonempty, hs₁⟩ => ?_
      cases merged with
      | true =>
        have hle : l.length ≤ v := by
          have := hnonempty rfl
          simp at this
          omega
        exact ih v (i + 1) taken h₁ (hs₁ ▸ prefix_eraseIdx hl hle) (.inl hle)
      | false =>
        rw [if_neg Bool.false_ne_true] at hs₁ ⊢
        rw [ensures_get]
        dsimp only
        obtain ⟨⟨p, c⟩, hstand⟩ : ∃ x, s.stands[v]? = some x := ⟨_, stands_of_lt hcount⟩
        refine (ensures_reduceEach h₁ (hs₁ ▸ hstand) _).bind fun last s₂ h₂ hs₂ => ?_
        rw [hs₁] at hs₂
        have hnext : l.length ≤ if v = start then s.stands.length else v + 1 := by
          split
          · exact hl.length_le
          · next hne => 
            rcases hv with hle | ⟨heq, -⟩
            · omega
            · exact absurd heq hne
        generalize (if v = start then s.stands.length else v + 1) = next at hnext ⊢
        have hdropped : Ensures text (if terminal.isSome then do
              removeVersion v
              reduceAll start initial terminal fuel next (i + 1) taken
            else reduceAll start initial terminal fuel next (i + 1) taken) s₂ fun _ k =>
              l <+: k := by
          split
          · next hsome =>
            have hle : l.length ≤ v := by
              rcases hv with hle | ⟨-, hnone, -⟩
              · exact hle
              · simp [hnone] at hsome
            refine (ensures_removeVersion h₂ v).bind fun _ s₃ h₃ hs₃ => ?_
            exact ih _ _ _ h₃ (hs₃ ▸ prefix_eraseIdx (hl.trans hs₂.older) hle) (.inl hnext)
          · exact ih _ _ _ h₂ (hl.trans hs₂.older) (.inl hnext)
        split
        · exact ih _ _ _ h₂ (hl.trans hs₂.older) (.inl hnext)
        · split
          · next r =>
            split
            · obtain ⟨hle, hr⟩ := hs₂.named r rfl
              refine (ensures_replaceVersion_front h₂ hs₂.older (by simpa using hcount) hle
                hr).bind fun _ s₃ h₃ hs₃ => ?_
              refine ih _ _ _ h₃ (List.IsPrefix.trans ?_ hs₃) hv
              rcases hv with hle | ⟨-, -, q, hq⟩
              · exact prefix_set hl hle _
              · have hsame := hstand.symm.trans (getElem?_of_isPrefix hl hq)
                simp only [Option.some.injEq, Stand.mk.injEq] at hsame
                rw [set_eq_self (hsame.2 ▸ hstand)]
                exact hl
            · exact hdropped
          · exact hdropped

theorem ensures_allReductions (h : s.Good text) {l : List Stand} (hl : l <+: s.stands)
    (terminal : Nat) (hv : l.length ≤ v ∨ terminal = 0 ∧ ∃ p, l[v]? = some ⟨p, false⟩) :
    Ensures text (allReductions v terminal) s fun _ k => l <+: k := by
  unfold allReductions
  rw [ensures_versionCount]
  refine ensures_reduceAll v _ _ hl.length_le _ v 0 false h hl (hv.imp_right ?_)
  rintro ⟨rfl, hp⟩
  exact ⟨rfl, rfl, hp⟩

end Outline.Parse
