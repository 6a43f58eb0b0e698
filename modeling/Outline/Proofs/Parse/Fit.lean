import Outline.Parse.Tree
import Outline.Proofs.Declaration.Laminar
import Outline.Proofs.Text.Reach

/-! Trees that fit into the text. A tree takes up the text between two places: first its padding,
then its parts, each of which starts where the one before it ends. So a tree shows as nodes that lie
inside each other and side by side, at places of the text. -/
namespace Outline

open Text Parse

namespace Parse.Tree

/-- The padding of the first of some trees. -/
def headPadding (ts : List Tree) : Offset := (ts.head?.map (·.padding)).getD {}

/-- The tree takes up the text between two places, with its parts side by side. -/
def Fits (text : List Char) : Tree → Offset → Offset → Prop
  | node s ps, a, b =>
    (a + s.padding).IsPlace text ∧ b = a + s.padding + s.size ∧ b.IsPlace text ∧
      (ps = [] ∨ s.padding = headPadding ps ∧ fitAll ps a b)
where
  /-- Trees side by side between two places. -/
  fitAll : List Tree → Offset → Offset → Prop
  | [], a, b => a = b
  | t :: ts, a, b => ∃ m, t.Fits text a m ∧ fitAll ts m b

/-- Trees side by side between two places of the text. -/
def FitAll (text : List Char) (ts : List Tree) (a b : Offset) : Prop := Fits.fitAll text ts a b

variable {text : List Char} {t : Tree} {ts us : List Tree} {a b c : Offset}

@[simp] theorem fitAll_nil : FitAll text [] a b ↔ a = b := Iff.rfl

@[simp] theorem fitAll_cons :
    FitAll text (t :: ts) a b ↔ ∃ m, t.Fits text a m ∧ FitAll text ts m b := Iff.rfl

theorem fitAll_append :
    FitAll text (ts ++ us) a c ↔ ∃ b, FitAll text ts a b ∧ FitAll text us b c := by
  induction ts generalizing a with
  | nil => simp
  | cons t ts ih =>
    simp only [List.cons_append, fitAll_cons, ih]
    constructor
    · rintro ⟨m, ht, b, hts, hus⟩
      exact ⟨b, ⟨m, ht, hts⟩, hus⟩
    · rintro ⟨b, ⟨m, ht, hts⟩, hus⟩
      exact ⟨m, ht, b, hts, hus⟩

theorem fitAll_singleton : FitAll text [t] a b ↔ t.Fits text a b := by
  simp

namespace Fits

theorem start_isPlace (h : t.Fits text a b) : (a + t.padding).IsPlace text := by
  cases t
  exact h.1

theorem stop_eq (h : t.Fits text a b) : b = a + t.padding + t.size := by
  cases t
  exact h.2.1

theorem stop_isPlace (h : t.Fits text a b) : b.IsPlace text := by
  cases t
  exact h.2.2.1

theorem eq_reach (h : t.Fits text a b) : b = a + t.reach := by
  rw [h.stop_eq, Offset.add_assoc]
  rfl

theorem parts (h : t.Fits text a b) (hparts : t.parts ≠ []) :
    t.padding = headPadding t.parts ∧ FitAll text t.parts a b := by
  cases t
  exact h.2.2.2.resolve_left hparts

theorem withExtra (h : t.Fits text a b) (extra : Bool) : (t.withExtra extra).Fits text a b := by
  cases t
  exact h

end Fits

theorem fitAll_stop_eq {x : Offset} (h : FitAll text ts (c + x) b) :
    b = c + ts.foldl (fun o u => o + u.reach) x := by
  induction ts generalizing x with
  | nil => exact h.symm
  | cons t ts ih =>
    obtain ⟨m, ht, hts⟩ := fitAll_cons.mp h
    rw [List.foldl_cons]
    refine ih ?_
    rwa [ht.eq_reach, Offset.add_assoc] at hts

theorem FitAll.stop_isPlace (h : FitAll text ts a b) (ha : a.IsPlace text) : b.IsPlace text := by
  induction ts generalizing a with
  | nil => exact h ▸ ha
  | cons t ts ih =>
    obtain ⟨m, ht, hts⟩ := fitAll_cons.mp h
    exact ih hts ht.stop_isPlace

/-- A tree over trees side by side takes up their text. -/
theorem FitAll.ofParts (h : FitAll text ts a b) (ha : a.IsPlace text) (label : Label)
    (production : Nat) : (ofParts label ts production).Fits text a b := by
  cases ts with
  | nil =>
    obtain rfl : a = b := h
    exact ⟨ha, rfl, ha, .inl rfl⟩
  | cons t ts =>
    obtain ⟨m, ht, hts⟩ := fitAll_cons.mp h
    refine ⟨ht.start_isPlace, ?_, hts.stop_isPlace ht.stop_isPlace, .inr ⟨rfl, m, ht, hts⟩⟩
    rw [ht.stop_eq] at hts
    exact fitAll_stop_eq hts

/-- A tree without parts is a token or takes up no text, and so are the parts of an error. -/
inductive Solid : Tree → Prop
  | node {s : Summary} {ps : List Tree}
      (bare : ps = [] → (∃ i, s.label = .terminal i) ∨ s.padding + s.size = {})
      (inside : s.label = .error → ∀ p ∈ ps, p.Solid) : Solid (node s ps)

theorem Solid.bare (h : t.Solid) (hparts : t.parts = []) :
    (∃ i, t.label = .terminal i) ∨ t.reach = {} := by
  obtain ⟨bare, -⟩ := h
  exact bare hparts

theorem Solid.inside (h : t.Solid) (hlabel : t.label = .error) : ∀ p ∈ t.parts, p.Solid := by
  obtain ⟨-, inside⟩ := h
  exact inside hlabel

theorem label_gather (inError : Bool) (ts : List Tree) (names : List (Option Grammar.Shown))
    (s : Summary) : (gather inError ts names s).label = s.label := by
  induction ts generalizing names s with
  | nil => rfl
  | cons t ts ih =>
    rw [gather, ih]

theorem label_ofParts (label : Label) (ts : List Tree) (production : Nat) :
    (ofParts label ts production).label = label :=
  label_gather _ ts _ _

theorem solid_ofParts {label : Label} (h : label = .error → ∀ t ∈ ts, t.Solid) (production : Nat) :
    (ofParts label ts production).Solid := by
  refine .node (fun hnil => .inr ?_) fun herror => h ?_
  · subst hnil
    rfl
  · rwa [← label_ofParts label ts production]

theorem Solid.withExtra (h : t.Solid) (extra : Bool) : (t.withExtra extra).Solid := by
  obtain ⟨bare, inside⟩ := h
  exact .node bare inside

theorem solid_of_terminal {i : Nat} (h : t.label = .terminal i) : t.Solid := by
  cases t
  refine .node (fun _ => .inl ⟨i, h⟩) fun herror => ?_
  exact absurd (herror.symm.trans h) (by simp [Label.terminal])

/-- The parts of a tree that is no token take up its text. -/
theorem Fits.fitAll_parts (h : t.Fits text a b) (hsolid : t.Solid)
    (hlabel : ∀ i, t.label ≠ .terminal i) : FitAll text t.parts a b := by
  by_cases hparts : t.parts = []
  · rcases hsolid.bare hparts with ⟨i, hi⟩ | hreach
    · exact absurd hi (hlabel i)
    · rw [hparts, h.eq_reach, hreach]
      rfl
  · exact (h.parts hparts).2

end Parse.Tree

/-! ### Showing -/

namespace SyntaxTree

/-- Nodes side by side between two bytes. -/
def Row (text : String) (lo hi : Nat) : List SyntaxTree → Prop
  | [] => lo ≤ hi
  | c :: cs =>
    lo ≤ c.info.start.bytes ∧ c.info.start.bytes ≤ c.info.stop.bytes ∧ c.WellPlaced text ∧
      Row text c.info.stop.bytes hi cs

variable {text : String} {lo hi : Nat} {cs : List SyntaxTree}

theorem Row.le (h : Row text lo hi cs) : lo ≤ hi := by
  induction cs generalizing lo with
  | nil => exact h
  | cons c cs ih =>
    obtain ⟨hlo, hle, -, hcs⟩ := h
    exact hlo.trans (hle.trans (ih hcs))

theorem Row.mono {lo' : Nat} (h : Row text lo hi cs) (hle : lo' ≤ lo) : Row text lo' hi cs := by
  cases cs with
  | nil => exact hle.trans h
  | cons c cs => exact ⟨hle.trans h.1, h.2⟩

theorem Row.bounds (h : Row text lo hi cs) :
    ∀ c ∈ cs, lo ≤ c.info.start.bytes ∧ c.info.stop.bytes ≤ hi := by
  induction cs generalizing lo with
  | nil => simp
  | cons c cs ih =>
    obtain ⟨hlo, hle, -, hcs⟩ := h
    rw [List.forall_mem_cons]
    exact ⟨⟨hlo, hcs.le⟩, fun d hd => ⟨hlo.trans (hle.trans (ih hcs d hd).1), (ih hcs d hd).2⟩⟩

/-- A node with nodes side by side in it is well placed. -/
theorem Row.wellPlaced {i : SyntaxInfo} (h : Row text i.start.bytes i.stop.bytes cs)
    (hstart : i.start.IsIn text) (hstop : i.stop.IsIn text) : (node i cs).WellPlaced text := by
  have hpairs {lo : Nat} (h : Row text lo i.stop.bytes cs) :
      cs.Pairwise (fun a b => a.info.stop.bytes ≤ b.info.start.bytes) ∧
        WellPlaced.allWellPlaced text cs := by
    clear * - h
    induction cs generalizing lo with
    | nil => exact ⟨.nil, trivial⟩
    | cons c cs ih =>
      obtain ⟨-, -, hc, hcs⟩ := h
      exact ⟨List.pairwise_cons.mpr ⟨fun d hd => (hcs.bounds d hd).1, (ih hcs).1⟩, hc, (ih hcs).2⟩
  exact ⟨hstart, hstop, h.bounds, hpairs h⟩

end SyntaxTree

open SyntaxTree Parse.Tree

theorem info_showTree (t : Parse.Tree) (start : Offset) (as : Option Grammar.Shown) :
    (showTree t start as).info = shownInfo t start as := by
  cases t
  rw [showTree]
  rfl

/-- What a tree shows as is well placed, from where its padding ends. -/
theorem wellPlaced_showTree {text : String} : (t : Parse.Tree) → (a b : Offset) →
    t.Fits text.toList a b → (as : Option Grammar.Shown) →
    (showTree t (a + t.padding) as).WellPlaced text
  | .node s ps, a, b, ⟨hstart, hstop, hplace, hparts⟩, as => by
    have hle : (a + s.padding).bytes ≤ b.bytes := hstop ▸ Offset.bytes_le_add _ _
    have hrow : Row text (a + s.padding).bytes b.bytes (showTree.showParts ps
        (if s.label = .error then [] else Parse.Tree.shownNames s.production) true (a + s.padding)
        []) := by
      rcases hparts with rfl | ⟨hpadding, hall⟩
      · exact hle
      · exact row_showParts ps _ true a b hall [] (Nat.le_refl b.bytes) _ (by rw [hpadding]; rfl)
    rw [showTree]
    subst hstop
    exact hrow.wellPlaced hstart.isIn hplace.isIn
where
  /-- The nodes that parts show as stand side by side, before those that follow. -/
  row_showParts {text : String} {hi : Nat} : (ps : List Parse.Tree) →
      (names : List (Option Grammar.Shown)) → (first : Bool) → (a b : Offset) →
      Parse.Tree.FitAll text.toList ps a b → (after : List SyntaxTree) → Row text b.bytes hi after →
      (here : Offset) → here = (if first then a + headPadding ps else a) →
      Row text here.bytes hi (showTree.showParts ps names first here after)
  | [], _, first, a, b, h, after, hafter, here, hhere => by
    obtain rfl : a = b := h
    rw [showTree.showParts]
    cases first <;> exact hhere ▸ hafter
  | .node s ps :: rest, names, first, a, b, ⟨m, ht, hrest⟩, after, hafter, here, hhere => by
    have hstart : (if first then here else here + s.padding) = a + s.padding := by
      cases first with
      | false => rw [hhere]; rfl
      | true => exact hhere
    have hlo : here.bytes ≤ (a + s.padding).bytes := by
      rw [← hstart]
      split
      · exact Nat.le_refl _
      · exact Offset.bytes_le_add _ _
    have hm : a + s.padding + s.size = m := ht.2.1.symm
    have hsize : (a + s.padding).bytes ≤ m.bytes := hm ▸ Offset.bytes_le_add _ _
    have hlater (names : List (Option Grammar.Shown)) :=
      row_showParts rest names false m b hrest after hafter m rfl
    rw [showTree.showParts, hstart, hm]
    split
    · refine ⟨?_, ?_, wellPlaced_showTree (.node s ps) a m ht _, ?_⟩
      · rw [info_showTree]
        exact hlo
      · rw [info_showTree]
        exact Offset.bytes_le_add _ _
      · rw [info_showTree]
        exact hm.symm ▸ hlater _
    · refine Row.mono ?_ hlo
      rcases ht.2.2.2 with rfl | ⟨hpadding, hall⟩
      · exact (hlater _).mono hsize
      · exact row_showParts ps _ true a m hall _ (hlater _) _ (by rw [hpadding]; rfl)

end Outline
