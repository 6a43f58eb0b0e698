import Outline.Parse.Stack
import Outline.Proofs.Parse.Fit

/-! The stacks of a parse fit into the text. Every node of the stacks is at a place of the text, and
the tree on a link takes up the text between its two nodes. Nodes stay where they are, so what an
operation does is told by where the versions stand, as a list: pushing a tree moves one of them on,
and a merger takes out one that stands where another one does. -/
namespace Outline.Parse

open Text

/-! ### Sessions -/

/-- A tree, or the mark that the grammar was left, between two places. -/
def Spans (text : List Char) : Option Tree → Offset → Offset → Prop
  | none, a, b => a = b
  | some t, a, b => t.Fits text a b ∧ t.Solid

/-- A token that is still to be taken, from a place on. -/
structure Tree.IsToken (text : List Char) (t : Tree) (a : Offset) : Prop where
  parts_eq : t.parts = []
  first_eq : t.summary.first = t.label
  fits : ∃ b, t.Fits text a b

/-- Where a version stands: the place, and whether it has paused there. -/
structure Stand where
  place : Offset
  paused : Bool := false

namespace Session

/-- Where a version stands. -/
def stand (s : Session) (h : Version) : Stand where
  place := (s.node h.node).position
  paused := match h.status with
    | .paused _ => true
    | _ => false

/-- Where the versions stand, one after the other. -/
def stands (s : Session) : List Stand := s.versions.toList.map s.stand

/-- A version is at a node, and a token it has met goes on from there. -/
structure Holds (text : String) (s : Session) (h : Version) : Prop where
  node_lt : h.node < s.nodes.size
  paused : ∀ t, h.status = .paused t → t.IsToken text.toList (s.node h.node).position

/-- What is on the stacks fits into the text. -/
structure Good (text : String) (s : Session) : Prop where
  text_eq : s.text = Passage.ofString text
  nodes_pos : 0 < s.nodes.size
  isPlace : ∀ i, (s.node i).position.IsPlace text.toList
  bottom : ∀ i, (s.node i).links = [] → (s.node i).position = {}
  link : ∀ i, ∀ l ∈ (s.node i).links, l.node < s.nodes.size ∧
    Spans text.toList l.tree (s.node l.node).position (s.node i).position
  holds : ∀ h ∈ s.versions.toList, s.Holds text h
  finished : ∀ t, s.finished = some t → ∃ b, t.Fits text.toList {} b

variable {text : String} {s : Session} {v : Nat} {x : Stand}

@[simp] theorem length_stands (s : Session) : s.stands.length = s.versions.size := by
  simp [stands]

theorem getElem?_stands (s : Session) (v : Nat) : s.stands[v]? = s.versions[v]?.map s.stand := by
  simp [stands]

theorem version_eq (h : v < s.versions.size) : s.versions[v]? = some (s.version v) := by
  rw [version, Array.getD_eq_getD_getElem?, Array.getElem?_eq_getElem h]
  rfl

theorem lt_of_stands (h : s.stands[v]? = some x) : v < s.versions.size := by
  rw [← length_stands]
  exact (List.getElem?_eq_some_iff.mp h).1

theorem stands_of_lt (h : v < s.versions.size) : s.stands[v]? = some (s.stand (s.version v)) := by
  rw [getElem?_stands, version_eq h, Option.map_some]

theorem stand_version (h : s.stands[v]? = some x) : s.stand (s.version v) = x :=
  Option.some.inj ((stands_of_lt (lt_of_stands h)).symm.trans h)

theorem position_top (h : s.stands[v]? = some x) : (s.top v).position = x.place :=
  congrArg Stand.place (stand_version h)

theorem Good.holds_version (h : s.Good text) (v : Nat) : s.Holds text (s.version v) := by
  rw [Session.version, Array.getD_eq_getD_getElem?]
  cases hv : s.versions[v]? with
  | none => exact ⟨h.nodes_pos, fun t ht => nomatch ht⟩
  | some x => exact h.holds x (Array.mem_toList_iff.mpr (Array.mem_of_getElem? hv))

theorem Good.place_isPlace (h : s.Good text) (hx : s.stands[v]? = some x) :
    x.place.IsPlace text.toList := by
  rw [← position_top hx]
  exact h.isPlace _

theorem Good.withVersions (h : s.Good text) {vs : Array Version}
    (hvs : ∀ x ∈ vs.toList, s.Holds text x) : { s with versions := vs }.Good text where
  text_eq := h.text_eq
  nodes_pos := h.nodes_pos
  isPlace := h.isPlace
  bottom := h.bottom
  link := h.link
  holds x hx := ⟨(hvs x hx).node_lt, (hvs x hx).paused⟩
  finished := h.finished

end Session

open Session

/-! ### Runs -/

/-- After a run what is on the stacks fits into the text, and the result and where the versions
stand are as they should be. -/
def Ensures {α : Type} (text : String) (x : Run α) (s : Session)
    (Q : α → List Stand → Prop) : Prop :=
  (x s).2.Good text ∧ Q (x s).1 (x s).2.stands

section Ensures

variable {α β : Type} {text : String} {x : Run α} {s : Session} {Q R : α → List Stand → Prop}

theorem ensures_pure {a : α} (h : s.Good text) (hQ : Q a s.stands) :
    Ensures text (pure a) s Q := ⟨h, hQ⟩

theorem ensures_get {f : Session → Run α} :
    Ensures text (get >>= f) s Q ↔ Ensures text (f s) s Q := Iff.rfl

theorem ensures_versionCount {f : Nat → Run α} :
    Ensures text (versionCount >>= f) s Q ↔ Ensures text (f s.stands.length) s Q := by
  rw [length_stands]
  rfl

theorem Ensures.mono (h : Ensures text x s Q) (hQ : ∀ a l, Q a l → R a l) : Ensures text x s R :=
  ⟨h.1, hQ _ _ h.2⟩

theorem Ensures.bind {f : α → Run β} {P : β → List Stand → Prop} (h : Ensures text x s Q)
    (hf : ∀ a s', s'.Good text → Q a s'.stands → Ensures text (f a) s' P) :
    Ensures text (x >>= f) s P :=
  hf _ _ h.1 h.2

theorem ensures_forM {γ : Type} {f : γ → Run Unit} {I : List Stand → Prop} (xs : List γ)
    (hf : ∀ x ∈ xs, ∀ s' : Session, s'.Good text → I s'.stands → Ensures text (f x) s' fun _ l => I l)
    (h : s.Good text) (hI : I s.stands) : Ensures text (xs.forM f) s fun _ l => I l := by
  induction xs generalizing s with
  | nil => exact ensures_pure h hI
  | cons x xs ih =>
    rw [List.forall_mem_cons] at hf
    exact (hf.1 s h hI).bind fun _ s₁ h₁ hI₁ => ih hf.2 h₁ hI₁

end Ensures

variable {text : String} {s : Session} {v : Nat}

/-! ### Changes of versions -/

theorem ensures_removeVersion (h : s.Good text) (v : Nat) :
    Ensures text (removeVersion v) s fun _ l => l = s.stands.eraseIdx v := by
  have hvs : (s.versions.eraseIdxIfInBounds v).toList = s.versions.toList.eraseIdx v := by
    rw [Array.eraseIdxIfInBounds]
    split
    · simp
    · next hlt => rw [List.eraseIdx_of_length_le (by simpa using hlt)]
  refine ⟨h.withVersions fun x hx => h.holds x ?_, ?_⟩
  · rw [hvs] at hx
    exact List.mem_of_mem_eraseIdx hx
  · change List.map s.stand (s.versions.eraseIdxIfInBounds v).toList = _
    rw [hvs, stands, List.eraseIdx_map]

/-- A version is changed where it stands. -/
theorem ensures_modifyVersion (h : s.Good text) (v : Nat) {f : Version → Version}
    {g : Stand → Stand}
    (hf : ∀ x, s.versions[v]? = some x → s.Holds text x →
      s.Holds text (f x) ∧ s.stand (f x) = g (s.stand x)) :
    Ensures text (modifyVersion v f) s fun _ l => l = s.stands.modify v g := by
  have hvs : (s.versions.modify v f).toList = s.versions.toList.modify v f := Array.toList_modify
  refine ⟨h.withVersions fun x hx => ?_, ?_⟩
  · rw [hvs] at hx
    obtain ⟨i, hi⟩ := List.mem_iff_getElem?.mp hx
    rw [List.getElem?_modify] at hi
    obtain ⟨y, hy, rfl⟩ := Option.map_eq_some_iff.mp hi
    have hholds := h.holds y (List.mem_of_getElem? hy)
    split
    · next heq => exact (hf y (by simpa [heq] using hy) hholds).1
    · exact hholds
  · change List.map s.stand (s.versions.modify v f).toList = _
    rw [hvs, stands]
    refine List.ext_getElem? fun i => ?_
    rw [List.getElem?_map, List.getElem?_modify, List.getElem?_modify, List.getElem?_map]
    cases hy : s.versions.toList[i]? with
    | none => rfl
    | some y =>
      simp only [Option.map_eq_map, Option.map_some]
      split
      · next heq =>
        rw [(hf y (by simpa [heq] using hy) (h.holds y (List.mem_of_getElem? hy))).2]
      · rfl

/-- What a version has read does not tell where it stands. -/
theorem ensures_modifyVersion_still (h : s.Good text) (v : Nat) {f : Version → Version}
    (hf : ∀ x, (f x).node = x.node ∧ (f x).status = x.status) :
    Ensures text (modifyVersion v f) s fun _ l => l = s.stands := by
  have hid : s.stands.modify v id = s.stands := by simp
  rw [← hid]
  refine ensures_modifyVersion h v fun x _ hx => ?_
  obtain ⟨hnode, hstatus⟩ := hf x
  refine ⟨⟨hnode ▸ hx.node_lt, fun t ht => ?_⟩, ?_⟩
  · rw [hnode]
    exact hx.paused t (hstatus ▸ ht)
  · rw [stand, hnode, hstatus]
    rfl

theorem ensures_halt (h : s.Good text) (v : Nat) :
    Ensures text (halt v) s fun _ l => l = s.stands.modify v fun x => { x with paused := false } :=
  ensures_modifyVersion h v fun _ _ hx => ⟨⟨hx.node_lt, fun _ ht => nomatch ht⟩, rfl⟩

theorem ensures_addVersion (h : s.Good text) {x : Version} (hx : s.Holds text x) :
    Ensures text (addVersion x) s fun n l =>
      n = s.stands.length ∧ l = s.stands ++ [s.stand x] := by
  refine ⟨h.withVersions fun y hy => ?_, s.length_stands.symm, ?_⟩
  · rw [Array.toList_push, List.mem_append, List.mem_singleton] at hy
    rcases hy with hy | rfl
    · exact h.holds y hy
    · exact hx
  · change List.map s.stand (s.versions.push x).toList = _
    rw [Array.toList_push, List.map_append]
    rfl

theorem ensures_setVersion (h : s.Good text) (v : Nat) {x : Version} (hx : s.Holds text x) :
    Ensures text (setVersion v x) s fun _ l => l = s.stands.set v (s.stand x) := by
  have hvs : (s.versions.setIfInBounds v x).toList = s.versions.toList.set v x :=
    Array.toList_setIfInBounds
  refine ⟨h.withVersions fun y hy => ?_, ?_⟩
  · rw [hvs] at hy
    rcases List.mem_or_eq_of_mem_set hy with hy | rfl
    · exact h.holds y hy
    · exact hx
  · change List.map s.stand (s.versions.setIfInBounds v x).toList = _
    rw [hvs, List.map_set]
    rfl

/-- A version in the place of another one stands where it stood. -/
theorem ensures_replaceVersion (h : s.Good text) {a b : Nat} (hab : a ≠ b) {x : Stand}
    (hx : s.stands[a]? = some x) :
    Ensures text (replaceVersion a b) s fun _ l => l = (s.stands.set b x).eraseIdx a := by
  have hholds : s.Holds text { s.version a with
      below := (s.version a).below.or (s.version b).below } :=
    ⟨(h.holds_version a).node_lt, (h.holds_version a).paused⟩
  unfold replaceVersion
  rw [if_neg hab, ensures_get]
  refine (ensures_setVersion h b hholds).bind fun _ s₁ h₁ hs₁ => ?_
  refine (ensures_removeVersion h₁ a).mono fun _ l hl => ?_
  rw [hl, hs₁, ← stand_version hx]
  rfl

/-! The versions at the front keep their numbers while others after them come and go. -/

theorem prefix_eraseIdx {α : Type} {l l' : List α} {i : Nat} (h : l <+: l') (hi : l.length ≤ i) :
    l <+: l'.eraseIdx i := by
  obtain ⟨k, rfl⟩ := h
  rw [List.eraseIdx_append_of_length_le hi]
  exact List.prefix_append l _

theorem prefix_set {α : Type} {l l' : List α} {i : Nat} (h : l <+: l') (hi : l.length ≤ i) (x : α) :
    l <+: l'.set i x := by
  obtain ⟨k, rfl⟩ := h
  rw [List.set_append_right i x hi]
  exact List.prefix_append l _

theorem getElem?_of_isPrefix {α : Type} {l l' : List α} {i : Nat} {x : α} (h : l <+: l')
    (hx : l[i]? = some x) : l'[i]? = some x := by
  obtain ⟨k, rfl⟩ := h
  rw [List.getElem?_append_left (List.getElem?_eq_some_iff.mp hx).1, hx]

theorem set_eq_self {α : Type} {l : List α} {i : Nat} {x : α} (h : l[i]? = some x) :
    l.set i x = l := by
  obtain ⟨hlt, rfl⟩ := List.getElem?_eq_some_iff.mp h
  exact List.set_getElem_self hlt

theorem ensures_replaceVersion_front (h : s.Good text) {l : List Stand} (hl : l <+: s.stands)
    {a b : Nat} (hb : b < l.length) (ha : l.length ≤ a) {x : Stand}
    (hx : s.stands[a]? = some x) :
    Ensures text (replaceVersion a b) s fun _ k => l.set b x <+: k := by
  refine (ensures_replaceVersion h (by omega) hx).mono fun _ k hk => ?_
  obtain ⟨l', hl'⟩ := hl
  rw [hk, ← hl', List.set_append_left b x hb]
  exact prefix_eraseIdx (List.prefix_append _ _) (by simpa using ha)

/-! ### Pushing -/

namespace Session

/-- A node that links fitly to those before it. -/
structure Attaches (text : String) (s : Session) (x : Node) : Prop where
  isPlace : x.position.IsPlace text.toList
  bottom : x.links = [] → x.position = {}
  link : ∀ l ∈ x.links, l.node < s.nodes.size ∧
    Spans text.toList l.tree (s.node l.node).position x.position

theorem node_push (s : Session) (x : Node) (i : Nat) :
    { s with nodes := s.nodes.push x }.node i = if i = s.nodes.size then x else s.node i := by
  simp only [node, Array.getD_eq_getD_getElem?, Array.getElem?_push]
  split <;> rfl

/-- Versions stand where they stood when nodes do. -/
theorem Good.stands_congr {s' : Session} (h : s.Good text) (hvs : s'.versions = s.versions)
    (hposition : ∀ i < s.nodes.size, (s'.node i).position = (s.node i).position) :
    s'.stands = s.stands := by
  rw [stands, stands, hvs]
  refine List.map_congr_left fun x hx => ?_
  rw [stand, stand, hposition _ (h.holds x hx).node_lt]

theorem Good.pushNode (h : s.Good text) {x : Node} (hx : s.Attaches text x) :
    { s with nodes := s.nodes.push x }.Good text := by
  have hold : ∀ i < s.nodes.size, { s with nodes := s.nodes.push x }.node i = s.node i := by
    intro i hi
    rw [node_push, if_neg (Nat.ne_of_lt hi)]
  have hlt {i : Nat} (hi : i < s.nodes.size) : i < (s.nodes.push x).size := by
    rw [Array.size_push]
    exact Nat.lt_succ_of_lt hi
  refine ⟨h.text_eq, hlt h.nodes_pos, fun i => ?_, fun i => ?_, fun i l hl => ?_, fun y hy => ?_,
    h.finished⟩
  · rw [node_push]
    split
    · exact hx.isPlace
    · exact h.isPlace i
  · rw [node_push]
    split
    · exact hx.bottom
    · exact h.bottom i
  · have hlink : l.node < s.nodes.size ∧ Spans text.toList l.tree (s.node l.node).position
        ({ s with nodes := s.nodes.push x }.node i).position := by
      rw [node_push] at hl ⊢
      by_cases hi : i = s.nodes.size
      · rw [if_pos hi] at hl ⊢
        exact hx.link l hl
      · rw [if_neg hi] at hl ⊢
        exact h.link i l hl
    rw [hold l.node hlink.1]
    exact ⟨hlt hlink.1, hlink.2⟩
  · have hy := h.holds y hy
    exact ⟨hlt hy.node_lt, fun t ht => (hold _ hy.node_lt).symm ▸ hy.paused t ht⟩

end Session

theorem Spans.isPlace {tree : Option Tree} {a b : Offset} (h : Spans text.toList tree a b)
    (ha : a.IsPlace text.toList) : b.IsPlace text.toList := by
  cases tree with
  | none => exact h ▸ ha
  | some t => exact h.1.stop_isPlace

section Push

variable {tree : Option Tree} {a b : Offset} {c : Bool} (h : s.Good text)
  (hv : s.stands[v]? = some ⟨a, c⟩) (htree : Spans text.toList tree a b)
  (hpaused : c = true → b = a)
include h hv htree hpaused

/-- A version goes on to a new node. -/
theorem ensures_addNode {x : Node} {f : Nat → Version → Version}
    (hlinks : x.links = [⟨(s.version v).node, tree⟩]) (hplace : x.position = b)
    (hf : ∀ i y, (f i y).node = i ∧ (f i y).status = y.status) :
    Ensures text (addNode x >>= fun i => modifyVersion v (f i)) s fun _ l =>
      l = s.stands.set v ⟨b, c⟩ := by
  have hposition : (s.node (s.version v).node).position = a := position_top hv
  have hattaches : s.Attaches text x := by
    refine ⟨hplace ▸ htree.isPlace (h.place_isPlace hv), by simp [hlinks], ?_⟩
    rw [hlinks, List.forall_mem_singleton, hplace, hposition]
    exact ⟨(h.holds_version v).node_lt, htree⟩
  have hstands : { s with nodes := s.nodes.push x }.stands = s.stands := by
    refine h.stands_congr rfl fun i hi => ?_
    rw [node_push, if_neg (Nat.ne_of_lt hi)]
  have hnode : ({ s with nodes := s.nodes.push x }.node s.nodes.size).position = b := by
    rw [node_push, if_pos rfl, hplace]
  have hset : s.stands.set v ⟨b, c⟩ = s.stands.modify v fun y => ⟨b, y.paused⟩ := by
    rw [List.modify_eq_set_getElem?, hv]
    rfl
  rw [hset, ← hstands]
  refine ensures_modifyVersion (h.pushNode hattaches) v fun y hy _ => ?_
  obtain rfl : s.version v = y := by
    rw [Session.version, Array.getD_eq_getD_getElem?, hy]
    rfl
  obtain ⟨hfnode, hfstatus⟩ := hf s.nodes.size (s.version v)
  refine ⟨⟨?_, fun t ht => ?_⟩, ?_⟩
  · rw [hfnode]
    exact (Array.size_push x).symm ▸ Nat.lt_succ_self _
  · rw [hfstatus] at ht
    have hstand : (s.stand (s.version v)).paused = c := congrArg Stand.paused (stand_version hv)
    have hc : c = true := by rw [← hstand, stand, ht]
    rw [hfnode, hnode, hpaused hc, ← hposition]
    exact (h.holds_version v).paused t ht
  · rw [stand, hfnode, hfstatus, hnode]
    rfl

/-- Pushing moves a version on to where the tree ends. -/
theorem ensures_push (state : Nat) :
    Ensures text (push v tree state) s fun _ l => l = s.stands.set v ⟨b, c⟩ := by
  have hposition : (s.node (s.version v).node).position = a := position_top hv
  unfold push
  rw [ensures_get]
  cases tree with
  | none =>
    exact ensures_addNode h hv htree hpaused rfl (hposition.trans htree) fun _ _ => ⟨rfl, rfl⟩
  | some t =>
    have hplace : (s.node (s.version v).node).position + t.reach = b :=
      hposition ▸ htree.1.eq_reach.symm
    exact ensures_addNode h hv htree hpaused rfl hplace fun _ _ => ⟨rfl, rfl⟩

end Push

/-! ### Merging -/

namespace Session

/-- A session in which some nodes have more links. -/
structure Grows (text : String) (s s' : Session) : Prop where
  good : s'.Good text
  versions_eq : s'.versions = s.versions
  size_eq : s'.nodes.size = s.nodes.size
  position : ∀ i, (s'.node i).position = (s.node i).position

theorem Good.grows (h : s.Good text) : s.Grows text s := ⟨h, rfl, rfl, fun _ => rfl⟩

theorem Grows.trans {s' s'' : Session} (h : s.Grows text s') (h' : s'.Grows text s'') :
    s.Grows text s'' where
  good := h'.good
  versions_eq := h'.versions_eq.trans h.versions_eq
  size_eq := h'.size_eq.trans h.size_eq
  position i := (h'.position i).trans (h.position i)

/-- A link leads fitly from a node to one that there is. -/
def Leads (text : String) (s : Session) (i : Nat) (l : Link) : Prop :=
  l.node < s.nodes.size ∧ Spans text.toList l.tree (s.node l.node).position (s.node i).position

theorem Grows.leads {s' : Session} {i : Nat} {l : Link} (h : s.Grows text s')
    (hl : s.Leads text i l) : s'.Leads text i l := by
  rw [Leads, h.size_eq, h.position, h.position]
  exact hl

theorem Good.modifyNode (h : s.Good text) {i : Nat} {l : Link} (hl : s.Leads text i l)
    {f : Node → Node} (hf : ∀ x, (f x).position = x.position ∧ (f x).links = x.links ++ [l]) :
    s.Grows text { s with nodes := s.nodes.modify i f } := by
  have hnode (j : Nat) : { s with nodes := s.nodes.modify i f }.node j = s.node j ∨
      j = i ∧ { s with nodes := s.nodes.modify i f }.node j = f (s.node j) := by
    simp only [node, Array.getD_eq_getD_getElem?, Array.getElem?_modify]
    by_cases hij : i = j
    · cases s.nodes[j]? <;> simp [hij]
    · simp [hij]
  have hposition (j : Nat) :
      ({ s with nodes := s.nodes.modify i f }.node j).position = (s.node j).position := by
    rcases hnode j with hj | ⟨-, hj⟩ <;> rw [hj]
    exact (hf _).1
  have hsize : (s.nodes.modify i f).size = s.nodes.size := Array.size_modify
  refine ⟨⟨h.text_eq, hsize.symm ▸ h.nodes_pos, fun j => ?_, fun j hj => ?_, fun j k hk => ?_,
    fun x hx => ?_, h.finished⟩, rfl, hsize, hposition⟩
  · rw [hposition]
    exact h.isPlace j
  · rw [hposition]
    refine h.bottom j ?_
    rcases hnode j with hold | ⟨-, hnew⟩
    · rwa [hold] at hj
    · rw [hnew, (hf _).2] at hj
      exact (List.append_eq_nil_iff.mp hj).1
  · have hleads : s.Leads text j k := by
      rcases hnode j with hold | ⟨rfl, hnew⟩
      · rw [hold] at hk
        exact h.link j k hk
      · rw [hnew, (hf _).2, List.mem_append, List.mem_singleton] at hk
        rcases hk with hk | rfl
        · exact h.link j k hk
        · exact hl
    rw [hsize, hposition, hposition]
    exact hleads
  · obtain ⟨hlt, hpaused⟩ := h.holds x hx
    exact ⟨hsize.symm ▸ hlt, fun t ht => hposition x.node ▸ hpaused t ht⟩

end Session

theorem grows_get {f : Session → Run Unit} :
    s.Grows text ((get >>= f) s).2 ↔ s.Grows text (f s s).2 := Iff.rfl

/-- Links are added one after the other. -/
theorem grows_forM {f : Link → Run Unit} {i : Nat} (ls : List Link) (h : s.Good text)
    (hls : ∀ l ∈ ls, s.Leads text i l)
    (hf : ∀ l (s' : Session), s'.Good text → s'.Leads text i l → s'.Grows text (f l s').2) :
    s.Grows text (ls.forM f s).2 := by
  induction ls generalizing s with
  | nil => exact h.grows
  | cons l ls ih =>
    have hl := hf l s h (hls l List.mem_cons_self)
    refine hl.trans (ih hl.good fun k hk => ?_)
    exact hl.leads (hls k (List.mem_cons_of_mem l hk))

theorem grows_addLink (fuel i : Nat) (l : Link) (h : s.Good text) (hl : s.Leads text i l) :
    s.Grows text (addLink fuel i l s).2 := by
  induction fuel generalizing i l s with
  | zero => exact h.grows
  | succ fuel ih =>
    unfold addLink
    split
    · exact h.grows
    · rw [grows_get]
      dsimp only
      generalize hfind : List.find? _ (s.node i).links = found
      cases found with
      | none =>
        dsimp only
        split
        · exact h.grows
        · exact h.modifyNode hl fun _ => ⟨rfl, rfl⟩
      | some e =>
        dsimp only
        split
        · next hne =>
          -- The node joined is at the same place, so the links of the other one lead from it too.
          have hjoins := List.find?_some hfind
          have hbytes : (s.node e.node).position.bytes = (s.node l.node).position.bytes := by
            simp only [Bool.and_eq_true, Bool.or_eq_true, decide_eq_true_eq] at hjoins
            exact (hjoins.2.resolve_left hne).1.2
          have hplace : (s.node e.node).position = (s.node l.node).position :=
            (h.isPlace _).eq_of_bytes (h.isPlace _) hbytes
          refine grows_forM _ h (fun k hk => ?_) fun k s' h' hk => ih e.node k h' hk
          rw [Leads, hplace]
          exact h.link l.node k hk
        · exact h.grows

/-! A version merged into another one is gone. -/

theorem ensures_merge (h : s.Good text) (a b : Nat) :
    Ensures text (merge a b) s fun merged l =>
      l = if merged then s.stands.eraseIdx b else s.stands := by
  unfold merge
  rw [ensures_get]
  split
  · exact ensures_pure h rfl
  · next hmerge =>
    have hplace : (s.top b).position = (s.top a).position := by
      simp only [canMerge, Bool.not_eq_true', Bool.not_eq_false, Bool.and_eq_true,
        decide_eq_true_eq] at hmerge
      exact (h.isPlace _).eq_of_bytes (h.isPlace _) hmerge.1.1.2.symm
    have hgrows : s.Grows text
        ((s.top b).links.forM (addLink (s.nodes.size + 1) (s.version a).node) s).2 := by
      refine grows_forM _ h (fun l hl => ?_) fun l s' h' hl => grows_addLink _ _ l h' hl
      rw [Leads, ← show (s.top b).position = (s.node (s.version a).node).position from hplace]
      exact h.link _ l hl
    have hlinks : Ensures text
        ((s.top b).links.forM (addLink (s.nodes.size + 1) (s.version a).node)) s fun _ l =>
          l = s.stands :=
      ⟨hgrows.good, h.stands_congr hgrows.versions_eq fun i _ => hgrows.position i⟩
    have hremove (s' : Session) (h' : s'.Good text) (hs' : s'.stands = s.stands) :
        Ensures text (removeVersion b >>= fun _ => pure true) s' fun merged l =>
          l = if merged then s.stands.eraseIdx b else s.stands := by
      refine (ensures_removeVersion h' b).bind fun _ s'' h'' hs'' => ensures_pure h'' ?_
      rw [hs'', hs']
      rfl
    refine hlinks.bind fun _ s₁ h₁ hs₁ => ?_
    rw [ensures_get]
    dsimp only
    split
    · refine (ensures_modifyVersion_still h₁ a ?_).bind fun _ s₂ h₂ hs₂ => ?_
      · exact fun _ => ⟨rfl, rfl⟩
      · exact hremove s₂ h₂ (hs₂.trans hs₁)
    · exact hremove s₁ h₁ hs₁

theorem ensures_mergeInto (h : s.Good text) (v : Nat) (js : List Nat) :
    Ensures text (mergeInto v js) s fun merged l =>
      (merged = true → js ≠ []) ∧ l = if merged then s.stands.eraseIdx v else s.stands := by
  induction js generalizing s with
  | nil => exact ensures_pure h ⟨by simp, rfl⟩
  | cons j js ih =>
    rw [mergeInto]
    refine (ensures_merge h j v).bind fun merged s₁ h₁ hs₁ => ?_
    cases merged with
    | true => exact ensures_pure h₁ ⟨by simp, hs₁⟩
    | false =>
      rw [if_neg Bool.false_ne_true] at hs₁ ⊢
      rw [← hs₁]
      exact (ih h₁).mono fun _ l hl => ⟨by simp, hl.2⟩

end Outline.Parse
