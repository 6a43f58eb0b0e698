import Outline.Proofs.Declaration.Places

/-! Which declarations a visit records, and where. The statement is by ancestors and document order:
syntax is recorded if it declares something, can be reached through named children, and has no
declaring method above it; its place is under the record of the nearest declaring module or class
above it. The visit itself is a recursion that changes the parent on the way down. -/
namespace Outline

open Address

namespace SyntaxTree

/-- Induction on a tree and, at once, on its lists of children. -/
theorem ind {P : SyntaxTree → Prop} (h : ∀ i cs, (∀ c ∈ cs, P c) → P (node i cs))
    (t : SyntaxTree) : P t :=
  @SyntaxTree.rec P (fun cs => ∀ c ∈ cs, P c) h (List.forall_mem_nil P)
    (fun _ _ hc hcs => List.forall_mem_cons.mpr ⟨hc, hcs⟩) t

/-! ### Syntax by address -/

/-- The syntax at an address. -/
def at? : SyntaxTree → Address → Option SyntaxTree
  | t, [] => some t
  | t, i :: a => t.children[i]?.bind fun c => c.at? a

/-- The syntax that is reached through named children, in document order, with its addresses. -/
def reach : SyntaxTree → List (Address × SyntaxTree)
  | node i cs => ([], node i cs) :: reachFrom 0 cs
where
  reachFrom : Nat → List SyntaxTree → List (Address × SyntaxTree)
  | _, [] => []
  | k, t :: r => (if t.info.named then under k t.reach else []) ++ reachFrom (k + 1) r

/-- Whether the syntax at an address declares something of such a kind. -/
def declaresAt (source : String) (p : Kind → Bool) (t : SyntaxTree) (a : Address) : Bool :=
  (t.at? a).any fun u => (u.declares source).any fun d => p d.1

/-- The syntax to be recorded: it declares something, and no method around it does. -/
def recorded (source : String) (t : SyntaxTree) : List (Address × SyntaxTree) :=
  t.reach.filter fun x =>
    (x.2.declares source).isSome && !(above x.1).any (t.declaresAt source Kind.isMethod)

/-- The nearest module or class around an address that declares something. -/
def holder (source : String) (t : SyntaxTree) (a : Address) : Option Address :=
  ((above a).filter (t.declaresAt source Kind.isContainer)).getLast?

theorem declaresAt_cons (source : String) (p : Kind → Bool) (i : SyntaxInfo)
    (cs : List SyntaxTree) (j : Nat) (a : Address) :
    (node i cs).declaresAt source p (j :: a) = cs[j]?.any fun c => c.declaresAt source p a := by
  simp only [declaresAt, at?, children]
  cases cs[j]? <;> rfl

/-! ### Equations for a node and its children -/

/-- What is to be recorded among siblings, the first of which has the given index. -/
def recordedFrom (source : String) : Nat → List SyntaxTree → List (Address × SyntaxTree)
  | _, [] => []
  | k, t :: r =>
    (if t.info.named then under k (t.recorded source) else []) ++ recordedFrom source (k + 1) r

/-- The nearest declaring module or class among siblings and what is below them. -/
def holderFrom (source : String) (cs : List SyntaxTree) : Address → Option Address
  | [] => none
  | j :: a => (cs[j]?.bind fun c => c.holder source a).map (j :: ·)

theorem holder_cons (source : String) (i : SyntaxInfo) (cs : List SyntaxTree) (j : Nat)
    (a : Address) :
    (node i cs).holder source (j :: a) =
      if (node i cs).declaresAt source Kind.isContainer [] then
        some ((holderFrom source cs (j :: a)).getD [])
      else holderFrom source cs (j :: a) := by
  have hbelow : (((above a).map (j :: ·)).filter
      ((node i cs).declaresAt source Kind.isContainer)).getLast? =
        holderFrom source cs (j :: a) := by
    rw [List.filter_map, List.getLast?_map, holderFrom]
    congr 1
    cases hj : cs[j]? with
    | none => simp [Function.comp_def, declaresAt_cons, hj]
    | some c => simp [Function.comp_def, declaresAt_cons, hj, holder]
  rw [holder, above, List.filter_cons]
  split
  · rw [List.getLast?_cons, hbelow]
  · exact hbelow

theorem filter_reachFrom (source : String) (i : SyntaxInfo) (cs : List SyntaxTree) (k : Nat)
    (rest : List SyntaxTree) (h : cs.drop k = rest) :
    (reach.reachFrom k rest).filter (fun x => (x.2.declares source).isSome &&
        !(above x.1).any ((node i cs).declaresAt source Kind.isMethod)) =
      if (node i cs).declaresAt source Kind.isMethod [] then []
      else recordedFrom source k rest := by
  induction rest generalizing k with
  | nil => simp [reach.reachFrom, recordedFrom]
  | cons c rest ih =>
    have hk : cs[k]? = some c := by
      rw [← List.head?_drop, h]
      rfl
    have hrest : cs.drop (k + 1) = rest := by
      rw [← List.drop_drop, h]
      rfl
    rw [reach.reachFrom, List.filter_append, ih (k + 1) hrest, recordedFrom]
    cases hm : (node i cs).declaresAt source Kind.isMethod [] <;> cases hn : c.info.named <;>
      simp [under, List.filter_map, Function.comp_def, above, hm, declaresAt_cons, hk, recorded]

/-- A tree is recorded itself if it declares something, and what is in its children unless it is a
method that does. -/
theorem recorded_node (source : String) (i : SyntaxInfo) (cs : List SyntaxTree) :
    (node i cs).recorded source =
      (if ((node i cs).declares source).isSome then [([], node i cs)] else []) ++
        if (node i cs).declaresAt source Kind.isMethod [] then []
        else recordedFrom source 0 cs := by
  rw [recorded, reach, List.filter_cons, filter_reachFrom source i cs 0 cs rfl]
  simp only [above, List.any_nil, Bool.not_false, Bool.and_true]
  split <;> rfl

theorem ne_nil_of_mem_recordedFrom {source : String} {k : Nat} {cs : List SyntaxTree}
    {x : Address × SyntaxTree} (h : x ∈ recordedFrom source k cs) : x.1 ≠ [] := by
  induction cs generalizing k with
  | nil => cases h
  | cons c cs ih =>
    rw [recordedFrom, List.mem_append] at h
    rcases h with h | h
    · split at h
      · obtain ⟨y, -, rfl⟩ := List.mem_map.mp h
        exact List.cons_ne_nil _ _
      · cases h
    · exact ih h

section Cases
variable {source : String} {i : SyntaxInfo} {cs : List SyntaxTree} {kind : Kind} {name : String}

theorem recorded_of_none (h : (node i cs).declares source = none) :
    (node i cs).recorded source = recordedFrom source 0 cs := by
  simp [recorded_node, declaresAt, at?, h]

theorem holder_of_none (h : (node i cs).declares source = none) :
    (node i cs).holder source = holderFrom source cs := by
  funext a
  cases a with
  | nil => rfl
  | cons j a => simp [holder_cons, declaresAt, at?, h]

theorem recorded_of_container (h : (node i cs).declares source = some (kind, name))
    (hk : kind.isContainer = true) :
    (node i cs).recorded source = ([], node i cs) :: recordedFrom source 0 cs := by
  simp [recorded_node, declaresAt, at?, h, Kind.isMethod_eq_not_isContainer, hk]

theorem holder_of_container (h : (node i cs).declares source = some (kind, name))
    (hk : kind.isContainer = true) {a : Address} (ha : a ≠ []) :
    (node i cs).holder source a = some ((holderFrom source cs a).getD []) := by
  obtain ⟨j, a, rfl⟩ := List.exists_cons_of_ne_nil ha
  simp [holder_cons, declaresAt, at?, h, hk]

theorem recorded_of_method (h : (node i cs).declares source = some (kind, name))
    (hk : kind.isContainer = false) : (node i cs).recorded source = [([], node i cs)] := by
  simp [recorded_node, declaresAt, at?, h, Kind.isMethod_eq_not_isContainer, hk]

end Cases

end SyntaxTree

/-! ### Syntax beside its records -/

/-- The node has the kind and name that the syntax declares, and its extent. -/
structure Records (file : SourceFile) (u : SyntaxTree) (n : Node) : Prop where
  declared : ∃ kind name, u.declares file.text = some (kind, name) ∧ name ≠ "" ∧
    n.kind = kind ∧ n.name = some name
  extent_eq : n.extent = some (u.extentIn file)

/-- The pairs list syntax and nodes side by side, both in full and in order. Each node records its
syntax; it stands at the top if the syntax has no holder, and else right under the node that is
paired with the holder. -/
structure Mirror (file : SourceFile) (holder : Address → Option Address)
    (syntaxes : List (Address × SyntaxTree)) (nodes : List (Address × Node))
    (pairs : List ((Address × SyntaxTree) × (Address × Node))) : Prop where
  fst_eq : pairs.map (·.1) = syntaxes
  snd_eq : pairs.map (·.2) = nodes
  records : ∀ x ∈ pairs, Records file x.1.2 x.2.2
  top : ∀ x ∈ pairs, holder x.1.1 = none → ∃ i, x.2.1 = [i]
  below : ∀ x ∈ pairs, ∀ b, holder x.1.1 = some b →
    ∃ y ∈ pairs, y.1.1 = b ∧ ∃ i, x.2.1 = y.2.1 ++ [i]

namespace Mirror

variable {file : SourceFile} {f g : Address → Option Address} {S T : List (Address × SyntaxTree)}
  {D E : List (Address × Node)} {ps qs : List ((Address × SyntaxTree) × (Address × Node))}

theorem nil : Mirror file f [] [] [] :=
  ⟨rfl, rfl, by simp, by simp, by simp⟩

theorem append (h : Mirror file f S D ps) (h' : Mirror file f T E qs) :
    Mirror file f (S ++ T) (D ++ E) (ps ++ qs) where
  fst_eq := by rw [List.map_append, h.fst_eq, h'.fst_eq]
  snd_eq := by rw [List.map_append, h.snd_eq, h'.snd_eq]
  records x hx := (List.mem_append.mp hx).elim (h.records x) (h'.records x)
  top x hx := (List.mem_append.mp hx).elim (h.top x) (h'.top x)
  below x hx b hb := by
    rcases List.mem_append.mp hx with hx | hx
    · obtain ⟨y, hy, rest⟩ := h.below x hx b hb
      exact ⟨y, List.mem_append_left _ hy, rest⟩
    · obtain ⟨y, hy, rest⟩ := h'.below x hx b hb
      exact ⟨y, List.mem_append_right _ hy, rest⟩

/-- Syntax that becomes the child with index `k` of other syntax, which is no holder itself. -/
theorem under (h : Mirror file f S D ps) (k : Nat)
    (hg : ∀ a, g (k :: a) = (f a).map (k :: ·)) :
    Mirror file g (Address.under k S) D (ps.map fun x => ((k :: x.1.1, x.1.2), x.2)) where
  fst_eq := by
    rw [← h.fst_eq, Address.under, List.map_map, List.map_map]
    rfl
  snd_eq := by
    rw [← h.snd_eq, List.map_map]
    rfl
  records := by
    intro x hx
    obtain ⟨y, hy, rfl⟩ := List.mem_map.mp hx
    exact h.records y hy
  top := by
    intro x hx hnone
    obtain ⟨y, hy, rfl⟩ := List.mem_map.mp hx
    rw [hg, Option.map_eq_none_iff] at hnone
    exact h.top y hy hnone
  below := by
    intro x hx b hb
    obtain ⟨y, hy, rfl⟩ := List.mem_map.mp hx
    rw [hg, Option.map_eq_some_iff] at hb
    obtain ⟨c, hc, rfl⟩ := hb
    obtain ⟨z, hz, rfl, rest⟩ := h.below y hy c hc
    exact ⟨_, List.mem_map_of_mem hz, rfl, rest⟩

/-- Syntax around other syntax that is recorded as a node around the other nodes: it is the holder
of whatever had none. -/
theorem enclose (h : Mirror file f S D ps) {t : SyntaxTree} {n : Node} (r : Records file t n)
    (k : Nat) (hnil : g [] = none) (hg : ∀ x ∈ S, g x.1 = some ((f x.1).getD [])) :
    Mirror file g (([], t) :: S) (([k], n) :: Address.under k D)
      ((([], t), ([k], n)) :: ps.map fun x => (x.1, (k :: x.2.1, x.2.2))) where
  fst_eq := by
    rw [← h.fst_eq, List.map_cons, List.map_map]
    rfl
  snd_eq := by
    rw [← h.snd_eq, Address.under, List.map_cons, List.map_map, List.map_map]
    rfl
  records := by
    intro x hx
    rcases List.mem_cons.mp hx with rfl | hx
    · exact r
    · obtain ⟨y, hy, rfl⟩ := List.mem_map.mp hx
      exact h.records y hy
  top := by
    intro x hx hnone
    rcases List.mem_cons.mp hx with rfl | hx
    · exact ⟨k, rfl⟩
    · obtain ⟨y, hy, rfl⟩ := List.mem_map.mp hx
      rw [hg y.1 (h.fst_eq ▸ List.mem_map_of_mem hy)] at hnone
      cases hnone
  below := by
    intro x hx b hb
    rcases List.mem_cons.mp hx with rfl | hx
    · rw [hnil] at hb
      cases hb
    · obtain ⟨y, hy, rfl⟩ := List.mem_map.mp hx
      rw [hg y.1 (h.fst_eq ▸ List.mem_map_of_mem hy)] at hb
      cases hf : f y.1.1 with
      | none =>
        -- nothing below the new syntax holds this, so the new syntax does
        rw [hf] at hb
        cases hb
        obtain ⟨i, hi⟩ := h.top y hy hf
        exact ⟨_, List.mem_cons_self, rfl, i, by simp [hi]⟩
      | some c =>
        rw [hf] at hb
        cases hb
        obtain ⟨z, hz, rfl, i, hi⟩ := h.below y hy c hf
        exact ⟨_, List.mem_cons_of_mem _ (List.mem_map_of_mem hz), rfl, i, by simp [hi]⟩

end Mirror

/-! ### The visit -/

namespace SyntaxTree

open Node.places (placesFrom)

/-- A name is the text, not empty, of the name node or of that one's own name node. -/
theorem declaredName_eq_some {t : SyntaxTree} {kind : Kind} {source name : String}
    (h : t.declaredName kind source = some name) :
    ∃ n m, t.nameNode = some n ∧ (m = n ∨ n.nameNode = some m) ∧ m.text? source = some name ∧
      name ≠ "" := by
  simp only [declaredName, Option.bind_eq_bind, Option.bind_eq_some_iff] at h
  obtain ⟨n, hn, hname⟩ := h
  have hfrom : ∃ m, (m = n ∨ n.nameNode = some m) ∧ ∃ text, m.text? source = some text ∧
      (if text.isEmpty then none else some text) = some name := by
    split at hname
    · obtain ⟨m, hm, hname⟩ := Option.bind_eq_some_iff.mp hname
      exact ⟨m, .inr hm, Option.bind_eq_some_iff.mp hname⟩
    · exact ⟨n, .inl rfl, Option.bind_eq_some_iff.mp hname⟩
  obtain ⟨m, hm, text, htext, hname⟩ := hfrom
  split at hname
  · cases hname
  · rename_i hne
    cases hname
    exact ⟨n, m, hn, hm, htext, by simpa using hne⟩

theorem declares_eq_some {t : SyntaxTree} {source : String} {kind : Kind} {name : String}
    (h : t.declares source = some (kind, name)) : t.declaredName kind source = some name := by
  simp only [declares, Option.bind_eq_bind, Option.bind_eq_some_iff, Option.pure_def,
    Option.some.injEq, Prod.mk.injEq] at h
  obtain ⟨k, -, m, hm, rfl, rfl⟩ := h
  exact hm

theorem declares_name_ne {t : SyntaxTree} {source : String} {kind : Kind} {name : String}
    (h : t.declares source = some (kind, name)) : name ≠ "" := by
  obtain ⟨n, m, -, -, -, hne⟩ := declaredName_eq_some (declares_eq_some h)
  exact hne

theorem records_declaration {t : SyntaxTree} {file : SourceFile} {kind : Kind} {name : String}
    (h : t.declares file.text = some (kind, name)) (children : List Node) :
    Records file t (.declaration kind name (t.extentIn file) children) :=
  ⟨⟨kind, name, h, declares_name_ne h, rfl, rfl⟩, rfl⟩

/-- The declarations in children mirror what is to be recorded there, if those of each child do. -/
theorem exists_mirror_inChildren (file : SourceFile) (cs : List SyntaxTree)
    (ih : ∀ c ∈ cs, ∀ k, ∃ pairs, Mirror file (c.holder file.text) (c.recorded file.text)
      (placesFrom k (c.declarations file)) pairs)
    (j k : Nat) (rest : List SyntaxTree) (h : cs.drop j = rest) :
    ∃ pairs, Mirror file (holderFrom file.text cs) (recordedFrom file.text j rest)
      (placesFrom k (declarations.inChildren file rest)) pairs := by
  induction rest generalizing j k with
  | nil => exact ⟨[], Mirror.nil⟩
  | cons c rest ihrest =>
    have hj : cs[j]? = some c := by
      rw [← List.head?_drop, h]
      rfl
    have hrest : cs.drop (j + 1) = rest := by
      rw [← List.drop_drop, h]
      rfl
    rw [recordedFrom, declarations.inChildren]
    cases hn : c.info.named with
    | false =>
      obtain ⟨pairs, hm⟩ := ihrest (j + 1) k hrest
      exact ⟨pairs, by simpa using hm⟩
    | true =>
      simp only [if_true]
      obtain ⟨first, hfirst⟩ := ih c (List.mem_of_getElem? hj) k
      obtain ⟨more, hmore⟩ := ihrest (j + 1) (k + (c.declarations file).length) hrest
      rw [Node.placesFrom_append]
      refine ⟨_, (hfirst.under j fun a => ?_).append hmore⟩
      rw [holderFrom, hj]
      rfl

theorem declarations_of_none {file : SourceFile} {i : SyntaxInfo} {cs : List SyntaxTree}
    (h : (node i cs).declares file.text = none) :
    (node i cs).declarations file = declarations.inChildren file cs := by
  rw [declarations, h]

theorem declarations_of_some {file : SourceFile} {i : SyntaxInfo} {cs : List SyntaxTree}
    {kind : Kind} {name : String} (h : (node i cs).declares file.text = some (kind, name)) :
    (node i cs).declarations file = [.declaration kind name ((node i cs).extentIn file)
      (if kind.isContainer then declarations.inChildren file cs else [])] := by
  rw [declarations, h]

/-- The declarations of a tree mirror what is to be recorded of it. -/
theorem exists_mirror (file : SourceFile) (t : SyntaxTree) :
    ∀ k, ∃ pairs, Mirror file (t.holder file.text) (t.recorded file.text)
      (placesFrom k (t.declarations file)) pairs := by
  induction t using ind with
  | h i cs ih =>
    intro k
    cases hd : (node i cs).declares file.text with
    | none =>
      obtain ⟨pairs, hpairs⟩ := exists_mirror_inChildren file cs ih 0 k cs rfl
      rw [recorded_of_none hd, holder_of_none hd, declarations_of_none hd]
      exact ⟨pairs, hpairs⟩
    | some d =>
      obtain ⟨kind, name⟩ := d
      rw [declarations_of_some hd, Node.placesFrom_singleton]
      cases hc : kind.isContainer with
      | true =>
        obtain ⟨pairs, hpairs⟩ := exists_mirror_inChildren file cs ih 0 0 cs rfl
        rw [recorded_of_container hd hc]
        exact ⟨_, hpairs.enclose (records_declaration hd _) k rfl fun x hx =>
          holder_of_container hd hc (ne_nil_of_mem_recordedFrom hx)⟩
      | false =>
        rw [recorded_of_method hd hc]
        have hnil : Mirror file (holderFrom file.text []) [] [] [] := Mirror.nil
        exact ⟨_, hnil.enclose (records_declaration hd _) k rfl (by simp)⟩

end SyntaxTree

end Outline
