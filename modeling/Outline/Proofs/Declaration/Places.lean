import Mathlib.Data.List.Basic
import Outline.Declaration.Collect
import Outline.Declaration.Search

/-! Where nodes stand in a tree. An address is the list of child indices that leads to a node, so a
node is below another when its address goes on from the other's. The nodes of a tree are listed in
preorder with their addresses; without the addresses this is the order of the walk with a stack. -/
namespace Outline

/-- The indices of the children that lead to a node. -/
abbrev Address := List Nat

namespace Address

/-- The addresses of the nodes above an address, from the outermost inwards. -/
def above : Address → List Address
  | [] => []
  | i :: a => [] :: (above a).map (i :: ·)

theorem mem_above {a b : Address} : b ∈ above a ↔ b <+: a ∧ b ≠ a := by
  induction a generalizing b with
  | nil =>
    simp only [above, List.not_mem_nil, List.prefix_nil, ne_eq, and_not_self]
  | cons i a ih =>
    cases b with
    | nil => simp [above]
    | cons j b =>
      simp only [above, List.mem_cons, List.mem_map, reduceCtorEq, false_or, List.cons.injEq,
        List.cons_prefix_cons, ne_eq, not_and]
      constructor
      · rintro ⟨c, hc, rfl, rfl⟩
        exact ⟨⟨rfl, (ih.mp hc).1⟩, fun _ => (ih.mp hc).2⟩
      · rintro ⟨⟨rfl, hp⟩, hne⟩
        exact ⟨b, ih.mpr ⟨hp, hne rfl⟩, rfl, rfl⟩

/-- The places of a tree that is the child with index `i` of another. -/
def under {α : Type} (i : Nat) (places : List (Address × α)) : List (Address × α) :=
  places.map fun x => (i :: x.1, x.2)

@[simp] theorem under_nil {α : Type} (i : Nat) : under i ([] : List (Address × α)) = [] := rfl

@[simp] theorem map_snd_under {α : Type} (i : Nat) (places : List (Address × α)) :
    (under i places).map (·.2) = places.map (·.2) := by
  simp [under]

end Address

open Address

namespace Node

/-- The nodes of a tree in preorder, each with its address. -/
def places : Node → List (Address × Node)
  | mk k n o cs => ([], mk k n o cs) :: placesFrom 0 cs
where
  /-- The places of siblings, the first of which has the given index. -/
  placesFrom : Nat → List Node → List (Address × Node)
  | _, [] => []
  | i, c :: r => under i c.places ++ placesFrom (i + 1) r

open places (placesFrom)

theorem places_eq (n : Node) : n.places = ([], n) :: placesFrom 0 n.children := by
  cases n
  rw [places, children]

theorem placesFrom_singleton (i : Nat) (n : Node) :
    placesFrom i [n] = ([i], n) :: under i (placesFrom 0 n.children) := by
  rw [placesFrom, places_eq, placesFrom, List.append_nil]
  rfl

theorem placesFrom_append (i : Nat) (cs ds : List Node) :
    placesFrom i (cs ++ ds) = placesFrom i cs ++ placesFrom (i + cs.length) ds := by
  induction cs generalizing i with
  | nil => simp [placesFrom]
  | cons c cs ih =>
    simp only [List.cons_append, placesFrom, ih, List.append_assoc, List.length_cons]
    rw [Nat.add_assoc, Nat.add_comm 1]

theorem exists_cons_of_mem_placesFrom {i : Nat} {cs : List Node} {x : Address × Node}
    (h : x ∈ placesFrom i cs) : ∃ j a, x.1 = j :: a ∧ i ≤ j ∧ j < i + cs.length := by
  induction cs generalizing i with
  | nil => cases h
  | cons c cs ih =>
    rw [placesFrom, List.mem_append] at h
    rcases h with h | h
    · obtain ⟨y, -, rfl⟩ := List.mem_map.mp h
      exact ⟨i, y.1, rfl, Nat.le_refl i, by simp⟩
    · obtain ⟨j, a, hx, hij, hj⟩ := ih h
      exact ⟨j, a, hx, by omega, by rw [List.length_cons]; omega⟩

theorem placesFrom_map_snd_congr (i j : Nat) (cs : List Node) :
    (placesFrom i cs).map (·.2) = (placesFrom j cs).map (·.2) := by
  induction cs generalizing i j with
  | nil => rfl
  | cons c cs ih =>
    simp only [placesFrom, List.map_append, map_snd_under]
    rw [ih (i + 1) (j + 1)]

/-- Without their addresses the places of siblings are what the walk from them goes through. -/
theorem placesFrom_map_snd (i : Nat) (cs : List Node) :
    (placesFrom i cs).map (·.2) = walkFrom cs := by
  fun_induction walkFrom cs generalizing i with
  | case1 => rfl
  | case2 n stack ih =>
    rw [← ih 0, placesFrom, places_eq, placesFrom_append]
    simp only [List.map_append, map_snd_under, List.map_cons, List.cons_append]
    rw [placesFrom_map_snd_congr (i + 1) (0 + n.children.length)]

theorem walkFrom_append (cs ds : List Node) : walkFrom (cs ++ ds) = walkFrom cs ++ walkFrom ds := by
  rw [← placesFrom_map_snd 0, placesFrom_append, List.map_append, placesFrom_map_snd,
    placesFrom_map_snd]

theorem walk_eq (n : Node) : n.walk = n :: walkFrom n.children := by
  rw [walk, walkFrom, List.append_nil]

theorem walkFrom_cons (n : Node) (cs : List Node) :
    walkFrom (n :: cs) = n.walk ++ walkFrom cs := by
  rw [walk, ← walkFrom_append, List.singleton_append]

theorem mem_walkFrom {n : Node} {cs : List Node} : n ∈ walkFrom cs ↔ ∃ c ∈ cs, n ∈ c.walk := by
  induction cs with
  | nil => simp [walkFrom]
  | cons c cs ih => simp [walkFrom_cons, ih]

theorem places_map_snd (n : Node) : n.places.map (·.2) = n.walk := by
  rw [places_eq, List.map_cons, placesFrom_map_snd, walk_eq]

/-- A place among siblings is a place in one of them, and its address starts with that one's
index. -/
theorem exists_of_mem_placesFrom {i : Nat} {cs : List Node} {x : Address × Node}
    (h : x ∈ placesFrom i cs) :
    ∃ j c a, cs[j]? = some c ∧ x.1 = (i + j) :: a ∧ x.2 ∈ c.walk := by
  induction cs generalizing i with
  | nil => cases h
  | cons c cs ih =>
    rw [placesFrom, List.mem_append] at h
    rcases h with h | h
    · obtain ⟨y, hy, rfl⟩ := List.mem_map.mp h
      have hmem : y.2 ∈ c.walk := by
        rw [← places_map_snd]
        exact List.mem_map_of_mem hy
      exact ⟨0, c, y.1, rfl, rfl, hmem⟩
    · obtain ⟨j, d, a, hd, hx, hmem⟩ := ih h
      refine ⟨j + 1, d, a, hd, ?_, hmem⟩
      rw [hx, Nat.add_assoc, Nat.add_comm 1]

end Node

end Outline
