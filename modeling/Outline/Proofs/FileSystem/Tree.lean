import Outline.FileSystem.Basic
import Outline.Proofs.Path.Order
import Mathlib.Data.List.Basic

/-! The entries of a file system by their locations. A tree has as many directories as there are
locations of directories in it, and each entry of it has fewer. The names of a directory are told in
order, each once, and they are the names that something is held under. -/
namespace Outline.Entry

/-! ### Locations -/

/-- What lies under a list of names, if no file and no link is on the way. -/
def at? (e : Entry) (names : Location) : Option Entry := names.foldlM child? e

@[simp] theorem at?_nil (e : Entry) : e.at? [] = some e := rfl

theorem at?_cons (e : Entry) (name : String) (names : Location) :
    e.at? (name :: names) = (e.child? name).bind (·.at? names) := rfl

theorem at?_append (e : Entry) (front back : Location) :
    e.at? (front ++ back) = (e.at? front).bind (·.at? back) :=
  List.foldlM_append

theorem at?_snoc {e d : Entry} {names : Location} (h : e.at? names = some d) (name : String) :
    e.at? (names ++ [name]) = d.child? name := by
  rw [at?_append, h, Option.bind_some, at?_cons]
  exact Option.bind_fun_some _

theorem exists_mem_of_child? {e c : Entry} {name : String} (h : e.child? name = some c) :
    ∃ es, e = directory es ∧ (name, c) ∈ es := by
  cases e with
  | directory es =>
    obtain ⟨front, back, rfl, -⟩ := List.lookup_eq_some_iff.mp h
    exact ⟨_, rfl, by simp⟩
  | file _ => cases h
  | link _ => cases h

/-- A file lies under a list of names. -/
def HasFile (e : Entry) (names : Location) : Prop := ∃ bytes, e.at? names = some (file bytes)

theorem hasFile_cons {e : Entry} {name : String} {names : Location} :
    e.HasFile (name :: names) ↔ ∃ c, e.child? name = some c ∧ c.HasFile names := by
  simp only [HasFile, at?_cons, Option.bind_eq_some_iff]
  exact ⟨fun ⟨b, c, hc, h⟩ => ⟨c, hc, b, h⟩, fun ⟨c, hc, b, h⟩ => ⟨b, c, hc, h⟩⟩

theorem hasFile_file {bytes : ByteArray} {names : Location} :
    (file bytes).HasFile names ↔ names = [] := by
  cases names with
  | nil => exact iff_of_true ⟨bytes, rfl⟩ rfl
  | cons name names => simp [hasFile_cons, child?]

theorem not_hasFile_link (target : String) (names : Location) : ¬(link target).HasFile names := by
  cases names with
  | nil => simp [HasFile]
  | cons name names => simp [hasFile_cons, child?]

theorem not_hasFile_nil (es : List (String × Entry)) : ¬(directory es).HasFile [] := by
  simp [HasFile]

/-! ### Names -/

theorem mem_names {e : Entry} {name : String} : name ∈ e.names ↔ (e.child? name).isSome := by
  cases e with
  | directory es => simp [names, child?, List.mem_eraseDups]
  | file _ => simp [names, child?]
  | link _ => simp [names, child?]

theorem pairwise_eraseDups {l : List String} (h : l.Pairwise (· ≤ ·)) :
    l.eraseDups.Pairwise (· < ·) := by
  match l with
  | [] => exact .nil
  | a :: as =>
    rw [List.pairwise_cons] at h
    rw [List.eraseDups_cons, List.pairwise_cons]
    constructor
    · intro b hb
      obtain ⟨hb, hne⟩ := List.mem_filter.mp (List.mem_eraseDups.mp hb)
      exact String.not_le.mp fun hba => by simp [String.le_antisymm (h.1 b hb) hba] at hne
    · exact pairwise_eraseDups (h.2.filter _)
termination_by l.length
decreasing_by exact Nat.lt_succ_of_le (List.length_filter_le _ _)

theorem pairwise_names (e : Entry) : e.names.Pairwise (· < ·) := by
  cases e with
  | directory es =>
    apply pairwise_eraseDups
    have hsorted : ((es.map (·.1)).mergeSort fun a b => a ≤ b).Pairwise fun a b => decide (a ≤ b) :=
      List.pairwise_mergeSort
        (fun a b c hab hbc => by simp only [decide_eq_true_eq] at *; exact String.le_trans hab hbc)
        (fun a b => by simpa using String.le_total a b) _
    exact hsorted.imp of_decide_eq_true
  | file _ => exact .nil
  | link _ => exact .nil

/-! ### Directories -/

theorem directories_le_below {name : String} {c : Entry} {es : List (String × Entry)}
    (h : (name, c) ∈ es) : c.directories ≤ directories.below es := by
  induction es with
  | nil => cases h
  | cons head es ih =>
    obtain ⟨n, d⟩ := head
    rw [directories.below]
    rcases List.mem_cons.mp h with heq | hmem
    · obtain ⟨rfl, rfl⟩ := Prod.mk.inj heq
      omega
    · have := ih hmem
      omega

/-- An entry of a directory has fewer directories. -/
theorem directories_lt_of_child? {e c : Entry} {name : String} (h : e.child? name = some c) :
    c.directories < e.directories := by
  obtain ⟨es, rfl, hmem⟩ := exists_mem_of_child? h
  have := directories_le_below hmem
  rw [directories]
  omega

theorem directories_le_of_at? {e c : Entry} {names : Location} (h : e.at? names = some c) :
    c.directories ≤ e.directories := by
  induction names generalizing e with
  | nil =>
    cases h
    exact le_rfl
  | cons name names ih =>
    rw [at?_cons, Option.bind_eq_some_iff] at h
    obtain ⟨d, hd, hc⟩ := h
    exact (ih hc).trans (directories_lt_of_child? hd).le

/-- Where the directories of a tree are. -/
def directoryLocations : Entry → List Location
  | directory es => [] :: below es
  | _ => []
where
  below : List (String × Entry) → List Location
  | [] => []
  | (name, e) :: r => e.directoryLocations.map (name :: ·) ++ below r

theorem length_directoryLocations : (e : Entry) → e.directoryLocations.length = e.directories
  | directory es => by
    rw [directoryLocations, directories, List.length_cons, length_below es, Nat.add_comm]
  | file _ => rfl
  | link _ => rfl
where
  length_below : (es : List (String × Entry)) →
      (directoryLocations.below es).length = directories.below es
  | [] => rfl
  | (name, e) :: r => by
    rw [directoryLocations.below, directories.below, List.length_append, List.length_map,
      length_directoryLocations e, length_below r]

theorem mem_below_directoryLocations {name : String} {c : Entry} {es : List (String × Entry)}
    (h : (name, c) ∈ es) {names : Location} (hc : names ∈ c.directoryLocations) :
    name :: names ∈ directoryLocations.below es := by
  induction es with
  | nil => cases h
  | cons head es ih =>
    obtain ⟨n, d⟩ := head
    rw [directoryLocations.below, List.mem_append]
    rcases List.mem_cons.mp h with heq | hmem
    · obtain ⟨rfl, rfl⟩ := Prod.mk.inj heq
      exact .inl (List.mem_map_of_mem hc)
    · exact .inr (ih hmem)

theorem mem_directoryLocations {e : Entry} {names : Location} {es : List (String × Entry)}
    (h : e.at? names = some (directory es)) : names ∈ e.directoryLocations := by
  induction names generalizing e with
  | nil =>
    cases h
    exact List.mem_cons_self
  | cons name names ih =>
    rw [at?_cons, Option.bind_eq_some_iff] at h
    obtain ⟨c, hc, h⟩ := h
    obtain ⟨ds, rfl, hmem⟩ := exists_mem_of_child? hc
    exact List.mem_cons_of_mem _ (mem_below_directoryLocations hmem (ih h))

/-! ### Well-named trees -/

/-- Everything in a tree is held under a name. -/
def WellNamed : Entry → Prop
  | directory es => allWellNamed es
  | _ => True
where
  allWellNamed : List (String × Entry) → Prop
  | [] => True
  | (name, e) :: r => Path.IsName name ∧ e.WellNamed ∧ allWellNamed r

/-- Whether a tree is well named can be computed. -/
def decideWellNamed : (e : Entry) → Decidable e.WellNamed
  | directory es => decideAll es
  | file _ => .isTrue trivial
  | link _ => .isTrue trivial
where
  decideAll : (es : List (String × Entry)) → Decidable (WellNamed.allWellNamed es)
  | [] => .isTrue trivial
  | (name, e) :: r =>
    have := e.decideWellNamed
    have := decideAll r
    inferInstanceAs (Decidable (Path.IsName name ∧ e.WellNamed ∧ WellNamed.allWellNamed r))

instance (e : Entry) : Decidable e.WellNamed := decideWellNamed e

theorem WellNamed.of_child? {e c : Entry} (h : e.WellNamed) {name : String}
    (hc : e.child? name = some c) : Path.IsName name ∧ c.WellNamed := by
  obtain ⟨es, rfl, hmem⟩ := exists_mem_of_child? hc
  rw [WellNamed] at h
  clear hc
  induction es with
  | nil => cases hmem
  | cons head es ih =>
    rcases List.mem_cons.mp hmem with rfl | hmem
    · exact ⟨h.1, h.2.1⟩
    · exact ih hmem h.2.2

theorem WellNamed.of_at? {e c : Entry} (h : e.WellNamed) {names : Location}
    (hc : e.at? names = some c) : (∀ name ∈ names, Path.IsName name) ∧ c.WellNamed := by
  induction names generalizing e with
  | nil =>
    cases hc
    exact ⟨by simp, h⟩
  | cons name names ih =>
    rw [at?_cons, Option.bind_eq_some_iff] at hc
    obtain ⟨d, hd, hc⟩ := hc
    obtain ⟨hname, hwell⟩ := h.of_child? hd
    obtain ⟨hnames, hc⟩ := ih hwell hc
    exact ⟨List.forall_mem_cons.mpr ⟨hname, hnames⟩, hc⟩

end Outline.Entry
