import Outline.Proofs.FileSystem.Tree

/-! The contents of a directory, whichever way it is kept: two trees are alike when the same names
lead to the same files, directories and links in both. The files of a tree are listed in the order
of their names, directory by directory, as far as the directories are open, and trees that are alike
have the same list. -/
namespace Outline.Entry

/-- What an entry is, without what it holds. -/
inductive Face where
  | file (bytes : ByteArray)
  | directory
  | link (target : String)

def face : Entry → Face
  | file bytes => .file bytes
  | directory _ => .directory
  | link target => .link target

/-- The same names lead to the same in both trees. -/
def Alike (e d : Entry) : Prop := ∀ names, (e.at? names).map face = (d.at? names).map face

/-- No link is anywhere in the tree. -/
def LinkFree (e : Entry) : Prop := ∀ names target, e.at? names ≠ some (link target)

theorem Alike.symm {e d : Entry} (h : e.Alike d) : d.Alike e := fun names => (h names).symm

theorem at?_singleton (e : Entry) (name : String) : e.at? [name] = e.child? name :=
  at?_snoc (at?_nil e) name

theorem Alike.child? {e d c : Entry} (h : e.Alike d) {name : String}
    (hc : e.child? name = some c) : ∃ b, d.child? name = some b ∧ c.Alike b := by
  have hface := h [name]
  rw [at?_singleton, at?_singleton, hc, Option.map_some, eq_comm, Option.map_eq_some_iff] at hface
  obtain ⟨b, hb, -⟩ := hface
  refine ⟨b, hb, fun names => ?_⟩
  have hbelow := h (name :: names)
  rw [at?_cons, at?_cons, hc, hb] at hbelow
  exact hbelow

theorem Alike.face_eq {e d : Entry} (h : e.Alike d) : e.face = d.face :=
  Option.some.inj (h [])

theorem Alike.file_eq {d : Entry} {bytes : ByteArray} (h : (file bytes).Alike d) :
    d = file bytes := by
  have hface := h.face_eq
  cases d with
  | file b => rw [Face.file.inj hface]
  | directory es => cases hface
  | link target => cases hface

theorem Alike.directory_eq {d : Entry} {es : List (String × Entry)} (h : (directory es).Alike d) :
    ∃ ds, d = directory ds := by
  have hface := h.face_eq
  cases d with
  | file b => cases hface
  | directory ds => exact ⟨ds, rfl⟩
  | link target => cases hface

theorem Alike.at?_file {e d : Entry} (h : e.Alike d) {names : Location} {bytes : ByteArray}
    (hfile : e.at? names = some (file bytes)) : d.at? names = some (file bytes) := by
  have hface := h names
  rw [hfile, Option.map_some, eq_comm, Option.map_eq_some_iff] at hface
  obtain ⟨b, hb, hbytes⟩ := hface
  cases b with
  | file c => rw [hb, Face.file.inj hbytes]
  | directory es => cases hbytes
  | link target => cases hbytes

theorem Alike.mem_names {e d : Entry} (h : e.Alike d) {name : String} (hname : name ∈ e.names) :
    name ∈ d.names := by
  obtain ⟨c, hc⟩ := Option.isSome_iff_exists.mp (Entry.mem_names.mp hname)
  obtain ⟨b, hb, -⟩ := h.child? hc
  exact Entry.mem_names.mpr (Option.isSome_of_eq_some hb)

theorem Alike.names_eq {e d : Entry} (h : e.Alike d) : e.names = d.names := by
  have hne {l : List String} (hl : l.Pairwise (· < ·)) : l.Nodup := by
    refine hl.imp fun {a b} hlt => ?_
    rintro rfl
    exact String.lt_irrefl a hlt
  have hperm : e.names.Perm d.names :=
    (List.perm_ext_iff_of_nodup (hne (pairwise_names e)) (hne (pairwise_names d))).mpr
      fun name => ⟨h.mem_names, h.symm.mem_names⟩
  refine hperm.eq_of_pairwise (fun a b _ _ hab hba => ?_) (pairwise_names e) (pairwise_names d)
  exact absurd (String.lt_trans hab hba) (String.lt_irrefl a)

theorem Alike.linkFree {e d : Entry} (h : e.Alike d) (he : e.LinkFree) : d.LinkFree := by
  intro names target hlink
  have hface := h names
  rw [hlink, Option.map_some, Option.map_eq_some_iff] at hface
  obtain ⟨c, hc, htarget⟩ := hface
  cases c with
  | link t => exact he names t hc
  | file _ => cases htarget
  | directory _ => cases htarget

theorem LinkFree.child? {e c : Entry} (h : e.LinkFree) {name : String}
    (hc : e.child? name = some c) : c.LinkFree := by
  intro names target hlink
  apply h (name :: names) target
  rw [at?_cons, hc]
  exact hlink

/-! ### The files of a tree -/

/-- The names that lead to the files of a tree through open directories, in their order, down to a
depth. -/
def filesBelow (isOpen : Location → Bool) : Nat → Entry → List Location
  | 0, _ => []
  | n + 1, e => e.names.flatMap fun name =>
    match e.child? name with
    | some (file _) => [[name]]
    | some (directory es) =>
      if isOpen [name] then
        (filesBelow (fun names => isOpen (name :: names)) n (directory es)).map (name :: ·)
      else []
    | _ => []

theorem hasFile_of_mem_filesBelow {isOpen : Location → Bool} {n : Nat} {e : Entry}
    {names : Location} (h : names ∈ e.filesBelow isOpen n) : e.HasFile names := by
  induction n generalizing isOpen e names with
  | zero => cases h
  | succ n ih =>
    obtain ⟨name, -, hin⟩ := List.mem_flatMap.mp h
    split at hin
    next bytes hc =>
      rw [List.mem_singleton.mp hin]
      exact hasFile_cons.mpr ⟨_, hc, bytes, rfl⟩
    next es hc =>
      split at hin
      · obtain ⟨rest, hrest, rfl⟩ := List.mem_map.mp hin
        exact hasFile_cons.mpr ⟨_, hc, ih hrest⟩
      · cases hin
    · cases hin

/-- Trees that are alike have the same files, if the same directories are open in both. -/
theorem Alike.filesBelow_eq {e d : Entry} (h : e.Alike d) {isOpen isOpen' : Location → Bool}
    (hopen : ∀ names es, e.at? names = some (directory es) → isOpen names = isOpen' names)
    (n : Nat) : e.filesBelow isOpen n = d.filesBelow isOpen' n := by
  induction n generalizing e d isOpen isOpen' with
  | zero => rfl
  | succ n ih =>
    rw [filesBelow, filesBelow, ← h.names_eq]
    refine List.flatMap_congr fun name hname => ?_
    obtain ⟨c, hc⟩ := Option.isSome_iff_exists.mp (Entry.mem_names.mp hname)
    obtain ⟨b, hb, halike⟩ := h.child? hc
    rw [hc, hb]
    cases c with
    | file bytes => rw [halike.file_eq]
    | directory es =>
      obtain ⟨ds, rfl⟩ := halike.directory_eq
      have hbelow (names : Location) (fs : List (String × Entry))
          (hfs : (directory es).at? names = some (directory fs)) :
          isOpen (name :: names) = isOpen' (name :: names) := by
        refine hopen (name :: names) fs ?_
        rw [at?_cons, hc]
        exact hfs
      dsimp only
      rw [hbelow [] es rfl, ih halike hbelow]
    | link target =>
      cases b with
      | link _ => rfl
      | file _ => cases halike.face_eq
      | directory _ => cases halike.face_eq

/-- A depth of as many directories as the tree has is enough. -/
theorem filesBelow_congr {isOpen : Location → Bool} {e : Entry} {n m : Nat}
    (hn : e.directories ≤ n) (hm : e.directories ≤ m) :
    e.filesBelow isOpen n = e.filesBelow isOpen m := by
  induction n generalizing isOpen e m with
  | zero =>
    cases e with
    | directory es => simp [directories] at hn
    | file _ => cases m <;> rfl
    | link _ => cases m <;> rfl
  | succ n ih =>
    cases m with
    | zero =>
      cases e with
      | directory es => simp [directories] at hm
      | file _ => rfl
      | link _ => rfl
    | succ m =>
      rw [filesBelow, filesBelow]
      congr 1
      funext name
      split
      · rfl
      next es hc =>
        have hlt := directories_lt_of_child? hc
        rw [ih (e := directory es) (m := m) (by omega) (by omega)]
      · rfl

end Outline.Entry
