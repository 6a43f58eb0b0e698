import Outline.Scan.Candidates
import Outline.Proofs.FileSystem.Resolution
import Mathlib.Data.Finset.Card
import Mathlib.Data.Finset.SDiff

/-! The walk through the directories below a path. What it does at one entry is said once: it finds
the path of the entry, or goes into the directory that is there or into one that is not being walked
yet. From this it follows that the paths come in order and that the limit of the walk is never
reached; and a walk that follows no link and can look into all directories finds the files that
names lead to, and no others. -/
namespace Outline.Scanner

variable {fs : FileSystem} {followLinks : Bool} {dir : Visited} {above : List Visited}

/-! ### One entry -/

/-- A walk goes into the directory under a name, or to one that no directory on the way is. -/
def Enters (fs : FileSystem) (dir : Visited) (above : List Visited) (name : String)
    (location : Location) : Prop :=
  (∃ es, fs.entryAt? location = some (.directory es)) ∧
    (location = dir.location ++ [name] ∨ ∀ d ∈ dir :: above, d.location ≠ location)

/-- All that can become of an entry. -/
theorem step_cases (fs : FileSystem) (followLinks : Bool) (dir : Visited) (above : List Visited)
    (name : String) :
    step fs followLinks dir above name = .pass ∨
      step fs followLinks dir above name = .tell (.ok (dir.path.join name)) ∨
      (∃ obstacle, step fs followLinks dir above name = .tell (.error obstacle)) ∨
      ∃ location, step fs followLinks dir above name = .enter ⟨dir.path.join name, location⟩ ∧
        Enters fs dir above name location := by
  unfold step
  dsimp only
  split
  · exact .inl rfl
  · exact .inr (.inl rfl)
  next es hes =>
    split
    · exact .inr (.inr (.inl ⟨_, rfl⟩))
    · exact .inr (.inr (.inr ⟨_, rfl, ⟨es, hes⟩, .inl rfl⟩))
  · split
    · split
      · exact .inr (.inr (.inl ⟨_, rfl⟩))
      · split
        · exact .inr (.inl rfl)
        next es hes =>
          split
          · exact .inr (.inr (.inl ⟨_, rfl⟩))
          next hnone =>
            refine .inr (.inr (.inr ⟨_, rfl, ⟨es, hes⟩, .inr fun d hd => ?_⟩))
            simpa using List.find?_eq_none.mp hnone d hd
        · exact .inl rfl
    · exact .inl rfl

theorem walk_succ {e : Entry} (h : fs.entryAt? dir.location = some e) (n : Nat) :
    walk fs followLinks (n + 1) (dir :: above) = e.names.flatMap fun name =>
      (step fs followLinks dir above name).found fun next =>
        walk fs followLinks n (next :: dir :: above) := by
  rw [walk, h]

theorem walk_of_none (h : fs.entryAt? dir.location = none) (n : Nat) :
    walk fs followLinks n (dir :: above) = [] := by
  cases n with
  | zero => rfl
  | succ n => rw [walk, h]

theorem child?_eq {e : Entry} (h : fs.entryAt? dir.location = some e) (name : String) :
    fs.entryAt? (dir.location ++ [name]) = e.child? name :=
  Entry.at?_snoc h name

theorem isName_of_mem_names (hfs : fs.top.WellNamed) {location : Location} {e : Entry}
    (h : fs.entryAt? location = some e) {name : String} (hname : name ∈ e.names) :
    Path.IsName name := by
  obtain ⟨c, hc⟩ := Option.isSome_iff_exists.mp (Entry.mem_names.mp hname)
  exact ((hfs.of_at? h).2.of_child? hc).1

/-- What a walk finds is at the end of names below the directory that it starts from. -/
theorem exists_below_of_mem_walk (hfs : fs.top.WellNamed) {n : Nat} {p : Path}
    (hp : .ok p ∈ walk fs followLinks n (dir :: above)) :
    ∃ names, names ≠ [] ∧ (∀ name ∈ names, Path.IsName name) ∧ p = dir.path.below names := by
  induction n generalizing dir above with
  | zero => cases hp
  | succ n ih =>
    cases he : fs.entryAt? dir.location with
    | none =>
      rw [walk_of_none he] at hp
      cases hp
    | some e =>
      rw [walk_succ he, List.mem_flatMap] at hp
      obtain ⟨name, hname, hp⟩ := hp
      have hisName := isName_of_mem_names hfs he hname
      rcases step_cases fs followLinks dir above name with
        h | h | ⟨obstacle, h⟩ | ⟨location, h, -⟩
      · rw [h] at hp
        cases hp
      · rw [h] at hp
        refine ⟨[name], List.cons_ne_nil _ _, by simpa using hisName, ?_⟩
        exact Except.ok.inj (List.mem_singleton.mp hp)
      · rw [h] at hp
        cases List.mem_singleton.mp hp
      · rw [h] at hp
        obtain ⟨names, -, hnames, rfl⟩ := ih hp
        exact ⟨name :: names, List.cons_ne_nil _ _, List.forall_mem_cons.mpr ⟨hisName, hnames⟩, rfl⟩

/-! ### Order -/

/-- What is found at an entry has the path of the entry in front. -/
theorem isPrefix_of_mem_found {name : String} {p : Path}
    {inside : Visited → List (Except Obstacle Path)}
    (hp : .ok p ∈ (step fs followLinks dir above name).found inside)
    (hinside : ∀ next, .ok p ∈ inside next → next.path.components <+: p.components) :
    (dir.path.join name).components <+: p.components := by
  rcases step_cases fs followLinks dir above name with h | h | ⟨obstacle, h⟩ | ⟨location, h, -⟩
  · rw [h] at hp
    cases hp
  · rw [h] at hp
    rw [Except.ok.inj (List.mem_singleton.mp hp)]
  · rw [h] at hp
    cases List.mem_singleton.mp hp
  · rw [h] at hp
    exact hinside ⟨dir.path.join name, location⟩ hp

/-- A walk finds paths below the directory it starts from. -/
theorem isPrefix_of_mem_walk (hfs : fs.top.WellNamed) {n : Nat} {p : Path}
    (hp : .ok p ∈ walk fs followLinks n (dir :: above)) :
    dir.path.components <+: p.components := by
  obtain ⟨names, -, hnames, rfl⟩ := exists_below_of_mem_walk hfs hp
  rw [Path.components_below _ hnames]
  exact List.prefix_append _ _

/-- Two things found are in the order of their paths, if both are files. -/
def InOrder (x y : Except Obstacle Path) : Prop := ∀ p q, x = .ok p → y = .ok q → p.Precedes q

/-- A walk finds files in the order of their paths. -/
theorem pairwise_walk (hfs : fs.top.WellNamed) (n : Nat) (chain : List Visited) :
    (walk fs followLinks n chain).Pairwise InOrder := by
  induction n generalizing chain with
  | zero => exact .nil
  | succ n ih =>
    cases chain with
    | nil => exact .nil
    | cons dir above =>
      cases he : fs.entryAt? dir.location with
      | none =>
        rw [walk_of_none he]
        exact .nil
      | some e =>
        rw [walk_succ he, List.pairwise_flatMap]
        constructor
        · intro name _
          cases step fs followLinks dir above name with
          | pass => exact .nil
          | tell _ => exact List.pairwise_singleton _ _
          | enter next => exact ih _
        · refine (Entry.pairwise_names e).imp_of_mem ?_
          rintro a b ha hb hab _ hx _ hy p q rfl rfl
          have hp := isPrefix_of_mem_found hx fun _ => isPrefix_of_mem_walk hfs
          have hq := isPrefix_of_mem_found hy fun _ => isPrefix_of_mem_walk hfs
          rw [Path.components_join _ (isName_of_mem_names hfs he ha)] at hp
          rw [Path.components_join _ (isName_of_mem_names hfs he hb)] at hq
          exact Path.precedes_of_lt hab hp hq

/-! ### The limit -/

/-- The directories that are not being walked. -/
def unvisited (fs : FileSystem) (chain : List Visited) : Finset Location :=
  fs.top.directoryLocations.toFinset \ (chain.map (·.location)).toFinset

/-- The directories at a location. -/
def deep (fs : FileSystem) (location : Location) : Nat :=
  ((fs.entryAt? location).map Entry.directories).getD 0

/-- How deep a walk can go on: down the tree, and then through links to directories that are not
being walked. -/
def reserve (fs : FileSystem) (dir : Visited) (above : List Visited) : Nat :=
  (unvisited fs (dir :: above)).card * (fs.top.directories + 1) + deep fs dir.location

theorem unvisited_cons (next : Visited) (chain : List Visited) :
    unvisited fs (next :: chain) = (unvisited fs chain).erase next.location := by
  rw [unvisited, List.map_cons, List.toFinset_cons, Finset.sdiff_insert, unvisited]

theorem deep_le (fs : FileSystem) (location : Location) :
    deep fs location ≤ fs.top.directories := by
  unfold deep
  cases h : fs.entryAt? location with
  | none => exact Nat.zero_le _
  | some e => exact Entry.directories_le_of_at? h

/-- Every directory that is gone into takes from the reserve. -/
theorem reserve_lt {e : Entry} (he : fs.entryAt? dir.location = some e) {name : String}
    {location : Location} (h : Enters fs dir above name location) (path : Path) :
    reserve fs ⟨path, location⟩ (dir :: above) < reserve fs dir above := by
  obtain ⟨⟨es, hes⟩, rfl | hnew⟩ := h
  · -- down the tree: fewer directories lie below, and no more are unvisited
    have hcard := Finset.card_erase_le (s := unvisited fs (dir :: above))
      (a := dir.location ++ [name])
    have hmul := Nat.mul_le_mul_right (fs.top.directories + 1) hcard
    have hdeep : deep fs (dir.location ++ [name]) < deep fs dir.location := by
      rw [deep, deep, he, hes]
      rw [child?_eq he] at hes
      exact Entry.directories_lt_of_child? hes
    rw [reserve, reserve, unvisited_cons]
    dsimp only
    omega
  · -- through a link: one directory less is unvisited, and no tree has more than all directories
    have hmem : location ∈ unvisited fs (dir :: above) := by
      rw [unvisited, Finset.mem_sdiff, List.mem_toFinset, List.mem_toFinset]
      refine ⟨Entry.mem_directoryLocations hes, fun hin => ?_⟩
      obtain ⟨d, hd, heq⟩ := List.mem_map.mp hin
      exact hnew d hd heq
    have hcard := Finset.card_erase_lt_of_mem hmem
    have hmul := Nat.mul_le_mul_right (fs.top.directories + 1) (Nat.succ_le_of_lt hcard)
    rw [Nat.succ_mul] at hmul
    have hdeep := deep_le fs location
    rw [reserve, reserve, unvisited_cons]
    dsimp only
    omega

theorem walk_of_reserve_eq_zero (h : reserve fs dir above = 0) (n : Nat) :
    walk fs followLinks n (dir :: above) = [] := by
  cases he : fs.entryAt? dir.location with
  | none => exact walk_of_none he n
  | some e =>
    cases n with
    | zero => rfl
    | succ n =>
      have hdeep : e.directories = 0 := by
        rw [reserve, deep, he] at h
        exact (Nat.add_eq_zero_iff.mp h).2
      rw [walk_succ he]
      cases e with
      | directory es => simp [Entry.directories] at hdeep
      | file _ => rfl
      | link _ => rfl

/-- A walk that is deep enough for its reserve is deep enough. -/
theorem walk_congr {n m : Nat} (hn : reserve fs dir above ≤ n) (hm : reserve fs dir above ≤ m) :
    walk fs followLinks n (dir :: above) = walk fs followLinks m (dir :: above) := by
  induction n generalizing dir above m with
  | zero =>
    rw [walk_of_reserve_eq_zero (Nat.le_zero.mp hn), walk_of_reserve_eq_zero (Nat.le_zero.mp hn)]
  | succ n ih =>
    cases m with
    | zero =>
      rw [walk_of_reserve_eq_zero (Nat.le_zero.mp hm), walk_of_reserve_eq_zero (Nat.le_zero.mp hm)]
    | succ m =>
      cases he : fs.entryAt? dir.location with
      | none => rw [walk_of_none he, walk_of_none he]
      | some e =>
        rw [walk_succ he, walk_succ he]
        congr 1
        funext name
        rcases step_cases fs followLinks dir above name with
          h | h | ⟨obstacle, h⟩ | ⟨location, h, henters⟩
        · rw [h]
          rfl
        · rw [h]
          rfl
        · rw [h]
          rfl
        · have hlt := reserve_lt he henters (dir.path.join name)
          rw [h]
          exact ih (by omega) (by omega)

/-- The limit of a walk is never reached: a deeper walk finds the same. -/
theorem walk_eq_of_walkLimit_le {location : Location} {es : List (String × Entry)}
    (h : fs.entryAt? location = some (.directory es)) (path : Path) {n : Nat}
    (hn : walkLimit fs ≤ n) :
    walk fs followLinks n [⟨path, location⟩] =
      walk fs followLinks (walkLimit fs) [⟨path, location⟩] := by
  have hreserve : reserve fs ⟨path, location⟩ [] ≤ walkLimit fs := by
    -- the first directory is being walked, so it is missing from the unvisited ones
    have hmem : location ∈ unvisited fs [] := by
      simpa [unvisited] using Entry.mem_directoryLocations h
    have hcard := Finset.card_erase_lt_of_mem hmem
    have hall : (unvisited fs []).card ≤ fs.top.directories := by
      rw [← Entry.length_directoryLocations]
      simpa [unvisited] using List.toFinset_card_le fs.top.directoryLocations
    have hmul := Nat.mul_le_mul_right (fs.top.directories + 1)
      (Nat.succ_le_of_lt (hcard.trans_le hall))
    rw [Nat.succ_mul] at hmul
    have hdeep := deep_le fs location
    rw [reserve, walkLimit, unvisited_cons]
    dsimp only
    omega
  exact walk_congr (hreserve.trans hn) hreserve

/-! ### Without links -/

/-- Without links, the files at an entry are those below it in the tree, if it can be looked into. -/
theorem mem_found_iff {e : Entry} (he : fs.entryAt? dir.location = some e)
    (hfit : FileSystem.DirectoriesFit dir.path e) {name : String} {p : Path}
    {inside : Visited → List (Except Obstacle Path)}
    (hinside : ∀ ds, e.child? name = some (.directory ds) →
      (.ok p ∈ inside ⟨dir.path.join name, dir.location ++ [name]⟩ ↔
        ∃ names, (Entry.directory ds).HasFile names ∧ p = (dir.path.join name).below names)) :
    .ok p ∈ (step fs false dir above name).found inside ↔
      ∃ names, e.HasFile (name :: names) ∧ p = dir.path.below (name :: names) := by
  simp only [Entry.hasFile_cons, Path.below_cons, step, child?_eq he]
  cases hc : e.child? name with
  | none => simp [Step.found]
  | some c =>
    cases c with
    | file bytes => simp [Step.found, Entry.hasFile_file]
    | directory ds =>
      have hlimit : ¬FileSystem.pathLimit < (dir.path.join name).text.utf8ByteSize :=
        Nat.not_lt.mpr (hfit.child hc [] ds rfl)
      simpa [Step.found, hlimit] using hinside ds hc
    | link target => simp [Step.found, Entry.not_hasFile_link]

/-- Without links, a walk that is deep enough finds the files of the tree below its directory, if it
can look into the directories there. -/
theorem mem_walk_iff {es : List (String × Entry)}
    (he : fs.entryAt? dir.location = some (.directory es))
    (hfit : FileSystem.DirectoriesFit dir.path (.directory es)) {n : Nat}
    (hn : (Entry.directory es).directories ≤ n) {p : Path} :
    .ok p ∈ walk fs false n (dir :: above) ↔
      ∃ names, (Entry.directory es).HasFile names ∧ p = dir.path.below names := by
  induction n generalizing dir above es with
  | zero => simp [Entry.directories] at hn
  | succ n ih =>
    have hitem (name : String) :
        .ok p ∈ (step fs false dir above name).found
            (fun next => walk fs false n (next :: dir :: above)) ↔
          ∃ names, (Entry.directory es).HasFile (name :: names) ∧
            p = dir.path.below (name :: names) := by
      refine mem_found_iff he hfit fun ds hc => ih ((child?_eq he name).trans hc) (hfit.child hc) ?_
      have := Entry.directories_lt_of_child? hc
      omega
    rw [walk_succ he, List.mem_flatMap]
    constructor
    · rintro ⟨name, -, hp⟩
      obtain ⟨names, hfile, rfl⟩ := (hitem name).mp hp
      exact ⟨_, hfile, rfl⟩
    · rintro ⟨names, hfile, rfl⟩
      cases names with
      | nil => exact absurd hfile (Entry.not_hasFile_nil es)
      | cons name names =>
        obtain ⟨c, hc, -⟩ := Entry.hasFile_cons.mp hfile
        refine ⟨name, Entry.mem_names.mpr ?_, (hitem name).mpr ⟨names, hfile, rfl⟩⟩
        exact Option.isSome_of_eq_some hc

end Outline.Scanner
