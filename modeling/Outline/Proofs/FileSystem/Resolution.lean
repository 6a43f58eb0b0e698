import Outline.Proofs.FileSystem.Tree

/-! Where paths lead. What becomes of one piece of a path is said once: it is refused, or leads to a
location where something is, or a link is in the way and its target comes first. From this it
follows that a path leads to something or nowhere, and that a path goes on from where the first
part of it leads. Below a directory, where no link is in the way, a path leads to the names it ends
in, however its first part is written. -/
namespace Outline.FileSystem

/-! ### One piece -/

/-- What becomes of a piece of a path. -/
inductive Hop where
  | refuse (fault : Fault)
  | go (location : Location)
  | jump (base : Location) (target : List String)

/-- What becomes of a piece of a path that has led to a location. -/
def hop (fs : FileSystem) (location : Location) (piece : String) : Hop :=
  match fs.entryAt? location with
  | some (.directory _) =>
    if piece = "" || piece = "." then .go location
    else if piece = ".." then .go location.dropLast
    else if 255 < piece.utf8ByteSize then .refuse .nameTooLong
    else
      match fs.entryAt? (location ++ [piece]) with
      | none => .refuse .notFound
      | some (.link target) =>
        if target.isEmpty then .refuse .notFound
        else .jump (startOf location target) (Text.pieces '/' target)
      | some _ => .go (location ++ [piece])
  | _ => .refuse .notDirectory

variable {fs : FileSystem} {jump : Location → List String → Except Fault Location}
  {location : Location}

theorem along_cons (fs : FileSystem) (jump : Location → List String → Except Fault Location)
    (location : Location) (piece : String) (rest : List String) :
    fs.along jump location (piece :: rest) =
      match fs.hop location piece with
      | .refuse fault => .error fault
      | .go next => fs.along jump next rest
      | .jump base target => jump base (target ++ rest) := by
  rw [along, hop]
  cases fs.entryAt? location with
  | none => rfl
  | some e =>
    cases e with
    | file _ => rfl
    | link _ => rfl
    | directory es =>
      dsimp only
      split
      · rfl
      · split
        · rfl
        · split
          · rfl
          · cases fs.entryAt? (location ++ [piece]) with
            | none => rfl
            | some c =>
              cases c with
              | file _ => rfl
              | directory _ => rfl
              | link target =>
                dsimp only
                split <;> rfl

theorem exists_entryAt?_dropLast {e : Entry} (h : fs.entryAt? location = some e) :
    ∃ d, fs.entryAt? location.dropLast = some d := by
  cases location using List.reverseRecOn with
  | nil => exact ⟨e, h⟩
  | append_singleton front name =>
    change fs.top.at? (front ++ [name]) = some e at h
    rw [Entry.at?_append, Option.bind_eq_some_iff] at h
    obtain ⟨d, hd, -⟩ := h
    exact ⟨d, by rw [List.dropLast_concat]; exact hd⟩

theorem exists_entryAt?_of_hop {piece : String} {next : Location}
    (h : fs.hop location piece = .go next) : ∃ e, fs.entryAt? next = some e := by
  unfold hop at h
  split at h
  next es hes =>
    split at h
    · exact ⟨_, Hop.go.inj h ▸ hes⟩
    · split at h
      · exact Hop.go.inj h ▸ exists_entryAt?_dropLast hes
      · split at h
        · cases h
        · split at h
          · cases h
          · split at h <;> cases h
          next e _ he => exact ⟨e, Hop.go.inj h ▸ he⟩
  · cases h

theorem pieces_ne_nil (text : String) : Text.pieces '/' text ≠ [] := by
  rw [Text.pieces]
  exact mt List.map_eq_nil_iff.mp (Text.cut_ne_nil _ _)

theorem ne_nil_of_hop {piece : String} {base : Location} {target : List String}
    (h : fs.hop location piece = .jump base target) : target ≠ [] := by
  unfold hop at h
  split at h
  · split at h
    · cases h
    · split at h
      · cases h
      · split at h
        · cases h
        · split at h
          · cases h
          · split at h
            · cases h
            · cases h
              exact pieces_ne_nil _
          · cases h
  · cases h

/-! ### Where a path leads -/

/-- Goes along with links as far as so many are left. -/
theorem follow_eq (fs : FileSystem) (n : Nat) : ∃ jump, fs.follow n = fs.along jump := by
  cases n <;> exact ⟨_, rfl⟩

theorem exists_entryAt?_of_along {pieces : List String} {l : Location}
    (hjump : ∀ base target, target ≠ [] → jump base target = .ok l →
      ∃ e, fs.entryAt? l = some e)
    (hloc : pieces = [] → ∃ e, fs.entryAt? location = some e)
    (h : fs.along jump location pieces = .ok l) : ∃ e, fs.entryAt? l = some e := by
  induction pieces generalizing location with
  | nil =>
    cases h
    exact hloc rfl
  | cons piece rest ih =>
    rw [along_cons] at h
    cases hhop : fs.hop location piece with
    | refuse fault =>
      rw [hhop] at h
      cases h
    | go next =>
      rw [hhop] at h
      exact ih (fun _ => exists_entryAt?_of_hop hhop) h
    | jump base target =>
      rw [hhop] at h
      refine hjump base _ (fun hnil => ?_) h
      exact ne_nil_of_hop hhop (List.append_eq_nil_iff.mp hnil).1

theorem exists_entryAt?_of_follow {n : Nat} {pieces : List String} {l : Location}
    (hne : pieces ≠ []) (h : fs.follow n location pieces = .ok l) :
    ∃ e, fs.entryAt? l = some e := by
  induction n generalizing location pieces with
  | zero =>
    rw [follow] at h
    exact exists_entryAt?_of_along (fun _ _ _ hjump => by cases hjump)
      (fun hnil => absurd hnil hne) h
  | succ n ih =>
    exact exists_entryAt?_of_along (fun _ _ => ih) (fun hnil => absurd hnil hne) h

theorem resolve_eq_ok {p : Path} {l : Location} (h : fs.resolve p = .ok l) :
    '\x00' ∉ p.text.toList ∧ p.text ≠ "" ∧
      fs.follow linkLimit (startOf fs.here p.text) p.pieces = .ok l := by
  unfold resolve at h
  split at h
  · cases h
  next hnul =>
    split at h
    · cases h
    next hempty =>
      split at h
      · cases h
      · refine ⟨by simpa using hnul, ?_, h⟩
        simpa using hempty

theorem find_eq {p : Path} {l : Location} {e : Entry} (h : fs.resolve p = .ok l)
    (he : fs.entryAt? l = some e) : fs.find p = .ok e := by
  unfold find
  rw [h]
  simp only [bind, Except.bind, he]
  rfl

/-- A path that leads somewhere leads to something. -/
theorem exists_find_of_resolve {p : Path} {l : Location} (h : fs.resolve p = .ok l) :
    ∃ e, fs.find p = .ok e := by
  obtain ⟨e, he⟩ := exists_entryAt?_of_follow (pieces_ne_nil _) (resolve_eq_ok h).2.2
  exact ⟨e, find_eq h he⟩

/-! ### Going on -/

/-- What is said of a longer path by a shorter one with which it starts: it leads to `r` if the
shorter one leads to `l`, and is refused if that is refused. -/
def Continues (l : Location) (r x y : Except Fault Location) : Prop :=
  (x = .ok l → y = r) ∧ ∀ fault, x = .error fault → y = .error fault

theorem along_continues {l : Location} {r : Except Fault Location} {rest : List String}
    (hjump : ∀ base target, Continues l r (jump base target) (jump base (target ++ rest)))
    (hrest : fs.along jump l rest = r) (pieces : List String) (location : Location) :
    Continues l r (fs.along jump location pieces) (fs.along jump location (pieces ++ rest)) := by
  induction pieces generalizing location with
  | nil =>
    refine ⟨fun h => ?_, nofun⟩
    cases h
    exact hrest
  | cons piece more ih =>
    rw [List.cons_append, along_cons, along_cons]
    cases fs.hop location piece with
    | refuse fault => exact ⟨nofun, fun _ h => h⟩
    | go next => exact ih next
    | jump base target =>
      change Continues l r (jump base (target ++ more)) (jump base (target ++ (more ++ rest)))
      rw [← List.append_assoc]
      exact hjump base _

/-- A path goes on from where its first part leads, if the rest leads to the same place with however
many links are left. -/
theorem follow_continues {l : Location} {r : Except Fault Location} {rest : List String}
    (hrest : ∀ n, fs.follow n l rest = r) (n : Nat) (location : Location)
    (pieces : List String) :
    Continues l r (fs.follow n location pieces) (fs.follow n location (pieces ++ rest)) := by
  induction n generalizing location pieces with
  | zero =>
    have hzero := hrest 0
    rw [follow] at hzero ⊢
    refine along_continues (fun base target => ?_) hzero pieces location
    exact ⟨nofun, fun _ h => h⟩
  | succ n ih => exact along_continues ih (hrest (n + 1)) _ _

/-- An empty piece leads nowhere else, whichever path it ends. -/
theorem follow_of_snoc_empty {n : Nat} {pieces : List String} {l : Location}
    (h : fs.follow n location (pieces ++ [""]) = .ok l) : fs.follow n location pieces = .ok l := by
  have hlast (m : Nat) (k : Location) : fs.follow m k [""] =
      match fs.entryAt? k with
      | some (.directory _) => .ok k
      | _ => .error .notDirectory := by
    obtain ⟨jump, hjump⟩ := fs.follow_eq m
    rw [hjump, along_cons, hop]
    cases fs.entryAt? k with
    | none => rfl
    | some e => cases e <;> rfl
  cases hfront : fs.follow n location pieces with
  | error fault =>
    rw [(follow_continues (fun m => hlast m l) n location pieces).2 fault hfront] at h
    cases h
  | ok k =>
    rw [(follow_continues (fun m => hlast m k) n location pieces).1 hfront] at h
    split at h
    · exact h
    · cases h

/-! ### Below a directory -/

/-- The names fit the limit on names. -/
def NamesFit (names : Location) : Prop := ∀ name ∈ names, name.utf8ByteSize ≤ 255

instance (names : Location) : Decidable (NamesFit names) :=
  inferInstanceAs (Decidable (∀ name ∈ names, name.utf8ByteSize ≤ 255))

theorem hop_name {e c : Entry} (he : fs.entryAt? location = some e) {name : String}
    (hname : Path.IsName name) (hc : e.child? name = some c) (hlink : ∀ target, c ≠ .link target) :
    fs.hop location name =
      if 255 < name.utf8ByteSize then .refuse .nameTooLong else .go (location ++ [name]) := by
  obtain ⟨es, rfl, -⟩ := Entry.exists_mem_of_child? hc
  obtain ⟨hempty, hdot, hdots, -⟩ := hname
  have hnext : fs.entryAt? (location ++ [name]) = some c := (Entry.at?_snoc he name).trans hc
  simp only [hop, he, hempty, hdot, hdots, decide_false, Bool.or_self, Bool.false_eq_true,
    if_false, hnext]

/-- Names that lead to a file in a tree lead to it in the file system, if none is too long. -/
theorem along_names {e : Entry} (he : fs.entryAt? location = some e) {names : Location}
    (hnames : ∀ name ∈ names, Path.IsName name) (hfile : e.HasFile names) :
    fs.along jump location names =
      if NamesFit names then .ok (location ++ names) else .error .nameTooLong := by
  induction names generalizing location e with
  | nil => simp [along, NamesFit]
  | cons name names ih =>
    rw [List.forall_mem_cons] at hnames
    obtain ⟨c, hc, hfile⟩ := Entry.hasFile_cons.mp hfile
    have hlink (target : String) : c ≠ .link target := by
      rintro rfl
      exact Entry.not_hasFile_link target names hfile
    have hnext : fs.entryAt? (location ++ [name]) = some c := (Entry.at?_snoc he name).trans hc
    rw [along_cons, hop_name he hnames.1 hc hlink]
    by_cases hlong : 255 < name.utf8ByteSize
    · rw [if_pos hlong, if_neg]
      intro hfit
      exact absurd (hfit name List.mem_cons_self) (by omega)
    · rw [if_neg hlong]
      change fs.along jump (location ++ [name]) names = _
      rw [ih hnext hnames.2 hfile, List.append_assoc, List.singleton_append]
      have hiff : NamesFit (name :: names) ↔ NamesFit names := by
        simp only [NamesFit, List.forall_mem_cons, and_iff_right_iff_imp]
        omega
      simp only [hiff]

/-- The path is not longer than the system takes. -/
def Fits (p : Path) : Prop := p.text.utf8ByteSize ≤ pathLimit

instance (p : Path) : Decidable (Fits p) :=
  inferInstanceAs (Decidable (p.text.utf8ByteSize ≤ pathLimit))

/-- No directory of the tree has a path that is too long, if the tree itself has the path. -/
def DirectoriesFit (p : Path) (e : Entry) : Prop :=
  ∀ names es, e.at? names = some (.directory es) → Fits (p.below names)

theorem directoriesFit_of_locations {p : Path} {e : Entry}
    (h : ∀ names ∈ e.directoryLocations, Fits (p.below names)) : DirectoriesFit p e :=
  fun names _ hes => h names (Entry.mem_directoryLocations hes)

theorem DirectoriesFit.child {p : Path} {e c : Entry} (h : DirectoriesFit p e) {name : String}
    (hc : e.child? name = some c) : DirectoriesFit (p.join name) c := by
  intro names es hes
  rw [← Path.below_cons]
  refine h (name :: names) es ?_
  rw [Entry.at?_cons, hc]
  exact hes

/-- A path that names a file below a directory leads to it, whatever leads to the directory. It is
refused for what is wrong with the names, or for its length. -/
theorem resolve_below {p : Path} (hp : fs.resolve p = .ok location) {e : Entry}
    (he : fs.entryAt? location = some e) {names : Location}
    (hnames : ∀ name ∈ names, Path.IsName name) (hfile : e.HasFile names) :
    fs.resolve (p.below names) =
      if ∃ name ∈ names, '\x00' ∈ name.toList then .error .nulInName
      else if Fits (p.below names) ∧ NamesFit names then .ok (location ++ names)
      else .error .nameTooLong := by
  obtain ⟨hnul, hempty, hfollow⟩ := resolve_eq_ok hp
  obtain ⟨front, hpieces, hfront⟩ := Path.exists_pieces_below hempty hnames
  have hhead := Path.head?_below hempty names
  have hstart : startOf fs.here (p.below names).text = startOf fs.here p.text := by
    rw [startOf, startOf, hhead]
  -- the pieces before the names lead to the directory
  have hdir : fs.follow linkLimit (startOf fs.here p.text) front = .ok location := by
    rcases hfront with hfront | hfront
    · rw [← hfront]
      exact hfollow
    · rw [hfront] at hfollow
      exact follow_of_snoc_empty hfollow
  have hrest (n : Nat) : fs.follow n location names =
      if NamesFit names then .ok (location ++ names) else .error .nameTooLong := by
    obtain ⟨jump, hjump⟩ := fs.follow_eq n
    rw [hjump]
    exact along_names he hnames hfile
  have hwhole := (follow_continues hrest linkLimit (startOf fs.here p.text) front).1 hdir
  have hne : (p.below names).text ≠ "" := by
    intro h
    rw [h] at hhead
    exact hempty (String.toList_eq_nil_iff.mp (List.head?_eq_none_iff.mp hhead.symm))
  have hmem : '\x00' ∈ (p.below names).text.toList ↔ ∃ name ∈ names, '\x00' ∈ name.toList := by
    rw [Path.mem_toList_below (by decide), or_iff_right hnul]
  rw [resolve, hstart, hpieces, hwhole]
  simp only [List.contains_iff_mem, hmem, String.isEmpty_iff, hne, if_false]
  split
  · rfl
  · by_cases hlong : pathLimit < (p.below names).text.utf8ByteSize
    · rw [if_pos hlong, if_neg]
      rintro ⟨hfits, -⟩
      exact absurd hfits (Nat.not_le.mpr hlong)
    · have hfits : Fits (p.below names) := Nat.le_of_not_lt hlong
      simp only [if_neg hlong, hfits, true_and]

/-- What a file below a directory reads as does not depend on the path of the directory, unless one
path is too long and the other is not. -/
theorem readText_below_congr {gs : FileSystem} {p q : Path} {l m : Location}
    (hp : fs.resolve p = .ok l) (hq : gs.resolve q = .ok m) {e d : Entry}
    (he : fs.entryAt? l = some e) (hd : gs.entryAt? m = some d) {names : Location}
    (hnames : ∀ name ∈ names, Path.IsName name) {bytes : ByteArray}
    (hfe : e.at? names = some (.file bytes)) (hfd : d.at? names = some (.file bytes))
    (hfits : Fits (p.below names) ↔ Fits (q.below names)) :
    fs.readText (p.below names) = gs.readText (q.below names) := by
  have hre := resolve_below hp he hnames ⟨bytes, hfe⟩
  have hrd := resolve_below hq hd hnames ⟨bytes, hfd⟩
  have hle : fs.entryAt? (l ++ names) = some (.file bytes) := by
    change fs.top.at? (l ++ names) = _
    rw [Entry.at?_append]
    exact (congrArg (Option.bind · _) he).trans hfe
  have hld : gs.entryAt? (m ++ names) = some (.file bytes) := by
    change gs.top.at? (m ++ names) = _
    rw [Entry.at?_append]
    exact (congrArg (Option.bind · _) hd).trans hfd
  simp only [hfits] at hre
  simp only [readText, find]
  rw [hre, hrd]
  split
  · rfl
  · split
    · simp only [bind, Except.bind, hle, hld]
    · rfl

end Outline.FileSystem
