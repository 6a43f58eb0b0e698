import Outline.Proofs.FileSystem.Contents
import Outline.Proofs.Scan.Provenance

/-! Scans of directories with the same contents. Below a directory without links a walk lists the
files of the tree, each with the path of the directory in front, and the choice among them looks only
at the names below the directory. Everything after that uses paths as labels, so two scans agree in
all but the paths, wherever the directories are and however their paths are written. The one thing
that can come between them is the limit on the length of a path: under one spelling only it may be
too long for a directory, which is then looked into in one scan and passed over in the other, or for
a file, which is then read in one and skipped in the other. -/
namespace Outline

attribute [local irreducible] SyntaxTree.ofText

/-! ### Other labels

A survey with its paths changed, and nothing else. -/

def SourceFile.relabel (r : Path → Path) (f : SourceFile) : SourceFile := { f with path := r f.path }

def Extent.relabel (r : Path → Path) (e : Extent) : Extent := { e with file := e.file.relabel r }

def Origin.relabel (r : Path → Path) : Origin → Origin
  | .scanned p => .scanned (r p)
  | .declared e => .declared (e.relabel r)

def Node.relabel (r : Path → Path) : Node → Node
  | mk k n o cs => mk k n (o.relabel r) (relabelAll cs)
where
  relabelAll : List Node → List Node
  | [] => []
  | c :: cs => c.relabel r :: relabelAll cs

def FileError.relabel (r : Path → Path) : FileError → FileError
  | unreadable p fault => unreadable (r p) fault
  | faulty fault => faulty fault

def Failure.relabel (r : Path → Path) (f : Failure) : Failure := ⟨r f.path, f.error.relabel r⟩

def Survey.relabel (r : Path → Path) (v : Survey) : Survey where
  root := v.root.relabel r
  sources := ⟨v.sources.files.map (·.relabel r)⟩
  failures := v.failures.map (·.relabel r)

theorem Node.relabelAll_eq_map (r : Path → Path) (cs : List Node) :
    relabel.relabelAll r cs = cs.map (·.relabel r) := by
  induction cs with
  | nil => rfl
  | cons c cs ih => rw [relabel.relabelAll, ih, List.map_cons]

theorem Node.relabel_attach (r : Path → Path) (n : Node) (cs : List Node) :
    (n.attach cs).relabel r = (n.relabel r).attach (cs.map (·.relabel r)) := by
  obtain ⟨k, name, o, ds⟩ := n
  simp [attach, relabel, relabelAll_eq_map]

namespace SyntaxTree

variable {file : SourceFile} (r : Path → Path)

theorem map_relabel_inChildren {cs : List SyntaxTree}
    (ih : ∀ c ∈ cs, (c.declarations file).map (·.relabel r) = c.declarations (file.relabel r)) :
    (declarations.inChildren file cs).map (·.relabel r) =
      declarations.inChildren (file.relabel r) cs := by
  induction cs with
  | nil => rfl
  | cons c cs ihcs =>
    rw [List.forall_mem_cons] at ih
    rw [declarations.inChildren, declarations.inChildren, List.map_append, ihcs ih.2]
    split
    · rw [ih.1]
    · rfl

/-- The declarations of a file under another path are its declarations with the other path. -/
theorem map_relabel_declarations (t : SyntaxTree) :
    (t.declarations file).map (·.relabel r) = t.declarations (file.relabel r) := by
  induction t using ind with
  | h i cs ih =>
    have hin := map_relabel_inChildren r ih
    -- what a node declares depends on the text alone, which is the same under both paths
    cases hd : (node i cs).declares file.text with
    | none =>
      have hd' : (node i cs).declares (file.relabel r).text = none := hd
      rw [declarations_of_none hd, declarations_of_none hd', hin]
    | some d =>
      have hd' : (node i cs).declares (file.relabel r).text = some d := hd
      rw [declarations_of_some hd, declarations_of_some hd', ← hin, List.map_singleton,
        Node.declaration, Node.relabel, Node.relabelAll_eq_map]
      split <;> rfl

end SyntaxTree

/-! ### Two scans in step -/

namespace Progress

variable {σ τ : Type} {fs gs : FileSystem} {r q : Path → Path}

/-- Two scans under way agree in all but the paths. -/
structure Agree (r q : Path → Path) (a : Progress σ) (b : Progress τ) : Prop where
  survey_eq : a.survey.relabel r = b.survey.relabel q
  taken_eq : a.taken = b.taken

theorem step_of_outlines {c : Path} {text : String} (h : fs.Outlines c text) (w : Writer σ)
    (p : Progress σ) : p.step fs w c = p.record ⟨p.taken, c, text⟩ (.ofText text) := by
  obtain ⟨text', h', hp⟩ | ⟨e, hs, -⟩ := step_cases fs w p c
  · rw [hp, Except.ok.inj (h'.1.symm.trans h.1)]
  · cases hs with
    | unreadable hr => cases h.1.symm.trans hr
    | faulty hr hf =>
      rw [← Except.ok.inj (h.1.symm.trans hr), h.2] at hf
      cases hf

theorem step_of_skips {c : Path} {e : FileError} (h : fs.Skips c e) (w : Writer σ)
    (p : Progress σ) : p.step fs w c = p.skip w ⟨c, e⟩ := by
  obtain ⟨text, h', -⟩ | ⟨e', hs, hp⟩ := step_cases fs w p c
  · cases h with
    | unreadable hr => cases h'.1.symm.trans hr
    | faulty hr hf =>
      rw [← Except.ok.inj (h'.1.symm.trans hr), h'.2] at hf
      cases hf
  · rw [hp]
    cases h with
    | unreadable hr =>
      cases hs with
      | unreadable hr' => rw [Except.error.inj (hr.symm.trans hr')]
      | faulty hr' _ => cases hr.symm.trans hr'
    | faulty hr hf =>
      cases hs with
      | unreadable hr' => cases hr.symm.trans hr'
      | faulty hr' hf' =>
        rw [Except.ok.inj (hr.symm.trans hr'), hf'] at hf
        rw [Except.error.inj hf]

theorem Agree.skip {a : Progress σ} {b : Progress τ} (h : Agree r q a b) (w : Writer σ)
    (x : Writer τ) {f g : Failure} (hfg : f.relabel r = g.relabel q) :
    Agree r q (a.skip w f) (b.skip x g) := by
  obtain ⟨hroot, hsources, hfailures⟩ := Survey.mk.inj h.survey_eq
  refine ⟨?_, congrArg (· + 1) h.taken_eq⟩
  simp only [Progress.skip, Survey.relabel, List.map_append, List.map_singleton, hroot, hsources,
    hfailures, hfg]

theorem Agree.record {a : Progress σ} {b : Progress τ} (h : Agree r q a b) {f g : SourceFile}
    (hfg : f.relabel r = g.relabel q) (t : SyntaxTree) :
    Agree r q (a.record f t) (b.record g t) := by
  obtain ⟨hroot, hsources, hfailures⟩ := Survey.mk.inj h.survey_eq
  refine ⟨?_, congrArg (· + 1) h.taken_eq⟩
  simp only [Progress.record, Survey.relabel, Node.visit, Node.relabel_attach,
    SyntaxTree.map_relabel_declarations, SourceMap.insert, List.map_append, List.map_singleton,
    hroot, SourceMap.mk.inj hsources, hfailures, hfg]

/-- Two candidates that have the same label and read as the same text take two scans one step on
together. -/
theorem Agree.step {a : Progress σ} {b : Progress τ} (h : Agree r q a b) (w : Writer σ)
    (x : Writer τ) {c d : Path} (hlabel : r c = q d) (hread : fs.readText c = gs.readText d) :
    Agree r q (a.step fs w c) (b.step gs x d) := by
  obtain ⟨text, ho, ha⟩ | ⟨e, hs, ha⟩ := step_cases fs w a c
  · have hd : gs.Outlines d text := ⟨hread.symm.trans ho.1, ho.2⟩
    rw [ha, step_of_outlines hd]
    refine h.record ?_ _
    simp [SourceFile.relabel, hlabel, h.taken_eq]
  · rw [ha]
    cases hs with
    | unreadable hr =>
      rw [step_of_skips (.unreadable (hread.symm.trans hr))]
      refine h.skip w x ?_
      simp [Failure.relabel, FileError.relabel, hlabel]
    | faulty hr hf =>
      rw [step_of_skips (.faulty (hread.symm.trans hr) hf)]
      refine h.skip w x ?_
      simp [Failure.relabel, FileError.relabel, hlabel]

theorem Agree.run {a : Progress σ} {b : Progress τ} (h : Agree r q a b) (w : Writer σ)
    (x : Writer τ) {cs ds : List Path}
    (hcs : List.Forall₂ (fun c d => r c = q d ∧ fs.readText c = gs.readText d) cs ds) :
    Agree r q (cs.foldl (·.step fs w ·) a) (ds.foldl (·.step gs x ·) b) := by
  induction hcs generalizing a b with
  | nil => exact h
  | cons hcd _ ih => exact ih (h.step w x hcd.1 hcd.2)

end Progress

namespace Scanner

variable {s : Scanner} {fs gs : FileSystem} {p q : Path}

/-! ### The candidates below a directory without links -/

/-- Whether the directory that names lead to below a path can be looked into. -/
def canEnter (path : Path) (names : Location) : Bool := FileSystem.Fits (path.below names)

/-- What is taken of the files that a walk finds, nothing being taken of obstacles: the files are
those of the tree, as far as its directories can be looked into. -/
theorem filterMap_walk {α : Type} {take : Except Obstacle Path → Option α}
    (htake : ∀ obstacle, take (.error obstacle) = none) {followLinks : Bool} {dir : Visited}
    {above : List Visited} {e : Entry} (he : fs.entryAt? dir.location = some e)
    (hlinks : e.LinkFree) (n : Nat) :
    (walk fs followLinks n (dir :: above)).filterMap take =
      (e.filesBelow (canEnter dir.path) n).filterMap fun names =>
        take (.ok (dir.path.below names)) := by
  induction n generalizing dir above e with
  | zero => rfl
  | succ n ih =>
    rw [walk_succ he, Entry.filesBelow, List.filterMap_flatMap, List.filterMap_flatMap]
    refine List.flatMap_congr fun name hname => ?_
    obtain ⟨c, hc⟩ := Option.isSome_iff_exists.mp (Entry.mem_names.mp hname)
    have hentry : fs.entryAt? (dir.location ++ [name]) = some c := (child?_eq he name).trans hc
    simp only [step, hentry, hc]
    cases c with
    | file bytes => rfl
    | link target => exact absurd ((Entry.at?_singleton e name).trans hc) (hlinks [name] target)
    | directory ds =>
      by_cases hfits : FileSystem.Fits (dir.path.join name)
      · have hopen : canEnter dir.path [name] = true := decide_eq_true hfits
        dsimp only
        rw [if_neg (Nat.not_lt.mpr hfits), if_pos hopen, List.filterMap_map]
        exact ih hentry (hlinks.child? hc)
      · have hshut : ¬canEnter dir.path [name] = true := fun h => hfits (of_decide_eq_true h)
        dsimp only
        rw [if_pos (Nat.not_le.mp hfits), if_neg hshut]
        simp [Step.found, htake]

/-- Whether a file is chosen, by the names that lead to it from the scanned directory. -/
def chooses (s : Scanner) (names : Location) : Bool :=
  (names.getLast?.bind Path.extensionOf).any s.settings.matchesExtension &&
    !s.exclude.any (·.isMatch ("/".intercalate names))

theorem choose_below (path : Path) {names : Location}
    (hnames : ∀ name ∈ names, Path.IsName name) (hne : names ≠ []) :
    (s.choose path (.ok (path.below names))).1 =
      if s.chooses names then some (path.below names) else none := by
  have hlast := List.getLast?_eq_some_getLast hne
  have hext : s.hasExtension (path.below names) =
      (names.getLast?.bind Path.extensionOf).any s.settings.matchesExtension := by
    rw [hasExtension, Path.extension, Path.fileName_below path hnames hlast, hlast]
  rw [choose, chooses, ← hext, ← isExcluded_below hnames]
  cases s.hasExtension (path.below names) <;> cases s.isExcluded path (path.below names) <;> rfl

theorem isName_of_mem_filesBelow {isOpen : Location → Bool} {n : Nat} {e : Entry}
    (hwell : e.WellNamed) {names : Location} (h : names ∈ e.filesBelow isOpen n) :
    ∀ name ∈ names, Path.IsName name := by
  obtain ⟨bytes, hfile⟩ := Entry.hasFile_of_mem_filesBelow h
  exact (hwell.of_at? hfile).1

/-- Below a directory without links the candidates are the files of the tree that are chosen by
their names, as far as its directories can be looked into. -/
theorem candidates_of_linkFree {location : Location} {es : List (String × Entry)}
    (hresolve : fs.resolve p = .ok location)
    (hentry : fs.entryAt? location = some (.directory es))
    (hlinks : (Entry.directory es).LinkFree) {n : Nat}
    (hn : (Entry.directory es).directories ≤ n)
    (hnames : ∀ names ∈ (Entry.directory es).filesBelow (canEnter p) n,
      ∀ name ∈ names, Path.IsName name) :
    s.candidates fs p =
      .ok ((((Entry.directory es).filesBelow (canEnter p) n).filter s.chooses).map p.below) := by
  have hlimit : (Entry.directory es).directories ≤ walkLimit fs :=
    (Entry.directories_le_of_at? hentry).trans (Nat.le_mul_of_pos_right _ (Nat.succ_pos _))
  have hdir : fs.entryAt? (Visited.mk p location).location = some (.directory es) := hentry
  rw [candidates_of_directory hresolve hentry, filterMap_walk (fun _ => rfl) hdir hlinks,
    Entry.filesBelow_congr hlimit hn, ← List.filterMap_eq_map, ← List.filterMap_eq_filter,
    List.filterMap_filterMap]
  congr 1
  refine List.filterMap_congr fun names hin => ?_
  have hne : names ≠ [] := by
    rintro rfl
    exact Entry.not_hasFile_nil es (Entry.hasFile_of_mem_filesBelow hin)
  rw [choose_below p (hnames names hin) hne]
  cases hchosen : s.chooses names <;> simp [Option.guard, hchosen]

/-! ### Relocation -/

/-- A path as the names from a scanned directory down to it. -/
def relative (base p : Path) : Path := ⟨relativeName base p⟩

/-- The scans of two directories agree in all but the paths if their candidates do, and these read
as the same texts. -/
theorem scan_agree {σ τ : Type} {ns : List Location} (hp : s.candidates fs p = .ok (ns.map p.below))
    (hq : s.candidates gs q = .ok (ns.map q.below))
    (hnames : ∀ names ∈ ns, ∀ name ∈ names, Path.IsName name)
    (hread : ∀ names ∈ ns, fs.readText (p.below names) = gs.readText (q.below names))
    (w : Writer σ) (x : Writer τ) (o : σ) (u : τ) :
    ∃ a b, s.scan fs p w o = .ok a ∧ s.scan gs q x u = .ok b ∧
      a.survey.relabel (relative p) = b.survey.relabel (relative q) := by
  have hroot (base : Path) : relative base base = ⟨""⟩ := by
    have hnil : relativeName base (base.below []) = "/".intercalate [] :=
      relativeName_below base (by simp)
    rw [Path.below_nil] at hnil
    rw [relative, hnil]
    rfl
  obtain ⟨a, events, ha, ha0, -, hscan⟩ := scan_eq_ok hp w o
  obtain ⟨b, events', hb, hb0, -, hscan'⟩ := scan_eq_ok hq x u
  have hstart : a.Agree (relative p) (relative q) b := by
    refine ⟨?_, ha0.trans hb0.symm⟩
    rw [ha, hb]
    simp [Survey.relabel, Node.root, Node.relabel, Node.relabel.relabelAll, Origin.relabel, hroot]
  have hsteps : List.Forall₂ (fun c d => relative p c = relative q d ∧
      fs.readText c = gs.readText d) (ns.map p.below) (ns.map q.below) := by
    rw [List.forall₂_map_left_iff, List.forall₂_map_right_iff, List.forall₂_same]
    intro names hin
    refine ⟨?_, hread names hin⟩
    rw [relative, relative, relativeName_below p (hnames names hin),
      relativeName_below q (hnames names hin)]
  exact ⟨_, _, hscan, hscan', (hstart.run w x hsteps).survey_eq⟩

/-- Two directories with the same contents and no links have the same candidates below them, if each
directory below them is within the limit on paths in both or in none, and only names below them count
for the choice. The scans agree in all but the paths, if that is so for each candidate too. -/
theorem scan_relocated (s : Scanner) {es ds : List (String × Entry)}
    (hp : fs.find p = .ok (.directory es)) (hq : gs.find q = .ok (.directory ds))
    (hwell : (Entry.directory es).WellNamed) (hlinks : (Entry.directory es).LinkFree)
    (halike : (Entry.directory es).Alike (.directory ds))
    (henter : ∀ names bs, (Entry.directory es).at? names = some (.directory bs) →
      (FileSystem.Fits (p.below names) ↔ FileSystem.Fits (q.below names))) :
    ∃ (cs ds : List Path) (ways : List (List Path.Component)),
      s.candidates fs p = .ok cs ∧ s.candidates gs q = .ok ds ∧
      cs.map p.stripBase = ways.map some ∧ ds.map q.stripBase = ways.map some ∧
      (∀ names, (Entry.directory es).HasFile names →
        s.isExcluded p (p.below names) = s.exclude.any (·.isMatch ("/".intercalate names)) ∧
        s.isExcluded q (q.below names) = s.exclude.any (·.isMatch ("/".intercalate names))) ∧
      (List.Forall₂ (fun c d => FileSystem.Fits c ↔ FileSystem.Fits d) cs ds →
        ∀ (σ τ : Type) (w : Writer σ) (x : Writer τ) (o : σ) (u : τ),
          ∃ a b, s.scan fs p w o = .ok a ∧ s.scan gs q x u = .ok b ∧
            a.survey.relabel (relative p) = b.survey.relabel (relative q)) := by
  obtain ⟨l, hl, he⟩ := FileSystem.find_eq_ok hp
  obtain ⟨m, hm, hd⟩ := FileSystem.find_eq_ok hq
  -- a depth that is enough for both trees
  let n := max (Entry.directory es).directories (Entry.directory ds).directories
  have hnames : ∀ names ∈ (Entry.directory es).filesBelow (canEnter p) n,
      ∀ name ∈ names, Path.IsName name :=
    fun names hin => isName_of_mem_filesBelow hwell hin
  have hfiles : (Entry.directory es).filesBelow (canEnter p) n =
      (Entry.directory ds).filesBelow (canEnter q) n :=
    halike.filesBelow_eq (fun names bs hat => decide_eq_decide.mpr (henter names bs hat)) n
  let ns := ((Entry.directory es).filesBelow (canEnter p) n).filter s.chooses
  have hns : ∀ names ∈ ns, ∀ name ∈ names, Path.IsName name :=
    fun names hin => hnames names (List.mem_filter.mp hin).1
  have hcs : s.candidates fs p = .ok (ns.map p.below) :=
    candidates_of_linkFree hl he hlinks (Nat.le_max_left _ _) hnames
  have hds : s.candidates gs q = .ok (ns.map q.below) := by
    rw [hfiles] at hnames
    have := candidates_of_linkFree (s := s) hm hd (halike.linkFree hlinks)
      (Nat.le_max_right _ _) hnames
    rw [this, ← hfiles]
  have hstrip (base : Path) : (ns.map base.below).map base.stripBase =
      (ns.map (List.map Path.Component.name)).map some := by
    rw [List.map_map, List.map_map]
    exact List.map_congr_left fun names hin => base.stripBase_below (hns names hin)
  refine ⟨_, _, _, hcs, hds, hstrip p, hstrip q, fun names hfile => ?_,
    fun hfits σ τ w x o u => scan_agree hcs hds hns (fun names hin => ?_) w x o u⟩
  · obtain ⟨bytes, hfile⟩ := hfile
    have hname := (hwell.of_at? hfile).1
    exact ⟨isExcluded_below hname, isExcluded_below hname⟩
  · obtain ⟨bytes, hfile⟩ := Entry.hasFile_of_mem_filesBelow (List.mem_filter.mp hin).1
    rw [List.forall₂_map_left_iff, List.forall₂_map_right_iff, List.forall₂_same] at hfits
    exact FileSystem.readText_below_congr hl hm he hd (hns names hin) hfile
      (halike.at?_file hfile) (hfits names hin)

/-- A directory with an empty file in it. -/
def lone : FileSystem := { root := [("d", .directory [("a.rb", .file .empty)])] }

theorem linkFree_lone : (Entry.directory [("a.rb", .file .empty)]).LinkFree := by
  intro names target h
  cases names with
  | nil => cases h
  | cons name names =>
    rw [Entry.at?_cons, Option.bind_eq_some_iff] at h
    obtain ⟨c, hc, h⟩ := h
    obtain ⟨es, hes, hmem⟩ := Entry.exists_mem_of_child? hc
    cases hes
    obtain ⟨-, rfl⟩ := Prod.mk.inj (List.mem_singleton.mp hmem)
    cases names with
    | nil => cases h
    | cons _ _ => cases h

theorem candidates_lone {p : Path} (h : lone.resolve p = .ok ["d"]) :
    candidates ⟨{ exclude := "" }, none⟩ lone p = .ok [p.below ["a.rb"]] := by
  have hfiles : (Entry.directory [("a.rb", .file .empty)]).filesBelow (canEnter p) 1 =
      [["a.rb"]] := by
    simp [Entry.filesBelow, Entry.names, Entry.child?, List.lookup_cons, List.eraseDups_cons]
  have hchosen : chooses ⟨{ exclude := "" }, none⟩ ["a.rb"] = true := by decide +kernel
  rw [candidates_of_linkFree h rfl linkFree_lone (n := 1) (Nat.le_refl 1), hfiles,
    List.filter_singleton, hchosen]
  · rfl
  · rw [hfiles]
    decide

/-- The directory scanned as `d` and as `./d//`. -/
theorem scan_relocated_lone :
    let s : Scanner := ⟨{ exclude := "" }, none⟩
    s.candidates lone ⟨"d"⟩ = .ok [⟨"d/a.rb"⟩] ∧ s.candidates lone ⟨"./d//"⟩ = .ok [⟨"./d//a.rb"⟩] ∧
      ∃ a b, s.scan lone ⟨"d"⟩ Writer.collect "" = .ok a ∧
        s.scan lone ⟨"./d//"⟩ Writer.collect "" = .ok b ∧
        a.survey.relabel (relative ⟨"d"⟩) = b.survey.relabel (relative ⟨"./d//"⟩) := by
  have hp := candidates_lone (p := ⟨"d"⟩) rfl
  have hq := candidates_lone (p := ⟨"./d//"⟩) rfl
  have hd : lone.find ⟨"d"⟩ = .ok (.directory [("a.rb", .file .empty)]) := rfl
  have hd' : lone.find ⟨"./d//"⟩ = .ok (.directory [("a.rb", .file .empty)]) := rfl
  have hfit (p : Path) (hp : FileSystem.Fits p) :
      FileSystem.DirectoriesFit p (.directory [("a.rb", .file .empty)]) :=
    FileSystem.directoriesFit_of_locations (List.forall_mem_singleton.mpr hp)
  obtain ⟨cs, ds, ways, hcs, hds, -, -, -, hscan⟩ :=
    scan_relocated ⟨{ exclude := "" }, none⟩ hd hd' (by decide) linkFree_lone (fun _ => rfl)
      fun names bs hat =>
        iff_of_true (hfit _ (by decide) names bs hat) (hfit _ (by decide) names bs hat)
  rw [hp] at hcs
  rw [hq] at hds
  cases hcs
  cases hds
  exact ⟨hp, hq, hscan (.cons (by decide) .nil) _ _ _ _ _ _⟩

/-- The path of the directory with slashes after it. -/
def slashed (n : Nat) : Path := ⟨String.ofList ('d' :: List.replicate n '/')⟩

theorem utf8ByteSize_slashed (n : Nat) : (slashed n).text.utf8ByteSize = n + 1 := by
  have hslashes : (String.ofList (List.replicate n '/')).utf8ByteSize = n := by
    induction n with
    | zero => rfl
    | succ n ih =>
      rw [List.replicate_succ, String.ofList_cons, String.utf8ByteSize_append, ih,
        String.utf8ByteSize_singleton, Nat.add_comm]
      rfl
  rw [slashed, String.ofList_cons, String.utf8ByteSize_append, hslashes,
    String.utf8ByteSize_singleton, Nat.add_comm]
  rfl

theorem pieces_slashed (n : Nat) : (slashed n).pieces = "d" :: List.replicate n "" := by
  have hslashes : Text.cut '/' (List.replicate n '/') = [] :: List.replicate n [] := by
    induction n with
    | zero => rfl
    | succ n ih => rw [List.replicate_succ, Text.cut, if_pos rfl, ih, List.replicate_succ]
  rw [Path.pieces, Text.pieces, slashed, String.toList_ofList, Text.cut, hslashes]
  simp

/-- Slashes at the end of a path lead nowhere else. -/
theorem resolve_slashed {n : Nat} (hn : n < FileSystem.pathLimit) :
    lone.resolve (slashed n) = .ok ["d"] := by
  have hrest (k : Nat) : lone.follow k ["d"] (List.replicate n "") = .ok ["d"] := by
    obtain ⟨jump, hjump⟩ := lone.follow_eq k
    rw [hjump]
    induction n with
    | zero => rfl
    | succ n ih =>
      rw [List.replicate_succ, FileSystem.along_cons]
      exact ih (by omega)
  have hfollow := (FileSystem.follow_continues hrest FileSystem.linkLimit [] ["d"]).1 rfl
  have hnul : '\x00' ∉ (slashed n).text.toList := by
    simp [slashed, String.toList_ofList, List.mem_replicate]
  have hstart : FileSystem.startOf lone.here (slashed n).text = [] := by
    simp [FileSystem.startOf, lone]
  have hempty : (slashed n).text.isEmpty = false := by
    simp [slashed]
  rw [FileSystem.resolve, if_neg (by simpa using hnul), hempty, if_neg (by simp),
    if_neg (by rw [utf8ByteSize_slashed]; omega), hstart, pieces_slashed]
  exact hfollow

theorem not_fits_slashed {n : Nat} (hn : FileSystem.pathLimit < n + 5) :
    ¬FileSystem.Fits ((slashed n).below ["a.rb"]) := by
  have hjoin : (slashed n).text.utf8ByteSize + 4 ≤ ((slashed n).below ["a.rb"]).text.utf8ByteSize :=
    (slashed n).le_utf8ByteSize_join "a.rb"
  rw [utf8ByteSize_slashed] at hjoin
  exact Nat.not_le.mpr (hn.trans_le hjoin)

/-- A scan that reads its one candidate and a scan that cannot do not agree. -/
theorem scan_differs_of_unreadable {s : Scanner} {c d : Path} {text : String}
    {fault : FileSystem.Fault} (hc : s.candidates fs p = .ok [c])
    (hd : s.candidates gs q = .ok [d]) (hread : fs.readText c = .ok text)
    (hfault : gs.readText d = .error fault) (r t : Path → Path) :
    ∃ a b, s.scan fs p Writer.collect "" = .ok a ∧ s.scan gs q Writer.collect "" = .ok b ∧
      a.survey.relabel r ≠ b.survey.relabel t := by
  obtain ⟨a, _, ha, -, -, hscan⟩ := scan_eq_ok hc Writer.collect ""
  obtain ⟨b, _, hb, -, -, hscan'⟩ := scan_eq_ok hd Writer.collect ""
  refine ⟨_, _, hscan, hscan', fun h => ?_⟩
  have hfailures : (a.step fs Writer.collect c).survey.failures.map (·.relabel r) =
    (b.step gs Writer.collect d).survey.failures.map (·.relabel t) := congrArg Survey.failures h
  rw [Progress.step_of_skips (.unreadable hfault)] at hfailures
  change _ = (b.survey.failures ++ [_]).map _ at hfailures
  rw [hb] at hfailures
  -- if the candidate that was read is a failure too, it is for its text
  obtain ⟨_, -, hstep⟩ | ⟨e, hskips, hstep⟩ := Progress.step_cases fs Writer.collect a c
  · rw [hstep] at hfailures
    change a.survey.failures.map _ = _ at hfailures
    rw [ha] at hfailures
    cases hfailures
  · rw [hstep] at hfailures
    change (a.survey.failures ++ [_]).map _ = _ at hfailures
    rw [ha] at hfailures
    cases hskips with
    | unreadable hr => cases hread.symm.trans hr
    | faulty hr hf => cases (Failure.mk.inj (List.cons.inj hfailures).1).2

theorem readText_lone_of_long {q : Path} (hq : lone.resolve q = .ok ["d"])
    (hlong : ¬FileSystem.Fits (q.below ["a.rb"])) :
    lone.readText (q.below ["a.rb"]) = .error .nameTooLong := by
  have hentry : lone.entryAt? ["d"] = some (.directory [("a.rb", .file .empty)]) := rfl
  have hname : ∀ name ∈ ["a.rb"], Path.IsName name := by decide
  have hresolve := FileSystem.resolve_below hq hentry hname ⟨.empty, rfl⟩
  rw [if_neg (by decide), if_neg (by simp [hlong])] at hresolve
  rw [FileSystem.readText, FileSystem.find, hresolve]
  rfl

/-- With so many slashes that the directory is found and the path of the file is too long, the file
is skipped as unreadable, while a scan by the short path reads it: the scans do not agree. -/
theorem scan_slashed_differs :
    let s : Scanner := ⟨{ exclude := "" }, none⟩
    let directory : Entry := .directory [("a.rb", .file .empty)]
    lone.find ⟨"d"⟩ = .ok directory ∧ lone.find (slashed 4094) = .ok directory ∧
      directory.WellNamed ∧ directory.LinkFree ∧
      ∃ a b, s.scan lone ⟨"d"⟩ Writer.collect "" = .ok a ∧
        s.scan lone (slashed 4094) Writer.collect "" = .ok b ∧
        a.survey.relabel (relative ⟨"d"⟩) ≠ b.survey.relabel (relative (slashed 4094)) := by
  have hlong : lone.resolve (slashed 4094) = .ok ["d"] := resolve_slashed (by decide)
  have hfault := readText_lone_of_long hlong (not_fits_slashed (by decide))
  exact ⟨rfl, FileSystem.find_eq hlong rfl, by decide, linkFree_lone,
    scan_differs_of_unreadable (candidates_lone rfl) (candidates_lone hlong) rfl hfault _ _⟩

end Scanner

end Outline
