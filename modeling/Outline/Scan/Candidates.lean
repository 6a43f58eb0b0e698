import Outline.Scan.Event

/-! The files that a scan visits: a file stands for itself, and a directory for the files below it
that have one of the extensions and are not excluded, in the order of their names. -/
namespace Outline

/-- Settings whose pattern has been compiled. -/
structure Scanner where
  settings : Settings
  exclude : Option Regex

namespace Scanner

def new (s : Settings) : Except ScanError Scanner :=
  match s.validate with
  | .error invalid => .error (.settings invalid)
  | .ok () =>
    match s.excludeRegex with
    | .error refusal => .error (.exclude refusal)
    | .ok exclude => .ok ⟨s, exclude⟩

/-! ### Walking directories -/

/-- A directory that is being walked: the path that led there, and where it is. -/
structure Visited where
  path : Path
  location : Location
deriving Repr, DecidableEq

/-- What becomes of an entry of a directory that is being walked. -/
inductive Step where
  | pass
  | tell (found : Except Obstacle Path)
  | enter (dir : Visited)

/-- What becomes of the entry of a directory under a name. A directory whose path is too long cannot
be looked into. A link is followed only if `followLinks` says so, and never back to a directory that
is being walked. -/
def step (fs : FileSystem) (followLinks : Bool) (dir : Visited) (above : List Visited)
    (name : String) : Step :=
  let path := dir.path.join name
  let location := dir.location ++ [name]
  match fs.entryAt? location with
  | none => .pass
  | some (.file _) => .tell (.ok path)
  | some (.directory _) =>
    if FileSystem.pathLimit < path.text.utf8ByteSize then .tell (.error (.fault path .nameTooLong))
    else .enter ⟨path, location⟩
  | some (.link _) =>
    if followLinks then
      match fs.resolve path with
      | .error fault => .tell (.error (.fault path fault))
      | .ok target =>
        match fs.entryAt? target with
        | some (.file _) => .tell (.ok path)
        | some (.directory _) =>
          match (dir :: above).find? (·.location = target) with
          | some ancestor => .tell (.error (.loop path ancestor.path))
          | none => .enter ⟨path, target⟩
        | _ => .pass
    else .pass

/-- What is found at an entry, if `inside` tells what is found in a directory. -/
def Step.found (inside : Visited → List (Except Obstacle Path)) : Step → List (Except Obstacle Path)
  | pass => []
  | tell found => [found]
  | enter dir => inside dir

/-- The files below the first of the directories, which is inside the second, and so on. -/
def walk (fs : FileSystem) (followLinks : Bool) : Nat → List Visited → List (Except Obstacle Path)
  | 0, _ => []
  | _, [] => []
  | fuel + 1, dir :: above =>
    match fs.entryAt? dir.location with
    | none => []
    | some e => e.names.flatMap fun name =>
      (step fs followLinks dir above name).found fun next =>
        walk fs followLinks fuel (next :: dir :: above)

/-- No walk goes deeper: between two links that are followed the way leads down, and no two of them
lead to the same directory. -/
def walkLimit (fs : FileSystem) : Nat := fs.top.directories * (fs.top.directories + 1)

/-! ### Choosing files -/

/-- What the pattern is matched against: the names from the scanned directory down to the file. -/
def relativeName (root candidate : Path) : String :=
  "/".intercalate (((root.stripBase candidate).getD candidate.components).map (·.text))

def isExcluded (s : Scanner) (root candidate : Path) : Bool :=
  s.exclude.any (·.isMatch (relativeName root candidate))

def hasExtension (s : Scanner) (p : Path) : Bool := p.extension.any s.settings.matchesExtension

/-- Whether an entry is a candidate, and what is told about it. -/
def choose (s : Scanner) (root : Path) : Except Obstacle Path → Option Path × List Event
  | .error obstacle => (none, [.passedOver root obstacle])
  | .ok p =>
    if !s.hasExtension p then (none, [])
    else if s.isExcluded root p then (none, [.excluded p])
    else (some p, [])

/-- The files of a scan, and what is told while they are found. -/
def enumerate (s : Scanner) (fs : FileSystem) (path : Path) :
    Except ScanError (List Path × List Event) :=
  match fs.resolve path with
  | .error fault => .error (.path path fault)
  | .ok location =>
    match fs.entryAt? location with
    | some (.directory _) =>
      let found := walk fs s.settings.followLinks (walkLimit fs) [⟨path, location⟩]
      let chosen := found.map (s.choose path)
      .ok (chosen.filterMap (·.1), chosen.flatMap (·.2))
    | _ => .ok ([path], [])

def candidates (s : Scanner) (fs : FileSystem) (path : Path) : Except ScanError (List Path) :=
  (s.enumerate fs path).map (·.1)

end Scanner

end Outline
