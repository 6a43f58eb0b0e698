import Outline.CommandLine.Run

/-! The program: takes a picture of the files that a request is about, answers the request from it,
and prints the answer. -/
namespace Outline.Program

/-- What has been read from disk. -/
structure Picture where
  files : FileSystem
  /-- The directories that have been read with all below them. -/
  complete : List Location := []

def namesOf (text : String) : Location := (text.splitOn "/").filter (· ≠ "")

/-- The place of a location on disk. -/
def place (loc : Location) : IO.FS.DirEntry := ⟨"/", "/".intercalate loc⟩

/-- The kind of the entry at a location, links not followed. -/
def typeAt (loc : Location) : IO (Option IO.FS.FileType) := do
  try return some (← (place loc).path.symlinkMetadata).type catch _ => return none

/-- Where a link leads in the end; nowhere if it dangles. -/
def targetOf (loc : Location) : IO String := do
  try
    let target ← IO.FS.realPath (place loc).path
    return toString target
  catch _ => return ""

def Picture.put (p : Picture) (loc : Location) (e : Entry) : Picture :=
  if (p.files.entryAt? loc).isSome then p else { p with files := p.files.put loc e }

/-- The bytes of a file, or none if they cannot matter. -/
def bytesOf (wanted : String → Bool) (loc : Location) : IO ByteArray := do
  if wanted (loc.getLastD "") then
    try IO.FS.readBinFile (place loc).path catch _ => return ByteArray.empty
  else return ByteArray.empty

/-- Reads what is at a location, with all below it and all that links in it lead to. -/
partial def readAll (wanted : String → Bool) (loc : Location) (p : Picture) : IO Picture := do
  if p.complete.any (·.isPrefixOf loc) then return p
  match ← typeAt loc with
  | none => return p
  | some .dir => do
    let mut p := { p.put loc (.directory []) with complete := loc :: p.complete }
    for e in ← (place loc).path.readDir do
      p ← readBelow wanted (loc ++ [e.fileName]) p
    return p
  | some _ => readBelow wanted loc p
where
  /-- Reads an entry of a directory that is being read. -/
  readBelow (wanted : String → Bool) (loc : Location) (p : Picture) : IO Picture := do
    match ← typeAt loc with
    | none => return p
    | some .dir => do
      let mut p := p.put loc (.directory [])
      for e in ← (place loc).path.readDir do
        p ← readBelow wanted (loc ++ [e.fileName]) p
      return p
    | some .symlink => do
      let target ← targetOf loc
      let p := p.put loc (.link target)
      if target.isEmpty then return p else readAll wanted (namesOf target) p
    | some _ => return p.put loc (.file (← bytesOf wanted loc))

/-- Reads what a path leads to from a location, and all on the way there. -/
partial def readAlong (wanted : String → Bool) (loc : Location) :
    List String → Picture → IO Picture
  | [], p => readAll wanted loc p
  | piece :: rest, p => do
    if piece = "" || piece = "." then readAlong wanted loc rest p
    else if piece = ".." then readAlong wanted loc.dropLast rest p
    else
      let child := loc ++ [piece]
      match ← typeAt child with
      | none => return p
      | some .dir => readAlong wanted child rest (p.put child (.directory []))
      | some .symlink => do
        let target ← targetOf child
        let p := p.put child (.link target)
        if target.isEmpty then return p else readAlong wanted (namesOf target) rest p
      | some _ => return p.put child (.file (← bytesOf (fun _ => true) child))

def readPath (wanted : String → Bool) (path : String) (p : Picture) : IO Picture :=
  readAlong wanted (FileSystem.startOf p.files.here path) (path.splitOn "/") p

def pathOf : CommandLine.Command → String
  | .tree path _ | .find path _ _ | .source path _ _ => path

/-- The files that a request is about. -/
def pictureFor (here : Location) (r : CommandLine.Request) : IO Picture := do
  let start : Picture := ⟨{ here }, []⟩
  let p := start.put here (.directory [])
  let p ← match r.config with
    | some path => readPath (fun _ => true) path p
    | none => pure p
  match CommandLine.settings p.files r.config r.exclude with
  | .error _ => return p
  | .ok s =>
    let wanted (name : String) : Bool := (Path.extensionOf name).any s.matchesExtension
    readPath wanted (pathOf r.command) p

/-- The variables that say whether there are colours. -/
def environment : IO Terminal.Environment :=
  ["NO_COLOR", "CLICOLOR_FORCE"].filterMapM fun name => do
    return (← IO.getEnv name).map (name, ·)

end Outline.Program

open Outline Outline.Program in
def main (args : List String) : IO UInt32 := do
  let here := namesOf (toString (← IO.currentDir))
  let files ← match CommandLine.parse args with
    | .ok r => pure (← pictureFor here r).files
    | .error _ => pure { here }
  let outcome := CommandLine.run files (← environment) args
  IO.print outcome.out
  IO.eprint outcome.err
  return outcome.status.toUInt32
