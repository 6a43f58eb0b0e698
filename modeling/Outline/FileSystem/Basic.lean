import Outline.Path

/-! A file system: a tree of directories with files and symbolic links in them, and the directory
that relative paths start from. -/
namespace Outline

inductive Entry where
  | file (bytes : ByteArray)
  | directory (entries : List (String × Entry))
  | link (target : String)
deriving Inhabited

namespace Entry

/-- What a directory holds under a name. -/
def child? : Entry → String → Option Entry
  | directory es, name => es.lookup name
  | _, _ => none

/-- Puts an entry under a name in place of what was there. -/
def setChild (name : String) (e : Entry) : List (String × Entry) → List (String × Entry)
  | [] => [(name, e)]
  | (n, old) :: r => if n = name then (n, e) :: r else (n, old) :: setChild name e r

/-- The names in a directory, in order and each once. -/
def names : Entry → List String
  | directory es => ((es.map (·.1)).mergeSort fun a b => a ≤ b).eraseDups
  | _ => []

/-- Puts an entry at the end of a list of names, with directories on the way to it. -/
def put (new : Entry) : List String → Entry → Entry
  | [], _ => new
  | name :: rest, e =>
    let old := (e.child? name).getD (directory [])
    match e with
    | directory es => directory (setChild name (put new rest old) es)
    | _ => directory [(name, put new rest old)]

/-- How many directories a tree has. -/
def directories : Entry → Nat
  | directory es => 1 + below es
  | _ => 0
where
  below : List (String × Entry) → Nat
  | [] => 0
  | (_, e) :: r => e.directories + below r

end Entry

/-- The names on the way from the root of a file system. -/
abbrev Location := List String

structure FileSystem where
  root : List (String × Entry) := []
  /-- The working directory. -/
  here : Location := []
deriving Inhabited

namespace FileSystem

def top (fs : FileSystem) : Entry := .directory fs.root

def entryAt? (fs : FileSystem) (loc : Location) : Option Entry :=
  loc.foldlM Entry.child? fs.top

/-- Makes an entry at a location. -/
def put (fs : FileSystem) (loc : Location) (e : Entry) : FileSystem :=
  match Entry.put e loc fs.top with
  | .directory es => { fs with root := es }
  | _ => fs

/-! ### Faults -/

/-- Why the system refuses an operation. -/
inductive Fault where
  | notFound
  | notDirectory
  | isDirectory
  | nameTooLong
  | tooManyLinks
  | nulInName
  | notText
deriving Repr, DecidableEq, Inhabited

def Fault.message : Fault → String
  | notFound => "No such file or directory (os error 2)"
  | notDirectory => "Not a directory (os error 20)"
  | isDirectory => "Is a directory (os error 21)"
  | nameTooLong => "File name too long (os error 36)"
  | tooManyLinks => "Too many levels of symbolic links (os error 40)"
  | nulInName => "file name contained an unexpected NUL byte"
  | notText => "stream did not contain valid UTF-8"

/-! ### Resolution -/

/-- Where a path starts: at the root after a leading slash, else at `from`. -/
def startOf (base : Location) (text : String) : Location :=
  if text.toList.head? = some '/' then [] else base

/-- Goes on from a location along the pieces of a path. `jump` goes on from where a link points. -/
def along (fs : FileSystem) (jump : Location → List String → Except Fault Location) :
    Location → List String → Except Fault Location
  | loc, [] => .ok loc
  | loc, piece :: rest =>
    match fs.entryAt? loc with
    | some (.directory _) =>
      if piece = "" || piece = "." then along fs jump loc rest
      else if piece = ".." then along fs jump loc.dropLast rest
      else if 255 < piece.utf8ByteSize then .error .nameTooLong
      else
        match fs.entryAt? (loc ++ [piece]) with
        | none => .error .notFound
        | some (.link target) =>
          if target.isEmpty then .error .notFound
          else jump (startOf loc target) (Text.pieces '/' target ++ rest)
        | some _ => along fs jump (loc ++ [piece]) rest
    | _ => .error .notDirectory

/-- Goes along the pieces of a path through at most so many links. -/
def follow (fs : FileSystem) : (links : Nat) → Location → List String → Except Fault Location
  | 0 => fs.along fun _ _ => .error .tooManyLinks
  | n + 1 => fs.along (fs.follow n)

/-- How many links may be passed on the way to one entry. -/
def linkLimit : Nat := 40

/-- How long a path may be in bytes. -/
def pathLimit : Nat := 4095

/-- The location of the file or directory that a path leads to. -/
def resolve (fs : FileSystem) (p : Path) : Except Fault Location :=
  if p.text.toList.contains '\x00' then .error .nulInName
  else if p.text.isEmpty then .error .notFound
  else if pathLimit < p.text.utf8ByteSize then .error .nameTooLong
  else fs.follow linkLimit (startOf fs.here p.text) p.pieces

/-- The file or directory that a path leads to. -/
def find (fs : FileSystem) (p : Path) : Except Fault Entry := do
  match fs.entryAt? (← fs.resolve p) with
  | some e => return e
  | none => .error .notFound

/-- The text of a file. -/
def readText (fs : FileSystem) (p : Path) : Except Fault String := do
  match ← fs.find p with
  | .file bytes =>
    match String.fromUTF8? bytes with
    | some text => return text
    | none => .error .notText
  | .directory _ => .error .isDirectory
  | .link _ => .error .tooManyLinks

end FileSystem

end Outline
