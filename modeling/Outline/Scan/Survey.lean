import Outline.Declaration.Search
import Outline.Scan.Candidates
import Outline.Source.Map

/-! Scans: each candidate is read and outlined on its own. A file that cannot be read or has faults
is skipped and told about in one line of diagnostics, and the scan goes on. -/
namespace Outline

/-- The result of a scan. -/
structure Survey where
  root : Node
  /-- The files with their declarations in the tree. -/
  sources : SourceMap := {}
  failures : List Failure := []
deriving Inhabited

/-- Takes lines of diagnostics, and may fail to. -/
abbrev Writer (σ : Type) := String → σ → σ × Option String

namespace Writer

/-- Keeps all that is written. -/
def collect : Writer String := fun line text => (text ++ line, none)

/-- Takes nothing. -/
def refuse (cause : String) : Writer String := fun _ text => (text, some cause)

end Writer

/-- A file with its syntax, unless that has faults. -/
def checkSource (file : SourceFile) (t : SyntaxTree) : Except FileError (SourceFile × SyntaxTree) :=
  match t.check with
  | .error fault => .error (.faulty fault)
  | .ok () => .ok (file, t)

/-- A file that has been read, with its syntax, unless it is to be skipped. -/
def readSource (fs : FileSystem) (key : Nat) (path : Path) :
    Except FileError (SourceFile × SyntaxTree) :=
  match fs.readText path with
  | .error fault => .error (.unreadable path fault)
  | .ok text => checkSource { key, path, text } (.ofText text)

/-- A scan that is under way. -/
structure Progress (σ : Type) where
  survey : Survey
  /-- How many candidates have been taken. -/
  taken : Nat := 0
  events : List Event := []
  out : σ

namespace Progress

variable {σ : Type}

def record (p : Progress σ) (file : SourceFile) (t : SyntaxTree) : Progress σ :=
  let root := p.survey.root.visit file t
  { p with
    survey := { p.survey with root, sources := p.survey.sources.insert file }
    taken := p.taken + 1
    events := p.events ++ (t.nameless file.text).map .nameless ++
      [.outlined file.path (root.children.length - p.survey.root.children.length)] }

def skip (w : Writer σ) (p : Progress σ) (failure : Failure) : Progress σ :=
  let (out, lost) := w (failure.message ++ "\n") p.out
  { survey := { p.survey with failures := p.survey.failures ++ [failure] }
    taken := p.taken + 1
    events := p.events ++ [.skipped failure] ++ (lost.map Event.diagnosticLost).toList
    out }

/-- Takes the next candidate. -/
def step (fs : FileSystem) (w : Writer σ) (p : Progress σ) (candidate : Path) : Progress σ :=
  match readSource fs p.taken candidate with
  | .ok (file, t) => p.record file t
  | .error error => p.skip w ⟨candidate, error⟩

end Progress

namespace Scanner

/-- Scans a file or directory. Only the diagnostics depend on the writer. -/
def scan {σ : Type} (s : Scanner) (fs : FileSystem) (path : Path) (w : Writer σ) (out : σ) :
    Except ScanError (Progress σ) := do
  let (candidates, told) ← s.enumerate fs path
  let start : Progress σ := {
    survey := { root := .root path }
    events := told ++ [.started path candidates.length]
    out }
  let p := candidates.foldl (·.step fs w ·) start
  let v := p.survey
  let last := Event.finished v.sources.size v.root.descendantCount v.failures.length
  return { p with events := p.events ++ [last] }

end Scanner

/-- Scans with the default settings. -/
def survey {σ : Type} (fs : FileSystem) (path : Path) (w : Writer σ) (out : σ) :
    Except ScanError (Progress σ) := do
  (← Scanner.new {}).scan fs path w out

end Outline
