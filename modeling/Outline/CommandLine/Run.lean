import Outline.CommandLine.Parse
import Outline.Report.Listing
import Outline.Report.Tree
import Outline.Settings.Load

/-! Doing what the arguments ask for: an exit status and the text on both streams. -/
namespace Outline.CommandLine

open Terminal (Environment Style)

structure Outcome where
  status : Nat := 0
  out : String := ""
  err : String := ""
deriving Repr, DecidableEq

/-! ### Failing -/

/-- Why a request fails: what was being done, and the causes, the nearest first. -/
structure Trouble where
  what : String
  causes : List String := []
deriving Repr, DecidableEq

namespace Trouble

/-- A text with its later lines indented. -/
def indented (indent text : String) : String := ("\n" ++ indent).intercalate (text.splitOn "\n")

def causeText : List String → String
  | [] => ""
  | [c] => "\n\nCaused by:\n    " ++ indented "    " c
  | cs =>
    "\n\nCaused by:" ++ String.join (cs.zipIdx.map fun (c, i) =>
      "\n" ++ Report.padded i ++ ": " ++ indented "       " c)

def message (t : Trouble) : String := "Error: " ++ t.what ++ causeText t.causes ++ "\n"

def ofLoad (e : Settings.LoadError) : Trouble :=
  ⟨e.message, match e with
    | .unreadable _ fault => [fault.message]
    | .malformed _ source flaw => [flaw.report source]
    | .rejected _ invalid => [invalid.message]⟩

/-- A scan that fails while something is being done. -/
def ofScan (what : String) (e : ScanError) : Trouble :=
  ⟨what, e.message :: match e with
    | .path _ fault => [fault.message]
    | .settings invalid => [invalid.message]
    | .exclude refusal => [refusal.message]⟩

end Trouble

/-! ### Doing -/

/-- The settings of a request: those of the file, if there is one, with the pattern from the command
line, if there is one. -/
def settings (fs : FileSystem) (config exclude : Option String) : Except Trouble Settings := do
  let s ← match config with
    | some path => (Settings.load fs ⟨path⟩).mapError .ofLoad
    | none => pure {}
  return match exclude with
    | some pattern => { s with exclude := pattern }
    | none => s

def scanner (fs : FileSystem) (r : Request) : Except Trouble Scanner := do
  (Scanner.new (← settings fs r.config r.exclude)).mapError (.ofScan "invalid scan settings")

/-- The survey of a path, with its diagnostics. -/
def surveyOf (fs : FileSystem) (s : Scanner) (path : String) : Except Trouble (Progress String) :=
  (s.scan fs ⟨path⟩ Writer.collect "").mapError (.ofScan ("failed to scan " ++ path))

/-- What is said when no declaration matches. -/
def noMatch (coloured : Bool) (name : String) : String :=
  Terminal.paint coloured .yellow ("No declarations named '" ++ name ++ "'") ++ "\n"

def runTree (coloured json : Bool) (p : Progress String) : Outcome where
  out :=
    if json then (Report.ofSurvey p.survey).text ++ "\n"
    else Report.unlines (Report.treeLines coloured p.survey)
  err := p.out

/-- Prints the matches, or says that there are none. -/
def runMatches (coloured : Bool) (name : String) (kind : Option Kind) (p : Progress String)
    (write : List Node → Except Node.MissingExtent (List String)) : Outcome :=
  match Report.matching p.survey name kind with
  | [] => { status := 1, err := p.out ++ noMatch coloured name }
  | found =>
    match write found with
    | .ok lines => { out := Report.unlines lines, err := p.out }
    | .error e => { status := 1, err := p.out ++ Trouble.message ⟨e.message, []⟩ }

def runCommand (coloured : Bool) (fs : FileSystem) (s : Scanner) : Command → Except Trouble Outcome
  | .tree path json => do return runTree coloured json (← surveyOf fs s path)
  | .find path name kind => do
    return runMatches coloured name kind (← surveyOf fs s path) fun ns =>
      .ok (ns.map Report.matchLine)
  | .source path name kind => do
    return runMatches coloured name kind (← surveyOf fs s path) (Report.blocks coloured)

/-- Does what is asked for. -/
def runRequest (coloured : Bool) (fs : FileSystem) (r : Request) : Outcome :=
  match scanner fs r >>= fun s => runCommand coloured fs s r.command with
  | .ok outcome => outcome
  | .error t => { status := 1, err := t.message }

/-- What the program does with its arguments. -/
def run (fs : FileSystem) (env : Environment) (args : List String) : Outcome :=
  match parse args with
  | .ok request => runRequest (Terminal.forced env) fs request
  | .error refusal =>
    let text := Terminal.Styled.render (Terminal.forcedUnlessRefused env) refusal.message
    if refusal.isAnswer then { out := text } else { status := 2, err := text }

end Outline.CommandLine
