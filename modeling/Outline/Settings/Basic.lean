import Outline.Regex.Basic
import Outline.Text.Blank

/-! Which files a scan visits: extensions, a pattern for what is left out, and whether links are
followed. -/
namespace Outline

/-- Directories of other people's code, of generated files and of version control. -/
def defaultExclude : String := "(^|/)(vendor|node_modules|tmp|\\.git)/"

structure Settings where
  /-- Extensions without a dot in front. -/
  extensions : List String := ["rb"]
  /-- A regular expression on paths relative to the scanned directory; the empty one leaves nothing
  out. -/
  exclude : String := defaultExclude
  followLinks : Bool := false
deriving Repr, DecidableEq, Inhabited

namespace Settings

/-! ### Issues -/

inductive ExtensionFault where
  | blank
  | leadingDot
deriving Repr, DecidableEq

def ExtensionFault.message : ExtensionFault → String
  | blank => "extension is blank"
  | leadingDot => "omit the leading dot"

inductive Issue where
  | noExtensions
  | extension (ext : String) (fault : ExtensionFault)
  | exclude (pattern : String) (refusal : Regex.Refusal)
deriving Repr, DecidableEq

def Issue.message : Issue → String
  | noExtensions => "scan.extensions must list at least one extension"
  | extension ext fault => "invalid extension '" ++ ext ++ "': " ++ fault.message
  | exclude pattern refusal => "invalid exclude pattern '" ++ pattern ++ "': " ++ refusal.message

/-- All that is wrong with some settings. -/
structure Invalid where
  issues : List Issue
deriving Repr, DecidableEq

def Invalid.message (e : Invalid) : String := "\n".intercalate (e.issues.map (·.message))

/-- What is wrong with an extension. -/
def extensionFault? (ext : String) : Option ExtensionFault :=
  if ext.toList.all Text.isBlank then some .blank
  else if ext.toList.head? = some '.' then some .leadingDot
  else none

/-- The pattern for what is left out, if there is one. -/
def excludeRegex (s : Settings) : Except Regex.Refusal (Option Regex) :=
  if s.exclude.isEmpty then .ok none else (Regex.compile s.exclude).map some

def issues (s : Settings) : List Issue :=
  (if s.extensions.isEmpty then [.noExtensions] else []) ++
    (s.extensions.filterMap fun ext => (extensionFault? ext).map (.extension ext)) ++
    match s.excludeRegex with
    | .ok _ => []
    | .error refusal => [.exclude s.exclude refusal]

def validate (s : Settings) : Except Invalid Unit :=
  if s.issues.isEmpty then .ok () else .error ⟨s.issues⟩

def matchesExtension (s : Settings) (ext : String) : Bool := s.extensions.contains ext

end Settings

/-- All that can be set: so far, which files a scan visits. -/
structure Configuration where
  scan : Settings := {}
deriving Repr, DecidableEq, Inhabited

def Configuration.validate (c : Configuration) : Except Settings.Invalid Unit :=
  if c.scan.issues.isEmpty then .ok () else .error ⟨c.scan.issues⟩

end Outline
