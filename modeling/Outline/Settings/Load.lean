import Outline.FileSystem.Basic
import Outline.Settings.Document

/-! Loading settings from a text or a file: reading, then the shape of the document, then what the
settings say. -/
namespace Outline.Settings

/-- Why settings cannot be loaded. The path is there if they come from a file. -/
inductive LoadError where
  | unreadable (path : Path) (fault : FileSystem.Fault)
  | malformed (path : Option Path) (source : String) (flaw : Toml.Flaw)
  | rejected (path : Option Path) (invalid : Invalid)
deriving Repr, DecidableEq

namespace LoadError

def path : LoadError → Option Path
  | unreadable p _ => some p
  | malformed p _ _ => p
  | rejected p _ => p

def origin : Option Path → String
  | some p => p.text
  | none => "inline settings"

def message : LoadError → String
  | unreadable p fault => "cannot read settings file " ++ p.text ++ ": " ++ fault.message
  | malformed p source flaw => origin p ++ ": malformed TOML: " ++ flaw.report source
  | rejected p invalid => origin p ++ ": " ++ invalid.message

end LoadError

/-- The settings in a text that comes from a file or from nowhere. -/
def parse (source : String) (path : Option Path := none) : Except LoadError Settings :=
  match Toml.parse source >>= ofDocument with
  | .error flaw => .error (.malformed path source flaw)
  | .ok s =>
    match (Configuration.mk s).validate with
    | .error invalid => .error (.rejected path invalid)
    | .ok () => .ok s

/-- The settings in a file. -/
def load (fs : FileSystem) (path : Path) : Except LoadError Settings :=
  match fs.readText path with
  | .error fault => .error (.unreadable path fault)
  | .ok source => parse source (some path)

end Outline.Settings
