import Outline.Settings.Basic
import Outline.Toml.Document

/-! Settings in a TOML document: a table `scan` with the fields that differ from the defaults.
Anything else in the document is refused. -/
namespace Outline.Settings

open Toml (Flaw Item Table)

def wrongType (item : Item) (wanted : String) : Flaw :=
  ⟨.wrongType item.describe wanted, item.span⟩

/-! ### Fields -/

def readString : Item → Except Flaw String
  | .scalar _ (.string s) => .ok s
  | item => .error (wrongType item "a string")

def readBoolean : Item → Except Flaw Bool
  | .scalar _ (.boolean b) => .ok b
  | item => .error (wrongType item "a boolean")

def readStrings : Item → Except Flaw (List String)
  | .array _ items => items.mapM readString
  | .tables items => items.mapM readString
  | item => .error (wrongType item "a sequence")

def setExtensions (s : Settings) (item : Item) : Except Flaw Settings := do
  return { s with extensions := ← readStrings item }

def setExclude (s : Settings) (item : Item) : Except Flaw Settings := do
  return { s with exclude := ← readString item }

def setFollowLinks (s : Settings) (item : Item) : Except Flaw Settings := do
  return { s with followLinks := ← readBoolean item }

/-- The fields by name, in their order. -/
def fields : List (String × (Settings → Item → Except Flaw Settings)) :=
  [("extensions", setExtensions), ("exclude", setExclude), ("follow_links", setFollowLinks)]

/-! ### Tables -/

/-- Reads the fields of a table in the order in which they stand there. -/
def ofTable (t : Table) : Except Flaw Settings :=
  t.foldlM (fun s (k, item) =>
    match fields.lookup k.name with
    | some set => set s item
    | none => .error ⟨.unknownField k.name (fields.map (·.1)), k.span⟩) {}

/-- Reads fields by place. Fields without an item keep their defaults, and items without a field do
not count. -/
def ofList (items : List Item) : Except Flaw Settings :=
  (fields.zip items).foldlM (fun s (field, item) => field.2 s item) {}

/-- The name under which a date or time holds its text. -/
def momentField : String := "$__toml_private_datetime"

def ofItem : Item → Except Flaw Settings
  | .table _ _ t => ofTable t
  | .array _ items => ofList items
  | .tables items => ofList items
  | .scalar span (.moment _) =>
    .error ⟨.unknownField momentField (fields.map (·.1)), span⟩
  | item => .error (wrongType item "struct ScanConfig")

/-- The settings in a document. -/
def ofDocument (t : Table) : Except Flaw Settings :=
  t.foldlM (fun _ (k, item) =>
    if k.name = "scan" then ofItem item
    else .error ⟨.unknownField k.name ["scan"], k.span⟩) {}

end Outline.Settings
