import Outline.CommandLine.Refusal
import Outline.Declaration.Kind
import Outline.Text.Similar

/-! Reading the arguments. An option waits for its value until the next argument is read, so that a
fault in one argument can be told only after the next one. -/
namespace Outline.CommandLine

/-- What has been read of the arguments of a command. -/
structure Reading where
  /-- The arguments that are complete, in the order given. -/
  used : List (Argument × Option String) := []
  /-- The argument read last, with its value if that has been read. -/
  last : Option (Argument × Option String) := none
  /-- How many operands have been read. -/
  operands : Nat := 0
  /-- Whether two dashes have been read, after which all is operands. -/
  trailing : Bool := false

namespace Reading

def has (s : Reading) (a : Argument) : Bool := s.used.any (·.1 = a)

def arguments (s : Reading) : List Argument := s.used.map (·.1)

def value? (s : Reading) (a : Argument) : Option String := (s.used.lookup a).join

/-- Whether the last argument is an option that still waits for its value. -/
def waits (s : Reading) : Bool := s.last.any (·.2.isNone)

def checkValue (a : Argument) (v : String) : Except Refusal Unit :=
  if v.isEmpty && (!a.acceptsEmpty || !a.choices.isEmpty) then .error (.noValue a)
  else if a.choices.isEmpty || a.choices.contains v then .ok ()
  else .error (.badValue a v (Text.similarTo v a.choices).getLast?)

/-- Adds an argument that may be given once. -/
def add (s : Reading) (f : Form) (a : Argument) (v : Option String) : Except Refusal Reading := do
  if s.has a then .error (.repeated f a)
  if let some v := v then checkValue a v
  return { s with used := s.used ++ [(a, v)] }

/-- Takes in the last argument. -/
def settle (s : Reading) (f : Form) : Except Refusal Reading :=
  match s.last with
  | none => .ok s
  | some (a, none) => .error (.noValue a)
  | some (a, some v) => { s with last := none }.add f a v

/-- Takes in the last argument, whatever is wrong with it. -/
def settleAnyway (s : Reading) : Reading :=
  match s.last with
  | some (a, some v) => { s with used := s.used ++ [(a, some v)], last := none }
  | _ => { s with last := none }

end Reading

/-! ### Options -/

/-- Acts on an option that takes no value. -/
def takeSwitch (f : Form) (o : Flag) (s : Reading) : Except Refusal Reading := do
  let s ← s.settle f
  if o = helpFlag then .error (.help f)
  else if o = versionFlag then .error .version
  else s.add f (.flag o) none

/-- Acts on an option that takes a value, which may be attached to it. -/
def takeOption (f : Form) (o : Flag) (v : Option String) (s : Reading) :
    Except Refusal Reading := do
  let s ← s.settle f
  match v with
  | some v => s.add f (.flag o) (some v)
  | none => return { s with last := some (.flag o, none) }

/-- The option that an unknown one is most like: one of this command, or of a command named further
on, the one named first. -/
def similarFlag? (f : Form) (name : String) (rest : List String) :
    Option (String × Option String) :=
  let best (g : Form) : Option String := (Text.similarTo name (g.flags.map (·.name))).getLast?
  match best f with
  | some n => some (n, none)
  | none =>
    let named := f.subforms.filterMap fun g => do
      let n ← best g
      let i ← rest.findIdx? (· = g.name)
      return (i, (n, some g.name))
    (named.mergeSort fun a b => a.1 ≤ b.1).head?.map (·.2)

/-- An unknown long option. The one that was meant counts as given. -/
def unknownLong (f : Form) (name : String) (rest : List String) (s : Reading) : Refusal :=
  let similar := similarFlag? f name rest
  let s := s.settleAnyway
  let meant : Option Argument := match similar with
    | some (n, none) => (f.flags.find? (·.name = n)).map .flag
    | _ => none
  .unknownArgument f ("--" ++ name) similar (similar.isNone && !f.operands.isEmpty)
    (s.arguments ++ meant.toList)

/-- `--name` or `--name=value`, without its dashes. -/
def takeLong (f : Form) (text : List Char) (rest : List String) (s : Reading) :
    Except Refusal Reading :=
  let name := String.ofList (text.takeWhile (· ≠ '='))
  let value := match text.dropWhile (· ≠ '=') with
    | _ :: v => some (String.ofList v)
    | [] => none
  match f.flags.find? (·.name = name), value with
  | none, _ => .error (unknownLong f name rest s)
  | some o, value =>
    if o.value.isSome then takeOption f o value s
    else
      match value with
      | some v => .error (.extraValue f v (.flag o) s.arguments)
      | none => takeSwitch f o s

/-- Options of one letter behind one dash: what follows one that takes a value is its value. -/
def takeShorts (f : Form) : List Char → Reading → Except Refusal Reading
  | [], s => .ok s
  | c :: r, s =>
    match f.flags.find? (·.short = some c) with
    | none =>
      .error (.unknownArgument f ("-" ++ String.singleton c) none (!f.operands.isEmpty) [])
    | some o =>
      if o.value.isSome then
        let value := match r with
          | [] => none
          | '=' :: v => some (String.ofList v)
          | v => some (String.ofList v)
        takeOption f o value s
      else do takeShorts f r (← takeSwitch f o s)

/-! ### Operands -/

/-- An argument for which there is no place. -/
def unplaced (f : Form) (text : String) (s : Reading) : Refusal :=
  let names := f.subforms.map (·.name)
  if s.trailing && names.contains text then .strayDashes f text
  else if names.isEmpty then .unknownArgument f text none false []
  else .unknownCommand f text (Text.similarTo text names)

def takeOperand (f : Form) (text : String) (s : Reading) : Except Refusal Reading :=
  match f.operands[s.operands]? with
  | some o => do
    let s ← s.settle f
    return { s with last := some (.operand o, some text), operands := s.operands + 1 }
  | none => .error (unplaced f text s)

/-! ### Commands -/

/-- Reads one argument that is not the name of a command. -/
def take (f : Form) (text : String) (rest : List String) (s : Reading) : Except Refusal Reading :=
  let asValue : Except Refusal Reading :=
    match s.last with
    | some (a, none) =>
      if s.trailing then takeOperand f text s
      else .ok { s with last := some (a, some text) }
    | _ => takeOperand f text s
  if s.trailing then asValue
  else
    match text.toList with
    | ['-', '-'] => .ok { s with trailing := true }
    | '-' :: '-' :: name => takeLong f name rest s
    | ['-'] => asValue
    | '-' :: letters => takeShorts f letters s
    | _ => asValue

/-- The help of the commands named, each inside the one before. -/
def helpOn (f : Form) : List String → Refusal
  | [] => .help f
  | name :: rest =>
    match f.subforms.find? (·.name = name) with
    | some g => helpOn g rest
    | none => .unknownCommand f name []

/-- Reads arguments up to the name of a command, and gives that command with what follows. -/
def takeAll (f : Form) :
    List String → Reading → Except Refusal (Reading × Option (Form × List String))
  | [], s => .ok (s, none)
  | text :: rest, s =>
    match if s.trailing || s.waits then none else f.subforms.find? (·.name = text) with
    | some g => if g = helpForm then .error (helpOn f rest) else .ok (s, some (g, rest))
    | none => do takeAll f rest (← take f text rest s)

/-- Refuses a command that lacks operands. -/
def complete (f : Form) (s : Reading) : Except Refusal Reading := do
  let s ← s.settle f
  let missing := (f.operands.map Argument.operand).filter (!s.has ·)
  if missing.isEmpty then return s else .error (.missing f missing (s.arguments ++ missing))

/-! ### What is asked for -/

inductive Command where
  | tree (path : String) (json : Bool)
  | find (path name : String) (kind : Option Kind)
  | source (path name : String) (kind : Option Kind)
deriving Repr, DecidableEq

/-- What the program is asked to do. -/
structure Request where
  config : Option String := none
  exclude : Option String := none
  command : Command
deriving Repr, DecidableEq

def kindOf? (choice : String) : Option Kind :=
  match choice with
  | "module" => some .moduleDecl
  | "class" => some .classDecl
  | "class-method" => some .classMethod
  | "instance-method" => some .instanceMethod
  | _ => none

def commandOf (f : Form) (s : Reading) : Command :=
  let path := (s.value? (.operand pathOperand)).getD ""
  let name := (s.value? (.operand nameOperand)).getD ""
  let kind := (s.value? (.flag kindFlag)).bind kindOf?
  if f = treeForm then .tree path (s.has (.flag jsonFlag))
  else if f = findForm then .find path name kind
  else .source path name kind

/-- What the arguments ask for. Options for all commands may stand before and after the name of the
command, and count where they are nearer to its operands. -/
def parse (args : List String) : Except Refusal Request := do
  let (outer, found) ← takeAll rootForm args {}
  match found with
  | none => do
    let outer ← outer.settle rootForm
    if outer.used.isEmpty then .error (.nothing rootForm) else .error (.noCommand rootForm)
  | some (f, rest) => do
    let (inner, _) ← takeAll f rest {}
    let inner ← complete f inner
    let outer ← outer.settle rootForm
    let either (a : Flag) : Option String :=
      (inner.value? (.flag a)).or (outer.value? (.flag a))
    return ⟨either configFlag, either excludeFlag, commandOf f inner⟩

end Outline.CommandLine
