import Outline.Parse.Run
import Outline.Syntax.Tree

/-! The syntax tree of a Ruby text: the parse tree with its hidden nodes replaced by what they
hold. -/
namespace Outline

open Parse Ruby Grammar

/-! ### Names

A node is named by the part marked `name` in its production; a hidden part may lend its own. -/

/-- The phrases that have a name to lend, their own or that of a hidden part. -/
def lendsName : Array Bool :=
  let lends (known : Array Bool) (s : Step Symbol) : Bool :=
    s.field = some "name" || match s.symbol with
      | .phrase i => s.shown.isNone && grammar.visibility s.symbol == .hidden && known.getD i false
      | _ => false
  let pass (known : Array Bool) : Array Bool :=
    grammar.productions.foldl (fun k p =>
      if p.steps.any (lends k) then k.setIfInBounds p.phrase true else k) known
  (List.range 16).foldl (fun k _ => pass k) (Array.replicate grammar.phrases.size false)

/-- For each production the steps that name it, and whether the name is lent by a hidden part. -/
def namingSteps : Array (List (Nat × Bool)) :=
  grammar.productions.map fun p => p.steps.toList.zipIdx.flatMap fun (s, i) =>
    (if s.field = some "name" then [(i, false)] else []) ++
      match s.symbol with
      | .phrase q =>
        if grammar.visibility s.symbol == .hidden && lendsName.getD q false then [(i, true)] else []
      | _ => []

/-- Whether a part shows as a node, and under which name if not its own. -/
def shownAs (t : Parse.Tree) (names : List (Option Shown)) : Option Shown :=
  if t.extra || t.label = .terminal 0 then none else names.headD none

/-- Which of the nodes that show below a tree is its name. -/
def nameIndex : Parse.Tree → Option Nat
  | .node s ps =>
    seek (namingSteps.getD s.production []) ps
      (if s.label = .error then [] else Parse.Tree.shownNames s.production) 0 0
where
  /-- Goes through the parts: `step` counts those that are steps, `before` the nodes shown. -/
  seek : List (Nat × Bool) → List Parse.Tree → List (Option Shown) → Nat → Nat → Option Nat
  | [], _, _, _, _ => none
  | _, [], _, _, _ => none
  | (i, lent) :: more, t :: rest, names, step, before =>
    let renamed := (shownAs t names).isSome
    let width :=
      if renamed || t.visible then 1 else if t.parts.isEmpty then 0 else t.summary.shownParts
    if t.extra then seek ((i, lent) :: more) rest names step (before + width)
    else if step < i then
      seek ((i, lent) :: more) rest (names.drop 1) (step + 1) (before + width)
    else if lent then
      match nameIndex t with
      | some k => some (before + k)
      | none =>
        if more.isEmpty then none else seek more rest (names.drop 1) (step + 1) (before + width)
    else if 0 < width then some before
    else seek more rest (names.drop 1) (step + 1) (before + width)

/-! ### Showing -/

/-- What a node that shows says of itself. -/
def shownInfo (t : Parse.Tree) (start : Text.Offset) (as : Option Shown) : SyntaxInfo :=
  { kind := match as, t.label with
      | some s, _ => s.name
      | none, .symbol s => grammar.name s
      | none, _ => "ERROR",
    named := match as with
      | some s => s.named
      | none => t.label.visibility == .named,
    fault := if t.label = .error then .error else if t.summary.missing then .missing else .none,
    hasError := 0 < t.cost,
    start, stop := start + t.size,
    nameChild := if t.label = .error then none else nameIndex t }

/-- The node that a tree shows as. -/
def showTree : Parse.Tree → Text.Offset → Option Shown → SyntaxTree
  | .node s ps, start, as =>
    .node (shownInfo (.node s ps) start as)
      (showParts ps (if s.label = .error then [] else Parse.Tree.shownNames s.production)
        true start [])
where
  /-- The nodes of parts side by side, before those that follow. The first part starts where the
  whole does, each other one after its padding. -/
  showParts : List Parse.Tree → List (Option Shown) → Bool → Text.Offset → List SyntaxTree →
      List SyntaxTree
  | [], _, _, _, after => after
  | .node s ps :: rest, names, first, here, after =>
    let t := Parse.Tree.node s ps
    let start := if first then here else here + s.padding
    let as := shownAs t names
    let later :=
      showParts rest (if s.extra then names else names.drop 1) false (start + s.size) after
    if as.isSome || t.visible then showTree t start as :: later
    else showParts ps (if s.label = .error then [] else Parse.Tree.shownNames s.production)
      true start later

/-- The syntax tree of a Ruby text. Every text has one; what does not parse is inside errors. -/
def SyntaxTree.ofText (text : String) : SyntaxTree :=
  let t := Parse.parse text
  showTree t t.padding none

end Outline
