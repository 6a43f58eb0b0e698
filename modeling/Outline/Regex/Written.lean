import Outline.Regex.Flaw

/-! Regular expressions as they are written, each part with its span. -/
namespace Outline.Regex

structure Literal where
  span : Span
  char : Char
  /-- Spelled by two hexadecimal digits, so that it may stand for a byte. -/
  isByte : Bool := false
deriving Repr, DecidableEq

inductive WordSide where
  | boundary
  | noBoundary
  | start
  | stop
  | startHalf
  | stopHalf
deriving Repr, DecidableEq

inductive Assertion where
  | lineStart
  | lineEnd
  | textStart
  | textEnd
  | word (side : WordSide)
deriving Repr, DecidableEq

/-- Classes with a letter of their own. -/
inductive LetterKind where
  | digit
  | blank
  | word
deriving Repr, DecidableEq

structure LetterClass where
  span : Span
  kind : LetterKind
  negated : Bool
deriving Repr, DecidableEq

inductive PropertyName where
  | alone (name : String)
  | valued (name value : String)
deriving Repr, DecidableEq

structure PropertyClass where
  span : Span
  negated : Bool
  name : PropertyName
deriving Repr, DecidableEq

inductive AsciiKind where
  | alnum
  | alpha
  | ascii
  | blank
  | cntrl
  | digit
  | graph
  | lower
  | print
  | punct
  | space
  | upper
  | word
  | xdigit
deriving Repr, DecidableEq

namespace AsciiKind

def all : List (String × AsciiKind) := [
  ("alnum", alnum), ("alpha", alpha), ("ascii", ascii), ("blank", blank), ("cntrl", cntrl),
  ("digit", digit), ("graph", graph), ("lower", lower), ("print", print), ("punct", punct),
  ("space", space), ("upper", upper), ("word", word), ("xdigit", xdigit)]

def ofName? (name : String) : Option AsciiKind := (all.find? (·.1 = name)).map (·.2)

end AsciiKind

inductive SetOp where
  | inter
  | diff
  | symmDiff
deriving Repr, DecidableEq

/-- What stands between brackets. -/
inductive ClassSet where
  | empty (span : Span)
  | literal (l : Literal)
  | range (span : Span) (first last : Literal)
  | ascii (span : Span) (kind : AsciiKind) (negated : Bool)
  | letter (c : LetterClass)
  | property (c : PropertyClass)
  | bracketed (span : Span) (negated : Bool) (body : ClassSet)
  | union (span : Span) (items : List ClassSet)
  | op (span : Span) (kind : SetOp) (left right : ClassSet)
deriving Repr

def ClassSet.span : ClassSet → Span
  | empty s | range s _ _ | ascii s _ _ | bracketed s _ _ | union s _ | op s _ _ _ => s
  | literal l => l.span
  | letter c => c.span
  | property c => c.span

inductive Flag where
  | ignoreCase
  | multiLine
  | dotAll
  | swapGreed
  | unicode
  | crlf
  | spaced
deriving Repr, DecidableEq

def Flag.ofChar? : Char → Option Flag
  | 'i' => some ignoreCase
  | 'm' => some multiLine
  | 's' => some dotAll
  | 'U' => some swapGreed
  | 'u' => some unicode
  | 'R' => some crlf
  | 'x' => some spaced
  | _ => none

/-- A flag, or with `none` the sign that turns all flags after it off. -/
structure FlagItem where
  span : Span
  flag : Option Flag
deriving Repr, DecidableEq

/-- Whether a list of flags turns one on or off. -/
def stateOf (f : Flag) (items : List FlagItem) : Option Bool :=
  go items true
where
  go : List FlagItem → Bool → Option Bool
  | [], _ => none
  | i :: r, on =>
    match i.flag with
    | none => go r false
    | some g => if g = f then some on else go r on

inductive Written where
  | empty (span : Span)
  | flags (span : Span) (items : List FlagItem)
  | literal (l : Literal)
  | dot (span : Span)
  | assertion (span : Span) (kind : Assertion)
  | letter (c : LetterClass)
  | property (c : PropertyClass)
  | bracketed (span : Span) (negated : Bool) (body : ClassSet)
  | repetition (span : Span) (min : Nat) (max : Option Nat) (sub : Written)
  | group (span : Span) (captures : Bool) (items : List FlagItem) (sub : Written)
  | alternation (span : Span) (subs : List Written)
  | concat (span : Span) (subs : List Written)
deriving Repr

namespace Written

def span : Written → Span
  | empty s | flags s _ | dot s | assertion s _ | bracketed s _ _ | repetition s _ _ _
  | group s _ _ _ | alternation s _ | concat s _ => s
  | literal l => l.span
  | letter c => c.span
  | property c => c.span

/-! ### Depth -/

/-- Where a class first nests deeper than `limit`, starting `depth` levels down. -/
def tooDeepSet (limit depth : Nat) : ClassSet → Option Span
  | .bracketed s _ body => if limit ≤ depth then some s else tooDeepSet limit (depth + 1) body
  | .union s items => if limit ≤ depth then some s else inItems items
  | .op s _ a b =>
    if limit ≤ depth then some s
    else (tooDeepSet limit (depth + 1) a).or (tooDeepSet limit (depth + 1) b)
  | _ => none
where
  inItems : List ClassSet → Option Span
  | [] => none
  | c :: r => (tooDeepSet limit (depth + 1) c).or (inItems r)

/-- Where a pattern first nests deeper than `limit`, starting `depth` levels down. -/
def tooDeep (limit depth : Nat) : Written → Option Span
  | bracketed s _ body => if limit ≤ depth then some s else tooDeepSet limit (depth + 1) body
  | repetition s _ _ sub | group s _ _ sub =>
    if limit ≤ depth then some s else tooDeep limit (depth + 1) sub
  | alternation s subs | concat s subs => if limit ≤ depth then some s else inSubs subs
  | _ => none
where
  inSubs : List Written → Option Span
  | [] => none
  | w :: r => (tooDeep limit (depth + 1) w).or (inSubs r)

end Written

end Outline.Regex
