import Outline.Regex.Written
import Outline.Unicode.Lookup

/-! Regular expressions and where they match. A text of `n` characters has `n + 1` places between
and around them. An expression takes places where a match may start to those where it may end, so
that marks run through it from left to right. -/
namespace Outline.Regex

open Unicode (CodeSet)

/-- What is asked of the characters on both sides of a place. -/
inductive Look where
  | textStart
  | textEnd
  | lineStart (crlf : Bool)
  | lineEnd (crlf : Bool)
  | word (side : WordSide) (unicode : Bool)
deriving Repr, DecidableEq

inductive Expr where
  | empty
  | chars (s : CodeSet)
  | look (l : Look)
  | seq (a b : Expr)
  | alt (a b : Expr)
  /-- From `min` to `max` matches in a row, or any number from `min` on. -/
  | times (min : Nat) (max : Option Nat) (e : Expr)
  /-- A part that is remembered. -/
  | capture (e : Expr)
deriving Repr, DecidableEq

namespace Look

def isWordChar (unicode : Bool) (c : Char) : Bool :=
  if unicode && 128 ≤ c.toNat then Unicode.wordParts.contains c else c.isAlphanum || c = '_'

def wordHolds (side : WordSide) (before after : Bool) : Bool :=
  match side with
  | .boundary => before != after
  | .noBoundary => before == after
  | .start => !before && after
  | .stop => before && !after
  | .startHalf => !before
  | .stopHalf => !after

/-- Whether the place between two characters, if there are any, satisfies a look. With `crlf` a
carriage return ends a line too, and nothing divides it from a line feed after it. -/
def holds (l : Look) (before after : Option Char) : Bool :=
  match l with
  | textStart => before.isNone
  | textEnd => after.isNone
  | lineStart crlf =>
    before.isNone || before = some '\n' || (crlf && before = some '\r' && after ≠ some '\n')
  | lineEnd false => after.isNone || after = some '\n'
  | lineEnd true => after.isNone || after = some '\r' || (after = some '\n' && before ≠ some '\r')
  | word side unicode =>
    wordHolds side (before.any (isWordChar unicode)) (after.any (isWordChar unicode))

end Look

/-- A mark for each place of a text. -/
abbrev Marks := List Bool

namespace Marks

def or (m n : Marks) : Marks := List.zipWith (· || ·) m n

/-- Applies `f` up to `n` times, and no more once nothing changes. -/
def iterate (f : Marks → Marks) : Nat → Marks → Marks
  | 0, m => m
  | n + 1, m => if f m = m then m else iterate f n (f m)

end Marks

namespace Expr

/-- The characters before and after each place. -/
def sides (text : List Char) : List (Option Char × Option Char) :=
  List.zip (none :: text.map some) (text.map some ++ [none])

/-- The places where a match ends that starts at a marked place. -/
def run (text : List Char) : Expr → Marks → Marks
  | empty, m => m
  | chars s, m => false :: List.zipWith (fun c b => b && s.contains c) text m
  | look l, m => List.zipWith (fun p b => b && l.holds p.1 p.2) (sides text) m
  | seq a b, m => b.run text (a.run text m)
  | alt a b, m => (a.run text m).or (b.run text m)
  | times min max e, m =>
    let more (n : Marks) : Marks := n.or (e.run text n)
    Marks.iterate more ((max.map (· - min)).getD (text.length + 1))
      (Marks.iterate (e.run text) min m)
  | capture e, m => e.run text m

/-- Whether an expression matches anywhere in a text. -/
def matchesIn (e : Expr) (text : String) : Bool :=
  let cs := text.toList
  (e.run cs (List.replicate (cs.length + 1) true)).any id

/-- The expression that matches one text and no other. -/
def ofChars : List Char → Expr
  | [] => empty
  | [c] => chars (.one c)
  | c :: r => seq (chars (.one c)) (ofChars r)

end Expr

end Outline.Regex
