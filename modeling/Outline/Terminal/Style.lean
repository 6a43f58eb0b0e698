/-! Text in colours and weights. -/
namespace Outline.Terminal

inductive Style where
  | bold
  | dimmed
  | underlined
  | red
  | green
  | yellow
  | cyan
deriving Repr, DecidableEq

def Style.code : Style → String
  | bold => "1"
  | dimmed => "2"
  | underlined => "4"
  | red => "31"
  | green => "32"
  | yellow => "33"
  | cyan => "36"

/-- Turns a style on. -/
def Style.start (s : Style) : String := "\x1b[" ++ s.code ++ "m"

/-- Turns all styles off. -/
def reset : String := "\x1b[0m"

/-- Text in a style, if there are styles at all. Where the text itself turns styles off, its own is
turned on again. -/
def paint (coloured : Bool) (s : Style) (text : String) : String :=
  if coloured then s.start ++ text.replace reset (reset ++ s.start) ++ reset else text

/-! ### Text in pieces -/

/-- A stretch of text with its styles. -/
structure Piece where
  styles : List Style := []
  text : String
deriving Repr, DecidableEq

abbrev Styled := List Piece

def plain (text : String) : Styled := [⟨[], text⟩]
def styled (styles : List Style) (text : String) : Styled := [⟨styles, text⟩]

def Piece.render (coloured : Bool) (p : Piece) : String :=
  if coloured && !p.styles.isEmpty then String.join (p.styles.map (·.start)) ++ p.text ++ reset
  else p.text

def Styled.render (coloured : Bool) (t : Styled) : String :=
  String.join (t.map (·.render coloured))

theorem paint_false (s : Style) (text : String) : paint false s text = text := rfl

/-! ### Whether there are styles -/

/-- Environment variables. -/
abbrev Environment := List (String × String)

/-- Whether styles are asked for, terminal or not. -/
def forced (env : Environment) : Bool := (env.lookup "CLICOLOR_FORCE").any (· ≠ "0")

/-- Whether styles are asked for and not refused. -/
def forcedUnlessRefused (env : Environment) : Bool :=
  !(env.lookup "NO_COLOR").any (· ≠ "") && forced env

end Outline.Terminal
