import Outline.Ruby.Opened
import Outline.Text.Cursor

/-! Recognising marks from their surroundings: what the parser expects, the blanks before the place,
and what is open there. The character NUL stands for the end of the text. -/
namespace Outline.Ruby

open Text

/-- The marks that the parser expects, and whether it expects a division. -/
structure Expected where
  marks : Nat
  slash : Bool

def Expected.has (e : Expected) (m : Mark) : Bool := e.marks.testBit m.index

/-- A mark recognised in the text, and what is open after it. -/
structure Recognised where
  mark : Mark
  start : Offset
  stop : Offset
  opened : Opened

/-! ### Character classes -/

def isBlank (c : Char) : Bool := c = ' ' || (9 ≤ c.toNat && c.toNat ≤ 13)

/-- The characters that end a name. -/
def nameEnders : List Char :=
  "\x00\n\r\t :;`\"'@$#.,|^&<=>+-*/\\%?!~()[]\x7b\x7d".toList

/-- Whether a character goes on with a name: its low byte decides. -/
def inName (c : Char) : Bool := !nameEnders.any fun d => d.toNat = c.toNat % 256

def wordChar (c : Char) : Bool := c.isAlphanum || c = '_'

/-- The single characters that name a global variable. -/
def globalSpecials : List Char := "\x00!@&`'+~=/\\,;.<>*$?:\"".toList

/-! ### Reading -/

/-- A place in the text while a mark is sought. -/
structure Reader where
  cur : Cursor
  start : Offset
  /-- Where the mark ends, once that is settled. -/
  stop : Option Offset := none
  /-- Whether blanks came before the place. -/
  spaced : Bool := false

namespace Reader

def look (r : Reader) : Char := r.cur.peek.getD '\x00'
def atEnd (r : Reader) : Bool := r.cur.atEnd
def next (r : Reader) : Reader := { r with cur := r.cur.next }
def skip (r : Reader) : Reader :=
  let k := r.cur.next
  { r with cur := k, start := k.pos, spaced := true }
/-- Settles that the mark ends here. -/
def settle (r : Reader) : Reader := { r with stop := some r.cur.pos }
def nextIf (r : Reader) (p : Char → Bool) : Reader := if p r.look then r.next else r
def nextWhile (r : Reader) (p : Char → Bool) : Reader := { r with cur := r.cur.skipWhile p }

/-- The mark found, from where it starts to where it was settled to end, or up to the place. -/
def found (r : Reader) (m : Mark) (o : Opened) : Recognised :=
  let stop := r.stop.getD r.cur.pos
  ⟨m, if stop.bytes < r.start.bytes then stop else r.start, stop, o⟩

end Reader

/-! ### Inside literals -/

/-- A variable interpolated without braces, after its `#`. Contents read so far end before the `#`;
else the mark is empty and stands before the variable. -/
def shortInterpolation (r : Reader) (content : Option Mark) : Reader × Option Mark :=
  let sigil := r.look
  if sigil = '@' || sigil = '$' then
    match content with
    | some m => (r, some m)
    | none =>
      let r := r.settle.next
      let (r, isVariable) :=
        if sigil = '$' then
          if globalSpecials.contains r.look then (r, true)
          else if r.look = '-' then
            let r := r.next
            (r, r.look.isAlpha || r.look = '_')
          else (r, wordChar r.look)
        else
          let r := r.nextIf (· = '@')
          (r, inName r.look && !r.look.isDigit)
      (r, if isVariable then some .shortInterpolation else none)
  else (r, none)

/-- Contents or end of the innermost literal. The fuel bounds the characters left and the delimiters
due. -/
def literalContents (outer : List Quote) (rest : Opened) :
    Nat → Quote → Bool → Reader → Option Recognised
  | 0, _, _, _ => none
  | n + 1, q, nonempty, r =>
    let keep (r : Reader) (m : Mark) := some (r.found m { rest with quotes := outer ++ [q] })
    let inWords := q.kind = .stringArrayStart || q.kind = .symbolArrayStart
    if inWords && isBlank r.look then
      if nonempty then keep r.settle .stringContent else none
    else if r.look = q.closing then
      let r := r.settle
      if q.depth = 1 then
        if nonempty then keep r .stringContent
        else
          let r := r.next
          let r := if q.kind = .regexStart then r.nextWhile Char.isLower else r
          some (r.settle.found .stringEnd { rest with quotes := outer })
      else literalContents outer rest n { q with depth := q.depth - 1 } true r.next
    else if r.look = q.opening then
      literalContents outer rest n { q with depth := q.depth + 1 } true r.next
    else if q.interpolates && r.look = '#' then
      let r := r.settle.next
      if r.look = '\x7b' then (if nonempty then keep r .stringContent else none)
      else match shortInterpolation r (if nonempty then some .stringContent else none) with
        | (r, some m) => keep r m
        | (r, none) => literalContents outer rest n q true r
    else if r.look = '\\' then
      if q.interpolates then
        if nonempty then keep r.settle .stringContent else none
      else literalContents outer rest n q true r.next.next
    else if r.atEnd then none
    else literalContents outer rest n q true r.next

/-- Contents or end of the first here-document. `left` is what is still to match of its word, and
`atWord` says that the word may stand here. -/
def heredocContents (h : Heredoc) (o : Opened) :
    Nat → List Nat → Bool → Bool → Reader → Option Recognised
  | 0, _, _, _, _ => none
  | n + 1, left, atWord, nonempty, r =>
    let finish (r : Reader) : Option Recognised :=
      if nonempty then some (r.found .heredocContent o)
      else some (r.found .heredocEnd { o with heredocs := o.heredocs.drop 1 })
    let content (r : Reader) : Option Recognised :=
      if nonempty then some (r.found .heredocContent o) else none
    match left with
    | [] =>
      let r := (if nonempty then r else r.settle).nextWhile fun c => c = ' ' || c = '\t'
      if r.look = '\n' || r.look = '\r' || r.atEnd then finish r
      else heredocContents h o n h.word atWord true r
    | b :: left' =>
      if r.atEnd then finish r.settle
      else if atWord && b < 128 && r.look.toNat = b then
        heredocContents h o n left' atWord nonempty r.next
      else if h.interpolates && r.look = '\\' then content r
      else if h.interpolates && r.look = '#' then
        let r := r.settle.next
        if r.look = '\x7b' then content r
        else match shortInterpolation r (if nonempty then some .heredocContent else none) with
          | (r, some m) => some (r.found m o)
          | (r, none) => heredocContents h o n h.word false nonempty r
      else if r.look = '\r' || r.look = '\n' then
        let r := if r.look = '\r' then r.next.nextIf (· = '\n') else r.next
        let blank (c : Char) : Bool := c = ' ' || c = '\t'
        let atWord := h.indented || !blank r.look
        heredocContents h o n h.word atWord true (r.nextWhile blank).settle
      else heredocContents h o n h.word false true r.next.settle

/-! ### Blanks and line breaks -/

/-- Skips blanks. A line break that may end a statement does so unless the next line goes on with a
call or is a comment; the body of a here-document begins at the first line break after it. -/
def blanks (e : Expected) (waiting : Bool) : Nat → Bool → Reader → Option (Reader × Option Mark)
  | 0, _, _ => none
  | n + 1, crossed, r =>
    let breaks := !e.has .noLineBreak && e.has .lineBreak
    if breaks && r.cur.pos.bytes = 0 then some (r.settle, some .lineBreak)
    else
      let c := r.look
      if c = ' ' || c = '\t' then blanks e waiting n crossed r.skip
      else if c = '\r' then
        if waiting then some (r, some .heredocBodyStart) else blanks e waiting n crossed r.skip
      else if c = '\n' then
        if waiting then some (r, some .heredocBodyStart)
        else if breaks && !crossed then blanks e waiting n true r.settle.next
        else blanks e waiting n crossed r.skip
      else if c = '\\' then
        let r := r.next
        let r := if r.look = '\r' then r.skip else r
        if isBlank r.look then blanks e waiting n crossed r.skip else none
      else if crossed then
        if c = '.' then
          let r := r.next
          if !r.atEnd && r.look = '.' then some (r, some .lineBreak) else none
        else if c = '&' then
          let r := r.next
          if !r.atEnd && r.look ≠ '.' then some (r, some .lineBreak) else none
        else if c = '#' then some (r, none)
        else some (r, some .lineBreak)
      else some (r, none)

/-! ### Symbols, literals and here-documents -/

/-- An operator that may name a method. -/
def operatorName (r : Reader) : Option Reader :=
  match r.look with
  | '<' =>
    let r := r.next
    if r.look = '<' then some r.next
    else if r.look = '=' then some (r.next.nextIf (· = '>'))
    else some r
  | '>' => some (r.next.nextIf fun c => c = '>' || c = '=')
  | '=' =>
    let r := r.next
    if r.look = '~' then some r.next
    else if r.look = '=' then some (r.next.nextIf (· = '='))
    else none
  | '+' | '-' | '~' => some (r.next.nextIf (· = '@'))
  | '.' => let r := r.next; if r.look = '.' then some r.next else none
  | '&' | '^' | '|' | '/' | '%' | '`' => some r.next
  | '!' => some (r.next.nextIf fun c => c = '=' || c = '~')
  | '*' => some (r.next.nextIf (· = '*'))
  | '[' => let r := r.next; if r.look = ']' then some (r.next.nextIf (· = '=')) else none
  | _ => none

/-- The name after the colon of a symbol. A final `=` belongs to it unless it begins `=~`, `=>` or
`==`. -/
def symbolName (r : Reader) : Option Reader :=
  let r := if r.look = '@' then r.next.nextIf (· = '@') else r.nextIf (· = '$')
  let head := if inName r.look && !r.atEnd then some r.next else operatorName r
  head.map fun r =>
    let r := (r.nextWhile inName).nextIf fun c => c = '?' || c = '!'
    if r.look = '=' then
      let r := r.settle.next
      if r.look ≠ '~' && r.look ≠ '>' && r.look ≠ '=' then r.settle else r
    else r.settle

/-- The characters that may delimit a literal on both sides. -/
def plainDelimiters : List Char := "|!#/\\@$%^&*)]\x7d>=+-~`,.?:;_\"'".toList

/-- The delimiters of a literal after `%` and its letter. -/
def percentDelimiters (e : Expected) (kind : Mark) (interpolates : Bool) (r : Reader) :
    Option (Quote × Reader) :=
  let quote (a b : Char) : Quote := { kind, opening := a, closing := b, interpolates }
  match r.look with
  | '(' => some (quote '(' ')', r.next)
  | '[' => some (quote '[' ']', r.next)
  | '\x7b' => some (quote '\x7b' '\x7d', r.next)
  | '<' => some (quote '<' '>', r.next)
  | c =>
    if c = '\r' || c = '\n' || c = ' ' || c = '\t' then
      if e.slash then none else some (quote '\x00' '\x00', r.next)
    else if plainDelimiters.contains c then some (quote c c, r.next)
    else none

/-- The opening of a quoted literal. -/
def quoteStart (e : Expected) (r : Reader) : Option (Quote × Reader) :=
  let plain (kind : Mark) (c : Char) (interpolates : Bool) : Option (Quote × Reader) :=
    some ({ kind, opening := c, closing := c, interpolates }, r.next)
  match r.look with
  | '"' => plain .stringStart '"' true
  | '\'' => plain .stringStart '\'' false
  | '`' => if e.has .subshellStart then plain .subshellStart '`' true else none
  | '/' =>
    if !e.has .regexStart then none
    else
      let c := r.next.look
      if e.slash && (!r.spaced || c = ' ' || c = '\t' || c = '\n' || c = '\r' || c = '=') then none
      else plain .regexStart '/' true
  | '%' =>
    let r := r.next
    let lettered (m : Mark) (ok interpolates : Bool) :=
      if ok then percentDelimiters e m interpolates r.next else none
    match r.look with
    | 's' => lettered .symbolStart (e.has .simpleSymbol) false
    | 'r' => lettered .regexStart (e.has .regexStart) true
    | 'x' => lettered .subshellStart (e.has .subshellStart) true
    | 'q' => lettered .stringStart true false
    | 'Q' => lettered .stringStart true true
    | 'w' => lettered .stringArrayStart (e.has .stringArrayStart) false
    | 'i' => lettered .symbolArrayStart (e.has .symbolArrayStart) false
    | 'W' => lettered .stringArrayStart (e.has .stringArrayStart) true
    | 'I' => lettered .symbolArrayStart (e.has .symbolArrayStart) true
    | _ => percentDelimiters e .stringStart true r
  | _ => none

/-- The characters between two places of one text. -/
def between (a b : Cursor) : List Char := a.rest.take (a.rest.length - b.rest.length)

/-- The word of a here-document, bare or in quotes. -/
def heredocWord (r : Reader) (indented : Bool) : Option (Heredoc × Reader) :=
  let c := r.look
  let bytes (cs : List Char) : List Nat := cs.map fun d => d.toNat % 256
  if c = '\'' || c = '"' || c = '`' then
    let a := r.next
    let b := a.nextWhile (· ≠ c)
    let word := bytes (between a.cur b.cur)
    if word.isEmpty then none
    else some ({ word, indented, interpolates := c ≠ '\'' }, b.next)
  else if wordChar c then
    let b := r.nextWhile wordChar
    some ({ word := bytes (between r.cur b.cur), indented, interpolates := true }, b)
  else none

/-! ### Marks -/

/-- One or two stars: operators after a value, splats before one. -/
def stars (e : Expected) (r : Reader) : Option (Mark × Reader) :=
  let pick (r : Reader) (operator splat : Mark) : Option (Mark × Reader) :=
    if e.has operator && !r.spaced then some (operator, r)
    else if e.has splat && !isBlank r.look then some (splat, r)
    else if e.has operator then some (operator, r)
    else if e.has splat then some (splat, r)
    else none
  let r := r.next
  if r.look = '=' then none
  else if r.look = '*' then
    if e.has .doubleSplat || e.has .power then
      let r := r.next
      if r.look = '=' then none else pick r .power .doubleSplat
    else none
  else pick r .binaryStar .splatStar

/-- A dash: a sign before a number or an operand, or an operator. -/
def dash (e : Expected) (r : Reader) : Option (Mark × Reader) :=
  let r := r.next
  if r.look = '=' || r.look = '>' then none
  else if e.has .unaryMinusNumber && (!e.has .binaryStar || r.spaced) && r.look.isDigit then
    some (.unaryMinusNumber, r)
  else if e.has .unaryMinus && r.spaced && !isBlank r.look then some (.unaryMinus, r)
  else if e.has .binaryMinus then some (.binaryMinus, r)
  else some (.unaryMinus, r)

/-- A word that ends in `:` as a key, or in `?` or `!` as a method. -/
def suffixedWord (e : Expected) (r : Reader) : Option (Mark × Reader) :=
  let suffixed := if r.look.isUpper then Mark.constantSuffix else .identifierSuffix
  let w := r.nextWhile wordChar
  if e.has .hashKeySymbol && w.look = ':' then
    let w := w.settle.next
    if w.look ≠ ':' then some (.hashKeySymbol, w) else none
  else if e.has suffixed && w.look = '!' then
    let w := w.next
    if w.look ≠ '=' then some (suffixed, w) else none
  else if e.has suffixed && w.look = '?' && between r.cur w.cur ≠ "defined".toList then
    let w := w.next
    if w.look ≠ '=' then some (suffixed, w)
    else
      let w := w.settle.next
      if w.look = '=' || w.look = '~' || w.look = '>' then some (suffixed, w) else none
  else none

/-- A literal or here-document that opens here. -/
def opening (e : Expected) (o : Opened) (r : Reader) : Option Recognised :=
  if r.look = '<' then
    let r := r.next
    if r.look ≠ '<' then none
    else
      let r := r.next
      let indented := r.look = '-' || r.look = '~'
      (heredocWord (if indented then r.next else r) indented).map fun (h, r) =>
        r.found .heredocBeginning { o with heredocs := o.heredocs ++ [h] }
  else (quoteStart e r).map fun (q, r) =>
    r.found q.kind { o with quotes := o.quotes ++ [q] }

/-- A mark that starts after the blanks. -/
def startingMark (e : Expected) (o : Opened) (r : Reader) : Option Recognised :=
  let plain (x : Option (Mark × Reader)) : Option Recognised := x.map fun (m, r) => r.found m o
  let symbol (q : Quote) (r : Reader) : Option Recognised :=
    some (r.found .symbolStart { o with quotes := o.quotes ++ [q] })
  let c := r.look
  if c = '&' && e.has .blockAmpersand then
    let n := r.next
    if n.look ≠ '&' && n.look ≠ '.' && n.look ≠ '=' && (r.spaced || !isBlank n.look) then
      some (n.found .blockAmpersand o)
    else none
  else if c = '<' && e.has .openSingleton then
    let n := r.next
    if n.look = '<' then some (n.next.found .openSingleton o) else none
  else if c = '*' &&
      (e.has .splatStar || e.has .binaryStar || e.has .doubleSplat || e.has .power) then
    plain (stars e r)
  else if c = '-' && (e.has .unaryMinus || e.has .unaryMinusNumber || e.has .binaryMinus) then
    plain (dash e r)
  else if c = ':' && e.has .symbolStart then
    let n := r.next
    if n.look = '"' then
      symbol { kind := .symbolStart, opening := '"', closing := '"', interpolates := true } n.next
    else if n.look = '\'' then
      symbol { kind := .symbolStart, opening := '\'', closing := '\'' } n.next
    else plain ((symbolName n).map fun r => (.simpleSymbol, r))
  else if c = '[' && e.has .indexBracket && (!r.spaced || !e.has .stringStart) then
    some (r.next.found .indexBracket o)
  else if (e.has .hashKeySymbol || e.has .identifierSuffix) && (c.isAlpha || c = '_') ||
      e.has .constantSuffix && c.isUpper then
    plain (suffixedWord e r)
  else if e.has .stringStart then opening e o r
  else none

/-- The mark at a place of the text, if one of those expected is there. -/
def recognise (e : Expected) (o : Opened) (k : Cursor) : Option Recognised :=
  let start := k.pos
  let k := if start.bytes = 0 && k.sees '\uFEFF' then k.next else k
  let r : Reader := { cur := k, start := k.pos }
  let fuel := k.rest.length + 2
  let inQuote := !e.has .stringStart && (e.has .stringContent || e.has .stringEnd)
  let inHeredoc := !e.has .stringStart && (e.has .heredocContent || e.has .heredocEnd)
  match inQuote, o.quotes.getLast?, inHeredoc, o.heredocs.head? with
  | true, some q, _, _ =>
    literalContents o.quotes.dropLast o (fuel + q.depth) q false r
  | _, _, true, some h => heredocContents h o (2 * fuel) h.word true false r
  | _, _, _, _ =>
    let waiting := e.has .heredocBodyStart && (o.heredocs.head?.map (!·.started)).getD false
    match blanks e waiting fuel false r with
    | none => none
    | some (r, some .heredocBodyStart) =>
      some (r.found .heredocBodyStart
        { o with heredocs := o.heredocs.modifyHead fun h => { h with started := true } })
    | some (r, some m) => some (r.found m o)
    | some (r, none) => startingMark e o r

end Outline.Ruby
