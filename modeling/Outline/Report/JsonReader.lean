import Outline.Report.Json

/-! Reading JSON. Blanks between tokens do not count; of numbers only those without sign, fraction
and exponent are read. -/
namespace Outline.Report.Json

def isSpace (c : Char) : Bool := c = ' ' || c = '\n' || c = '\r' || c = '\t'

def skipSpace (cs : List Char) : List Char := cs.dropWhile isSpace

def hexValue? (c : Char) : Option Nat :=
  if '0' ≤ c && c ≤ '9' then some (c.toNat - 48)
  else if 'a' ≤ c && c ≤ 'f' then some (c.toNat - 87)
  else if 'A' ≤ c && c ≤ 'F' then some (c.toNat - 55)
  else none

/-- The code unit of four hexadecimal digits. -/
def readUnit : List Char → Option (Nat × List Char)
  | a :: b :: c :: d :: r => do
    let n :=
      16 * (16 * (16 * (← hexValue? a) + (← hexValue? b)) + (← hexValue? c)) + (← hexValue? d)
    return (n, r)
  | _ => none

/-- The character of an escape after its backslash. A character past the first plane takes two code
units. -/
def readEscape : List Char → Option (Char × List Char)
  | '"' :: r => some ('"', r)
  | '\\' :: r => some ('\\', r)
  | '/' :: r => some ('/', r)
  | 'b' :: r => some ('\x08', r)
  | 'f' :: r => some ('\x0c', r)
  | 'n' :: r => some ('\n', r)
  | 'r' :: r => some ('\r', r)
  | 't' :: r => some ('\t', r)
  | 'u' :: r => do
    let (n, r) ← readUnit r
    if n < 0xd800 || 0xdfff < n then return (Char.ofNat n, r)
    else if n < 0xdc00 then
      match r with
      | '\\' :: 'u' :: t => do
        let (m, t) ← readUnit t
        if 0xdc00 ≤ m && m ≤ 0xdfff then
          return (Char.ofNat (0x10000 + 1024 * (n - 0xd800) + (m - 0xdc00)), t)
        else none
      | _ => none
    else none
  | _ => none

/-- The rest of a string after its opening quote. -/
def readString : Nat → List Char → Option (List Char × List Char)
  | 0, _ => none
  | _ + 1, [] => none
  | _ + 1, '"' :: r => some ([], r)
  | fuel + 1, '\\' :: r => do
    let (c, r) ← readEscape r
    let (s, r) ← readString fuel r
    return (c :: s, r)
  | fuel + 1, c :: r =>
    if c.toNat < 32 then none
    else do
      let (s, r) ← readString fuel r
      return (c :: s, r)

/-- A count without leading zeros. -/
def readNumber (cs : List Char) : Option (Nat × List Char) :=
  let digits := cs.takeWhile Char.isDigit
  if digits.isEmpty || (digits.head? = some '0' && 1 < digits.length) then none
  else some (digits.foldl (fun n c => 10 * n + (c.toNat - 48)) 0, cs.drop digits.length)

mutual

def readValue : Nat → List Char → Option (Json × List Char)
  | 0, _ => none
  | fuel + 1, cs =>
    match skipSpace cs with
    | 'n' :: 'u' :: 'l' :: 'l' :: r => some (.null, r)
    | 't' :: 'r' :: 'u' :: 'e' :: r => some (.boolean true, r)
    | 'f' :: 'a' :: 'l' :: 's' :: 'e' :: r => some (.boolean false, r)
    | '"' :: r => do
      let (s, r) ← readString (r.length + 1) r
      return (.string (String.ofList s), r)
    | '[' :: r =>
      match skipSpace r with
      | ']' :: t => some (.array [], t)
      | _ => do
        let (items, t) ← readItems fuel r
        return (.array items, t)
    | '\x7b' :: r =>
      match skipSpace r with
      | '\x7d' :: t => some (.object [], t)
      | _ => do
        let (fields, t) ← readFields fuel r
        return (.object fields, t)
    | r => do
      let (n, t) ← readNumber r
      return (.number n, t)

/-- One item or more, up to the closing bracket. -/
def readItems : Nat → List Char → Option (List Json × List Char)
  | 0, _ => none
  | fuel + 1, cs => do
    let (i, r) ← readValue fuel cs
    match skipSpace r with
    | ',' :: t => do
      let (more, t) ← readItems fuel t
      return (i :: more, t)
    | ']' :: t => return ([i], t)
    | _ => none

/-- One field or more, up to the closing brace. -/
def readFields : Nat → List Char → Option (List (String × Json) × List Char)
  | 0, _ => none
  | fuel + 1, cs =>
    match skipSpace cs with
    | '"' :: r => do
      let (k, r) ← readString (r.length + 1) r
      match skipSpace r with
      | ':' :: r => do
        let (v, r) ← readValue fuel r
        match skipSpace r with
        | ',' :: t => do
          let (more, t) ← readFields fuel t
          return ((String.ofList k, v) :: more, t)
        | '\x7d' :: t => return ([(String.ofList k, v)], t)
        | _ => none
      | _ => none
    | _ => none

end

/-- The value that a text is, with nothing but blanks around it. -/
def read? (s : String) : Option Json := do
  let cs := s.toList
  let (j, r) ← readValue (2 * cs.length + 2) cs
  if (skipSpace r).isEmpty then return j else none

end Outline.Report.Json
