import Outline.Toml.Flaw

/-! Dates and times: `2001-02-03T04:05:06.789+10:00` and its parts. -/
namespace Outline.Toml.Moment

/-- A run of digits, or a single other character. -/
inductive Piece where
  | digits (ds : List Char)
  | mark (c : Char)
deriving Repr, DecidableEq

/-- Divides a text into pieces; `run` holds the digits read so far, last first. -/
def pieces : List Char → (run : List Char) → List Piece
  | [], [] => []
  | [], run => [.digits run.reverse]
  | c :: r, run =>
    if c.isDigit then pieces r (c :: run)
    else if run.isEmpty then .mark c :: pieces r []
    else .digits run.reverse :: .mark c :: pieces r []

abbrev Check := StateT (List Piece) (Except MomentFault)

def refuse {α : Type} (part : Option String) (wanted : Option String) : Check α :=
  throw ⟨part, wanted⟩

/-- The digits that have to come next. -/
def digits (part wanted : String) : Check (List Char) := do
  match ← get with
  | .digits ds :: r => do
    set r
    return ds
  | _ => refuse part wanted

/-- The mark that has to come next. -/
def mark (c : Char) (part wanted : String) : Check Unit := do
  match ← get with
  | .mark d :: r => if d = c then set r else refuse part wanted
  | _ => refuse part wanted

/-- Whether the mark comes next; if so it is taken. -/
def takes (isMark : Char → Bool) : Check Bool := do
  match ← get with
  | .mark d :: r => if isMark d then do set r; return true else return false
  | _ => return false

def number (ds : List Char) : Nat := ds.foldl (fun n c => 10 * n + (c.toNat - '0'.toNat)) 0

def width (ds : List Char) (n : Nat) (part wanted : String) : Check Unit :=
  if ds.length ≠ n then refuse part wanted else return

def within (ds : List Char) (low high : Nat) (part wanted : String) : Check Unit :=
  if number ds < low || high < number ds then refuse part wanted else return

def isLeap (year : Nat) : Bool := year % 4 = 0 && (year % 100 ≠ 0 || year % 400 = 0)

def daysIn (year month : Nat) : Nat :=
  if month = 2 then if isLeap year then 29 else 28
  else if [4, 6, 9, 11].contains month then 30
  else 31

/-- The rest of a date after its year and a dash. -/
def date (year : List Char) : Check Unit := do
  let month ← digits "date" "month"
  mark '-' "date" "`-` (MM-DD)"
  let day ← digits "date" "day"
  width year 4 "date" "a four-digit year (YYYY)"
  width month 2 "date" "a two-digit month (MM)"
  width day 2 "date" "a two-digit day (DD)"
  within month 1 12 "date" "month between 01 and 12"
  let last := daysIn (number year) (number month)
  within day 1 last "date" ("day between 01 and " ++ toString last)

def time : Check Unit := do
  let hour ← digits "time" "hour"
  mark ':' "time" "`:` (HH:MM)"
  let minute ← digits "time" "minute"
  let second ← if ← takes (· = ':') then some <$> digits "time" "second" else pure none
  if second.isSome && (← takes (· = '.')) then
    discard (digits "time" "nanosecond")
  width hour 2 "time" "a two-digit hour (HH)"
  width minute 2 "time" "a two-digit minute (MM)"
  if let some s := second then width s 2 "time" "a two-digit second (SS)"
  within hour 0 23 "time" "hour between 00 and 23"
  within minute 0 59 "time" "minute between 00 and 59"
  if let some s := second then within s 0 60 "time" "second between 00 and 60"

/-- The distance from universal time, if one is given. -/
def offset : Check Unit := do
  if (← get).isEmpty then return
  if ← takes (fun c => c = 'Z' || c = 'z') then return
  if ← takes (fun c => c = '+' || c = '-') then
    let hours ← digits "offset" "hour"
    mark ':' "offset" "`:` (HH:MM)"
    let minutes ← digits "offset" "minute"
    width hours 2 "offset" "a two-digit hour (HH)"
    width minutes 2 "offset" "a two-digit minute (MM)"
    within hours 0 23 "offset" "hours between 00 and 23"
    within minutes 0 59 "offset" "minutes between 00 and 59"
  else refuse "offset" "`Z`, +OFFSET, -OFFSET"

/-- A date, a time, or both and then perhaps an offset. -/
def moment : Check Unit := do
  let all ← get
  match all with
  | .digits first :: .mark '-' :: r => do
    set r
    date first
    if (← get).isEmpty then return
    if !(← takes fun c => ['T', 't', ' '].contains c) then
      refuse "date-time" "`T` between date and time"
    time
    offset
  | .digits _ :: .mark ':' :: _ => time
  | .digits _ :: _ => refuse none "`-` (YYYY-MM) or `:` (HH:MM)"
  | _ => refuse none "year or hour"
  if !(← get).isEmpty then refuse none none

/-- What is wrong with a text as a date or time. -/
def fault? (cs : List Char) : Option MomentFault :=
  match moment.run (pieces cs []) with
  | .ok _ => none
  | .error e => some e

example : fault? "2000-02-29T23:59:60.5-07:30".toList = none := by decide +kernel
example : fault? "07:32".toList = none := by decide +kernel

end Outline.Toml.Moment
