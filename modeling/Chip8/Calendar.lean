namespace Chip8.Calendar

inductive Refusal where
  | year (year : Nat)
  | month
  | day
  | hour
  | minute
  | second
  | offset (seconds : Int)
  deriving DecidableEq, Repr

structure Date where
  year : Nat
  month : Nat
  day : Nat
  deriving DecidableEq, Repr

/-- `offset` is how many seconds the clock is ahead of universal time, if that is known. -/
structure Moment where
  date : Date
  hour : Nat
  minute : Nat
  second : Nat
  microsecond : Nat
  offset : Option Int
  deriving DecidableEq, Repr

def isLeap (year : Nat) : Bool := year % 4 == 0 && (year % 100 != 0 || year % 400 == 0)

def daysIn (year month : Nat) : Nat :=
  if month = 2 then if isLeap year then 29 else 28
  else if month = 4 ∨ month = 6 ∨ month = 9 ∨ month = 11 then 30
  else 31

def Date.check (date : Date) : Except Refusal Date :=
  if date.year < 1 ∨ 9999 < date.year then .error (.year date.year)
  else if date.month < 1 ∨ 12 < date.month then .error .month
  else if date.day < 1 ∨ daysIn date.year date.month < date.day then .error .day
  else .ok date

def Moment.check (moment : Moment) : Except Refusal Moment := do
  match moment.offset with
  | some seconds => if 86400 ≤ seconds.natAbs then throw (.offset seconds)
  | none => pure ()
  let _ ← moment.date.check
  if 23 < moment.hour then throw .hour
  if 59 < moment.minute then throw .minute
  if 59 < moment.second then throw .second
  return moment

def Date.dayNumber (date : Date) : Nat :=
  let before := date.year - 1
  before * 365 + before / 4 - before / 100 + before / 400 +
    (List.range (date.month - 1)).foldl (fun days month => days + daysIn date.year (month + 1)) 0 +
    date.day

/-- Microseconds on the universal clock, or on the local one where no offset is known. -/
def Moment.instant (moment : Moment) : Int :=
  ((((moment.date.dayNumber * 24 + moment.hour) * 60 + moment.minute) * 60 + moment.second : Nat) -
    moment.offset.getD 0) * 1000000 + moment.microsecond

/-- A moment with an offset is never the same as one without. -/
def Moment.same (left right : Moment) : Bool :=
  left.offset.isSome == right.offset.isSome && left.instant == right.instant

def padded (width value : Nat) : String :=
  let digits := Nat.toDigits 10 value
  String.ofList (List.replicate (width - digits.length) '0' ++ digits)

def Date.text (date : Date) : String :=
  padded 4 date.year ++ "-" ++ padded 2 date.month ++ "-" ++ padded 2 date.day

def offsetText (seconds : Int) : String :=
  let minutes := seconds.natAbs / 60
  (if seconds < 0 then "-" else "+") ++ padded 2 (minutes / 60) ++ ":" ++ padded 2 (minutes % 60)

def Moment.text (moment : Moment) : String :=
  moment.date.text ++ " " ++ padded 2 moment.hour ++ ":" ++ padded 2 moment.minute ++ ":" ++
    padded 2 moment.second ++
    (if moment.microsecond = 0 then "" else "." ++ padded 6 moment.microsecond) ++
    (moment.offset.map offsetText).getD ""

def durationParts (seconds : Int) : List String :=
  let days := seconds / 86400
  let rest := seconds % 86400
  (if days = 0 then [] else ["days=" ++ toString days]) ++
    (if rest = 0 then [] else ["seconds=" ++ toString rest])

def durationCall (seconds : Int) : String :=
  "datetime.timedelta(" ++ ", ".intercalate (durationParts seconds) ++ ")"

def Date.arguments (date : Date) : List String :=
  [toString date.year, toString date.month, toString date.day]

def Date.call (date : Date) : String :=
  "datetime.date(" ++ ", ".intercalate date.arguments ++ ")"

/-- Seconds and microseconds are left out from the end while they are 0. -/
def Moment.call (moment : Moment) : String :=
  let fine :=
    if moment.microsecond ≠ 0 then [toString moment.second, toString moment.microsecond]
    else if moment.second ≠ 0 then [toString moment.second] else []
  let zone := match moment.offset with
    | none => []
    | some seconds =>
      if seconds = 0 then ["tzinfo=datetime.timezone.utc"]
      else ["tzinfo=datetime.timezone(" ++ durationCall seconds ++ ")"]
  "datetime.datetime(" ++
    ", ".intercalate
      (moment.date.arguments ++ [toString moment.hour, toString moment.minute] ++ fine ++ zone) ++
    ")"

def Refusal.message : Refusal → String
  | .year number => "year " ++ toString number ++ " is out of range"
  | .month => "month must be in 1..12"
  | .day => "day is out of range for month"
  | .hour => "hour must be in 0..23"
  | .minute => "minute must be in 0..59"
  | .second => "second must be in 0..59"
  | .offset ahead =>
    "offset must be a timedelta strictly between -timedelta(hours=24) and timedelta(hours=24), " ++
      "not " ++ durationCall ahead ++ "."

end Chip8.Calendar
