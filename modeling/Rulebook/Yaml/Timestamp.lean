/-!
# YAML timestamps

A timestamp is a date, or a date with a time of day, which may be given relative to universal time.
`Timestamp.fields?` reads the written form, `Timestamp.ofFields` refuses what no calendar has, and
`render` and `text` write a timestamp in its two printed forms.
-/

namespace Rulebook.Yaml

/-- A day. -/
structure Date where
  year : Nat
  month : Nat
  day : Nat
  deriving DecidableEq, Repr, Inhabited

/-- A time of day. -/
structure TimeOfDay where
  hour : Nat
  minute : Nat
  second : Nat
  microsecond : Nat
  /-- The minutes ahead of universal time, if they are given. -/
  offset : Option Int
  deriving DecidableEq, Repr, Inhabited

/-- A timestamp, or the fields of one that may not exist. -/
structure Timestamp where
  date : Date
  time : Option TimeOfDay
  deriving DecidableEq, Repr, Inhabited

namespace Timestamp

/-! ### Reading -/

/-- The number that decimal digits write. -/
def number (digits : List Char) : Nat :=
  digits.foldl (fun n x => n * 10 + (x.toNat - '0'.toNat)) 0

/-- Reads between `least` and `most` digits, and as many as there are. -/
def digits? (least most : Nat) (s : List Char) : Option (List Char × List Char) :=
  let run := (s.takeWhile Char.isDigit).take most
  if least ≤ run.length then some (run, s.drop run.length) else none

/-- Reads a number of between `least` and `most` digits behind the character `mark`. -/
def numberAfter? (mark : Char) (least most : Nat) (s : List Char) : Option (Nat × List Char) :=
  match s with
  | x :: rest =>
    if x = mark then (digits? least most rest).map fun (run, left) => (number run, left) else none
  | [] => none

/-- Whether a character is a space or a tab. -/
def isSpace (x : Char) : Bool :=
  x = ' ' || x = '\t'

/-- Reads what stands between a date and a time: a letter, or spaces. -/
def separator? (s : List Char) : Option (List Char) :=
  match s with
  | x :: rest =>
    if x = 'T' || x = 't' then some rest
    else if isSpace x then some (rest.dropWhile isSpace)
    else none
  | [] => none

/-- Reads a fraction of a second, in microseconds. -/
def fraction (s : List Char) : Nat × List Char :=
  match s with
  | '.' :: rest =>
    let run := rest.takeWhile Char.isDigit
    let digits := run.take 6
    (number digits * Nat.pow 10 (6 - digits.length), rest.drop run.length)
  | _ => (0, s)

/-- Reads the distance from universal time, up to the end. -/
def offset? (s : List Char) : Option (Option Int) :=
  match s.dropWhile isSpace with
  | [] => if s.isEmpty then some none else none
  | ['Z'] => some (some 0)
  | sign :: rest => do
    let (hours, left) ← digits? 1 2 rest
    let (minutes, left) ← if left.isEmpty then some (0, []) else numberAfter? ':' 2 2 left
    let size : Int := number hours * 60 + minutes
    if left ≠ [] then none
    else if sign = '+' then some (some size)
    else if sign = '-' then some (some (-size))
    else none

/-- Reads a time of day, up to the end. -/
def time? (s : List Char) : Option TimeOfDay := do
  let (hour, s) ← digits? 1 2 s
  let (minute, s) ← numberAfter? ':' 2 2 s
  let (second, s) ← numberAfter? ':' 2 2 s
  let (microsecond, s) := fraction s
  return ⟨number hour, minute, second, microsecond, ← offset? s⟩

/-- The fields of a written timestamp. Month and day have one digit or two. -/
def fields? (s : List Char) : Option Timestamp := do
  let (year, s) ← digits? 4 4 s
  let (month, s) ← numberAfter? '-' 1 2 s
  let (day, s) ← numberAfter? '-' 1 2 s
  let date : Date := ⟨number year, month, day⟩
  if s.isEmpty then return ⟨date, none⟩
  else return ⟨date, some (← time? (← separator? s))⟩

/-- Whether a plain scalar is a timestamp: a date alone is written with ten characters. -/
def isWritten (s : List Char) : Bool :=
  match fields? s with
  | some t => t.time.isSome || s.length = 10
  | none => false

/-! ### What the calendar has -/

/-- Why a timestamp does not exist. -/
inductive Fault where
  | year (value : Nat)
  | month
  | day
  | hour
  | minute
  | second
  | offset (minutes : Int)
  deriving DecidableEq, Repr

/-- Whether a year has a day more. -/
def isLeapYear (year : Nat) : Bool :=
  year % 4 = 0 && (year % 100 ≠ 0 || year % 400 = 0)

/-- The number of days of a month. -/
def daysIn (year month : Nat) : Nat :=
  if month = 2 then if isLeapYear year then 29 else 28
  else if [4, 6, 9, 11].contains month then 30
  else 31

/-- What is wrong with a date. -/
def dateFault? (d : Date) : Option Fault :=
  if d.year = 0 then some (.year d.year)
  else if d.month = 0 || d.month > 12 then some .month
  else if d.day = 0 || d.day > daysIn d.year d.month then some .day
  else none

/-- What is wrong with a time of day. -/
def timeFault? (t : TimeOfDay) : Option Fault :=
  if t.hour > 23 then some .hour
  else if t.minute > 59 then some .minute
  else if t.second > 59 then some .second
  else none

/-- What is wrong with a distance from universal time: it has to be less than a day. -/
def offsetFault? (t : TimeOfDay) : Option Fault :=
  match t.offset with
  | some minutes => if minutes.natAbs ≥ 1440 then some (.offset minutes) else none
  | none => none

/-- The timestamp with given fields, if it exists. -/
def ofFields (t : Timestamp) : Except Fault Timestamp :=
  match (t.time.bind offsetFault?).or ((dateFault? t.date).or (t.time.bind timeFault?)) with
  | some fault => .error fault
  | none => .ok t

/-! ### Printing -/

/-- A length of time in minutes, in days and seconds of which only the days may be negative. -/
def renderSpan (minutes : Int) : String :=
  let days := minutes.fdiv 1440
  let seconds := minutes.fmod 1440 * 60
  let parts := (if days ≠ 0 then ["days=" ++ toString days] else []) ++
    (if seconds ≠ 0 then ["seconds=" ++ toString seconds] else [])
  "datetime.timedelta(" ++ (if parts.isEmpty then "0" else ", ".intercalate parts) ++ ")"

/-- A fault in words. -/
def Fault.message : Fault → String
  | .year value => "year " ++ toString value ++ " is out of range"
  | .month => "month must be in 1..12"
  | .day => "day is out of range for month"
  | .hour => "hour must be in 0..23"
  | .minute => "minute must be in 0..59"
  | .second => "second must be in 0..59"
  | .offset minutes =>
    "offset must be a timedelta strictly between -timedelta(hours=24) and " ++
      "timedelta(hours=24), not " ++ renderSpan minutes ++ "."

/-- A timestamp with the names of its fields' type. Seconds and microseconds are left out where
they are zero. -/
def render (t : Timestamp) : String :=
  let date := [t.date.year, t.date.month, t.date.day].map toString
  match t.time with
  | none => "datetime.date(" ++ ", ".intercalate date ++ ")"
  | some time =>
    let fine :=
      if time.microsecond ≠ 0 then [time.second, time.microsecond]
      else if time.second ≠ 0 then [time.second]
      else []
    let zone :=
      match time.offset with
      | none => []
      | some 0 => ["tzinfo=datetime.timezone.utc"]
      | some minutes => ["tzinfo=datetime.timezone(" ++ renderSpan minutes ++ ")"]
    "datetime.datetime(" ++
      ", ".intercalate (date ++ ([time.hour, time.minute] ++ fine).map toString ++ zone) ++ ")"

/-- A number with zeros in front, up to a width. -/
def padded (width n : Nat) : String :=
  let digits := Nat.toDigits 10 n
  String.ofList (List.replicate (width - digits.length) '0' ++ digits)

/-- A timestamp as it is written. -/
def text (t : Timestamp) : String :=
  let date := "-".intercalate [padded 4 t.date.year, padded 2 t.date.month, padded 2 t.date.day]
  match t.time with
  | none => date
  | some time =>
    let zone :=
      match time.offset with
      | none => ""
      | some minutes =>
        (if minutes < 0 then "-" else "+") ++ padded 2 (minutes.natAbs / 60) ++ ":" ++
          padded 2 (minutes.natAbs % 60)
    let clock := [padded 2 time.hour, padded 2 time.minute, padded 2 time.second]
    date ++ " " ++ ":".intercalate clock ++
      (if time.microsecond ≠ 0 then "." ++ padded 6 time.microsecond else "") ++ zone

/-- The minutes since the first day of the calendar, up to the offset. -/
def minutes (t : Timestamp) (time : TimeOfDay) : Int :=
  let y := t.date.year - 1
  let daysBefore := y * 365 + y / 4 - y / 100 + y / 400
  let months := ((List.range t.date.month).drop 1).map (daysIn t.date.year)
  let days := daysBefore + months.foldr (· + ·) 0 + t.date.day
  (days * 1440 + time.hour * 60 + time.minute : Nat)

/-- Whether two timestamps are the same: those relative to universal time are compared there. -/
def same (s t : Timestamp) : Bool :=
  match s.time, t.time with
  | some a, some b =>
    match a.offset, b.offset with
    | some p, some q =>
      s.minutes a - p = t.minutes b - q && a.second = b.second && a.microsecond = b.microsecond
    | _, _ => s = t
  | _, _ => s = t

end Timestamp

end Rulebook.Yaml
