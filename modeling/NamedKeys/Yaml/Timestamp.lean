import NamedKeys.Yaml.Cursor

/-!
# Dates and times

The form in which a document writes a date, alone or with a time of the day and an offset; the dates
and times of the calendar; and the two texts of each.
-/

namespace NamedKeys.Yaml

def numberOfDigits (cs : List Char) : Nat :=
  cs.foldl (fun n c => 10 * n + (c.toNat - 48)) 0

/-! ## The written form -/

/-- A written time of the day: the digits of its parts and of a fraction, and the offset, which is a
sign with hours and minutes, or nothing after a `Z`. -/
structure WrittenTime where
  hour : List Char
  minute : List Char
  second : List Char
  fraction : List Char
  offset : Option (Option (Char × List Char × List Char))
  deriving DecidableEq, Repr

/-- A written date, perhaps with a time. -/
structure WrittenDate where
  year : List Char
  month : List Char
  day : List Char
  time : Option WrittenTime
  deriving DecidableEq, Repr

/-- Takes from `least` to `greatest` digits from the front. -/
def takeDigits (least greatest : Nat) (cs : List Char) : Option (List Char × List Char) :=
  let run := (cs.take greatest).takeWhile (·.isDigit)
  if least ≤ run.length then some (run, cs.drop run.length) else none

def takeChar (c : Char) (cs : List Char) : Option (List Char) :=
  if cs.head? = some c then some (cs.drop 1) else none

/-- Whether nothing is left but the end of a line. -/
def isFinished (cs : List Char) : Bool :=
  cs = [] || cs = ['\n']

/-- Reads the offset at the end of a time. -/
def readOffset (cs : List Char) : Option (Option (Option (Char × List Char × List Char))) :=
  if isFinished cs then some none
  else
    match cs.dropWhile fun c => c = ' ' || c = '\t' with
    | 'Z' :: rest => if isFinished rest then some (some none) else none
    | c :: rest => do
      if c ≠ '-' ∧ c ≠ '+' then failure
      let (hours, rest) ← takeDigits 1 2 rest
      if isFinished rest then return some (some (c, hours, []))
      let (minutes, rest) ← takeDigits 2 2 (← takeChar ':' rest)
      if isFinished rest then return some (some (c, hours, minutes)) else failure
    | [] => none

/-- Reads a time after the mark or the blanks that separate it from the date. -/
def readTime (cs : List Char) : Option WrittenTime := do
  let (hour, rest) ← takeDigits 1 2 cs
  let (minute, rest) ← takeDigits 2 2 (← takeChar ':' rest)
  let (second, rest) ← takeDigits 2 2 (← takeChar ':' rest)
  let (fraction, rest) := match rest with
    | '.' :: rest => rest.span (·.isDigit)
    | _ => ([], rest)
  return ⟨hour, minute, second, fraction, ← readOffset rest⟩

def WrittenDate.ofText? (cs : List Char) : Option WrittenDate := do
  let (year, rest) ← takeDigits 4 4 cs
  let (month, rest) ← takeDigits 1 2 (← takeChar '-' rest)
  let (day, rest) ← takeDigits 1 2 (← takeChar '-' rest)
  if isFinished rest then return ⟨year, month, day, none⟩
  match rest with
  | 'T' :: rest | 't' :: rest => return ⟨year, month, day, some (← readTime rest)⟩
  | _ =>
    let time := rest.dropWhile fun c => c = ' ' || c = '\t'
    if time.length = rest.length then failure
    return ⟨year, month, day, some (← readTime time)⟩

/-- Whether a date without a tag is taken for one: alone, it must have its month and day in two
digits. -/
def WrittenDate.isPlain (date : WrittenDate) : Bool :=
  date.time.isSome || (date.month.length = 2 && date.day.length = 2)

/-! ## The calendar -/

structure Date where
  year : Nat
  month : Nat
  day : Nat
  deriving DecidableEq, Repr

/-- A date with a time, in millionths of a second, and its offset in minutes, if one is known. -/
structure DateTime where
  date : Date
  hour : Nat
  minute : Nat
  second : Nat
  micros : Nat
  offset : Option Int
  deriving DecidableEq, Repr

def isLeapYear (year : Nat) : Bool :=
  year % 4 = 0 && (year % 100 ≠ 0 || year % 400 = 0)

def daysOfMonth (year month : Nat) : Nat :=
  if month = 2 then if isLeapYear year then 29 else 28
  else if [4, 6, 9, 11].contains month then 30
  else 31

def Date.isPossible (date : Date) : Bool :=
  1 ≤ date.year && 1 ≤ date.month && date.month ≤ 12 && 1 ≤ date.day &&
    date.day ≤ daysOfMonth date.year date.month

/-- The number of days before a date since the beginning of the calendar. -/
def Date.ordinal (date : Date) : Nat :=
  let before := date.year - 1
  let months := (List.range (date.month - 1)).map fun m => daysOfMonth date.year (m + 1)
  365 * before + before / 4 - before / 100 + before / 400 + months.foldl (· + ·) 0 + date.day

/-- Whether a time is within its day and its offset less than a day. -/
def DateTime.isPossible (time : DateTime) : Bool :=
  time.date.isPossible && time.hour < 24 && time.minute < 60 && time.second < 60 &&
    time.offset.all fun minutes => minutes.natAbs < 1440

/-- The point in time, in millionths of a second, as if without offset. -/
def DateTime.instant (time : DateTime) : Int :=
  let minutes := (time.date.ordinal * 24 + time.hour) * 60 + time.minute
  ((minutes : Int) - time.offset.getD 0) * 60000000 + time.second * 1000000 + time.micros

/-- The number of a fraction in millionths; further digits are dropped. -/
def microsOfDigits (digits : List Char) : Nat :=
  let digits := digits.take 6
  numberOfDigits digits * Nat.pow 10 (6 - digits.length)

def WrittenDate.date (written : WrittenDate) : Date :=
  ⟨numberOfDigits written.year, numberOfDigits written.month, numberOfDigits written.day⟩

def offsetMinutes : Option (Char × List Char × List Char) → Int
  | none => 0
  | some (sign, hours, minutes) =>
    let offset : Int := numberOfDigits hours * 60 + numberOfDigits minutes
    if sign = '-' then -offset else offset

def WrittenTime.dateTime (written : WrittenTime) (date : Date) : DateTime where
  date := date
  hour := numberOfDigits written.hour
  minute := numberOfDigits written.minute
  second := numberOfDigits written.second
  micros := microsOfDigits written.fraction
  offset := written.offset.map offsetMinutes

/-! ## Texts -/

/-- A number in decimal digits, with zeros before it up to a width. -/
def padded (width n : Nat) : String :=
  let digits := Nat.toDigits 10 n
  String.ofList (List.replicate (width - digits.length) '0' ++ digits)

def Date.text (date : Date) : String :=
  padded 4 date.year ++ "-" ++ padded 2 date.month ++ "-" ++ padded 2 date.day

/-- The form in which messages show a date. -/
def Date.literal (date : Date) : String :=
  s!"datetime.date({date.year}, {date.month}, {date.day})"

def offsetText (minutes : Int) : String :=
  (if minutes < 0 then "-" else "+") ++ padded 2 (minutes.natAbs / 60) ++ ":" ++
    padded 2 (minutes.natAbs % 60)

/-- The form in which messages show an offset: whole days, which are negative for a negative
offset, and seconds. -/
def offsetLiteral (minutes : Int) : String :=
  if minutes = 0 then "datetime.timezone.utc"
  else if minutes < 0 then
    s!"datetime.timezone(datetime.timedelta(days=-1, seconds={(minutes + 1440) * 60}))"
  else s!"datetime.timezone(datetime.timedelta(seconds={minutes * 60}))"

def DateTime.text (time : DateTime) : String :=
  time.date.text ++ " " ++ padded 2 time.hour ++ ":" ++ padded 2 time.minute ++ ":" ++
    padded 2 time.second ++ (if time.micros = 0 then "" else "." ++ padded 6 time.micros) ++
    (time.offset.map offsetText).getD ""

/-- The form in which messages show a date with a time: seconds and their parts are left out when
they and all that follow are zero. -/
def DateTime.literal (time : DateTime) : String :=
  let parts := [time.date.year, time.date.month, time.date.day, time.hour, time.minute] ++
    (if time.second = 0 ∧ time.micros = 0 then [] else [time.second]) ++
    (if time.micros = 0 then [] else [time.micros])
  let offset := (time.offset.map fun minutes => ["tzinfo=" ++ offsetLiteral minutes]).getD []
  "datetime.datetime(" ++ ", ".intercalate (parts.map toString ++ offset) ++ ")"

end NamedKeys.Yaml
