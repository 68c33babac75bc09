import Extraction.Text.Digit
import Extraction.Text.Scanner

/-!
# Dates

A day of the calendar, perhaps with a time of the day and the distance of its zone.

* `Yaml.Date` are the dates as they are written, also days that there are not.
* `Yaml.Date.fault?` is what is wrong with one.
* `Yaml.Date.read?` is the date that a text denotes.
-/

namespace Extraction.Yaml

/-- A time of the day. -/
structure Time where
  /-- The hour. -/
  hour : Nat
  /-- The minute. -/
  minute : Nat
  /-- The second. -/
  second : Nat
  /-- How many minutes the zone is ahead, if they are written. -/
  ahead : Option Int
deriving DecidableEq, Repr

/-- A date, perhaps with a time. -/
structure Date where
  /-- The year. -/
  year : Nat
  /-- The month, counted from one. -/
  month : Nat
  /-- The day, counted from one. -/
  day : Nat
  /-- The time. -/
  time : Option Time
deriving DecidableEq, Repr

namespace Date

/-! ## The calendar -/

/-- Whether a year has a leap day. -/
def isLeapYear (year : Nat) : Bool :=
  year % 4 == 0 && (year % 100 != 0 || year % 400 == 0)

/-- The number of days of a month. -/
def daysInMonth (year month : Nat) : Nat :=
  if month = 2 then if isLeapYear year then 29 else 28
  else if [4, 6, 9, 11].contains month then 30
  else 31

/-- What is wrong with a date. -/
inductive Fault where
  /-- There is no such year. -/
  | year (year : Nat)
  /-- There is no such month. -/
  | month
  /-- The month has no such day. -/
  | day
  /-- The day has no such hour. -/
  | hour
  /-- The hour has no such minute. -/
  | minute
  /-- The minute has no such second. -/
  | second
  /-- The zone is a day or more ahead or behind, by as many minutes as given. -/
  | zone (ahead : Int)
deriving DecidableEq, Repr

/-- The minutes of a day. -/
def minutesOfDay : Int := 24 * 60

/-- A distance of minutes in whole days and seconds. -/
def distance (minutes : Int) : String :=
  let days := Int.fdiv minutes minutesOfDay
  let seconds := Int.fmod minutes minutesOfDay * 60
  let part (name : String) (n : Int) : List String :=
    if n = 0 then [] else [name ++ "=" ++ toString n]
  "datetime.timedelta(" ++
    String.intercalate ", " (part "days" days ++ part "seconds" seconds) ++ ")"

/-- A fault in words. -/
def Fault.message : Fault → String
  | .year n => "year " ++ toString n ++ " is out of range"
  | .month => "month must be in 1..12"
  | .day => "day is out of range for month"
  | .hour => "hour must be in 0..23"
  | .minute => "minute must be in 0..59"
  | .second => "second must be in 0..59"
  | .zone ahead =>
    "offset must be a timedelta strictly between -timedelta(hours=24) and timedelta(hours=24), " ++
      "not " ++ distance ahead ++ "."

/-- What is wrong with a time. -/
def timeFault? (time : Time) : Option Fault :=
  if 23 < time.hour then some .hour
  else if 59 < time.minute then some .minute
  else if 59 < time.second then some .second
  else none

/-- What is wrong with a day. -/
def dayFault? (date : Date) : Option Fault :=
  if date.year = 0 then some (.year date.year)
  else if date.month = 0 || 12 < date.month then some .month
  else if date.day = 0 || daysInMonth date.year date.month < date.day then some .day
  else none

/-- What is wrong with the zone of a time. -/
def zoneFault? (time : Time) : Option Fault :=
  match time.ahead with
  | some ahead =>
    if ahead ≤ -minutesOfDay || minutesOfDay ≤ ahead then some (.zone ahead) else none
  | none => none

/-- What is wrong with a date: its zone is looked at first, then its day, and then its time. -/
def fault? (date : Date) : Option Fault :=
  date.time.bind zoneFault? <|> date.dayFault? <|> date.time.bind timeFault?

/-! ## Reading dates -/

/-- Takes a number of at least and at most as many digits as given. -/
def number (least most : Nat) : Scanner Nat := do
  let digits := ((← Scanner.remaining).takeWhile Char.isDigit).take most
  if digits.length < least then failure
  Scanner.skip digits.length
  pure (Text.decimal digits)

/-- A blank within a date. -/
def isGap (c : Char) : Bool := c == ' ' || c == '\t'

/-- Takes the distance of a zone. -/
def zone : Scanner (Option Int) := do
  let _ ← Scanner.takeWhile isGap
  (do
    Scanner.char 'Z'
    pure none) <|>
  (do
    let sign ← Scanner.satisfy fun c => c == '+' || c == '-'
    let hours ← number 1 2
    let minutes ← Scanner.optional do
      Scanner.char ':'
      number 2 2
    let ahead : Int := hours * 60 + minutes.getD 0
    pure (some (if sign == '-' then -ahead else ahead)))

/-- Takes a time. -/
def timeOfDay : Scanner Time := do
  let hour ← number 1 2
  Scanner.char ':'
  let minute ← number 2 2
  Scanner.char ':'
  let second ← number 2 2
  let _ ← Scanner.optional do
    Scanner.char '.'
    let _ ← Scanner.takeWhile Char.isDigit
  let zone ← Scanner.optional zone
  pure ⟨hour, minute, second, zone.join⟩

/-- Takes a day, whose month and day have at least as many digits as given. -/
def dayOf (least : Nat) : Scanner Date := do
  let year ← number 4 4
  Scanner.char '-'
  let month ← number least 2
  Scanner.char '-'
  let day ← number least 2
  pure ⟨year, month, day, none⟩

/-- Takes a date with a time. -/
def moment : Scanner Date := do
  let date ← dayOf 1
  let _ ← (do
      let _ ← Scanner.satisfy fun c => c == 'T' || c == 't') <|>
    (do
      let _ ← Scanner.takeSome isGap)
  let time ← timeOfDay
  pure { date with time := some time }

/-- What a scanner takes if it takes the whole of a text. -/
def whole? {α : Type} (scanner : Scanner α) (cs : List Char) : Option α :=
  match scanner cs with
  | some (a, []) => some a
  | _ => none

/-- The date that a text denotes. -/
def read? (cs : List Char) : Option Date := whole? moment cs <|> whole? (dayOf 1) cs

/-- Whether a text is told to be a date by its form. A day without a time has two digits for the
month and two for the day. -/
def hasForm (cs : List Char) : Bool := (whole? moment cs <|> whole? (dayOf 2) cs).isSome

end Date

end Extraction.Yaml
