import CallContract.Number.Reading
import CallContract.Value
import CallContract.Yaml.Cursor

/-!
# Moments

A moment is a date, or a time of day on a date, perhaps with its offset from universal time. Reading
one only looks at its spelling; `Moment.defect?` says what is not in the calendar.
-/

namespace CallContract.Yaml

/-- A text without the line break at its end, if there is one. -/
def dropBreak (cs : List Char) : List Char :=
  if cs.getLast? = some '\n' then cs.dropLast else cs

/-- A date, or a time of day on a date, with an offset in minutes, if any. -/
structure Moment where
  year : Nat
  month : Nat
  day : Nat
  time : Option (Nat × Nat × Nat × Nat)
  /-- The offset from universal time in minutes, if one is given. -/
  offset : Option Int
  deriving DecidableEq, Repr

/-- A number of a moment: at least and at most so many digits. -/
def readDigits? (least most : Nat) (cs : List Char) : Option (Nat × List Char) :=
  let ds := (cs.takeWhile Char.isDigit).take most
  if ds.length < least then none else some (natOfDigits 10 ds, cs.drop ds.length)

/-- Drop a character. -/
def dropChar? (c : Char) : List Char → Option (List Char)
  | x :: xs => if x == c then some xs else none
  | [] => none

/-- The offset at the end of a moment: nothing, `Z`, or hours and minutes with a sign. -/
def readOffset? (cs : List Char) : Option (Option Int) :=
  match cs.dropWhile fun c => c == ' ' || c == '\t' with
  | [] => if cs.isEmpty then some none else none
  | ['Z'] => some (some 0)
  | s :: rest =>
    if s == '+' || s == '-' then do
      let (hours, rest) ← readDigits? 1 2 rest
      let minutes ← match rest with
        | [] => some 0
        | ':' :: rest => do
          let (m, rest) ← readDigits? 2 2 rest
          if rest.isEmpty then some m else none
        | _ => none
      return some (signed (s == '-') (hours * 60 + minutes))
    else none

/-- The moment that a text can be read as. The fraction of a second is kept in millionths. -/
def readMoment? (cs : List Char) : Option Moment := do
  let (year, rest) ← readDigits? 4 4 cs
  let rest ← dropChar? '-' rest
  let (month, afterMonth) ← readDigits? 1 2 rest
  let (day, afterDay) ← readDigits? 1 2 (← dropChar? '-' afterMonth)
  if afterDay.isEmpty then some ⟨year, month, day, none, none⟩
  else
    let isBlank (c : Char) := c == ' ' || c == '\t'
    let rest ← match afterDay with
      | c :: rest =>
        if c == 'T' || c == 't' then some rest
        else if isBlank c then some (rest.dropWhile isBlank)
        else none
      | [] => none
    let (hour, rest) ← readDigits? 1 2 rest
    let (minute, rest) ← readDigits? 2 2 (← dropChar? ':' rest)
    let (second, rest) ← readDigits? 2 2 (← dropChar? ':' rest)
    let (fraction, rest) := match rest with
      | '.' :: rest => (rest.takeWhile Char.isDigit, rest.dropWhile Char.isDigit)
      | rest => ([], rest)
    let millionths := natOfDigits 10 ((fraction ++ List.replicate 6 '0').take 6)
    let offset ← readOffset? rest
    return ⟨year, month, day, some (hour, minute, second, millionths), offset⟩

/-- The length of a date in which the month and the day have two digits. -/
def dateLength : Nat := 10

/-- Whether a text is spelled like a moment. A date alone has two digits for the month and for the
day. -/
def isMomentSpelling (cs : List Char) : Bool :=
  match readMoment? cs with
  | some m => m.time.isSome || cs.length == dateLength
  | none => false

namespace Moment

/-- How many days a month has. -/
def monthLength (year month : Nat) : Nat :=
  if month == 2 then
    if year % 4 == 0 && (year % 100 != 0 || year % 400 == 0) then 29 else 28
  else if [4, 6, 9, 11].contains month then 30 else 31

/-- A span of minutes, written in whole days and the seconds over them. -/
def spanText (minutes : Int) : String :=
  let days := minutes.fdiv 1440
  let seconds := (minutes - days * 1440) * 60
  let parts := (if days == 0 then [] else ["days=" ++ toString days]) ++
    (if seconds == 0 then [] else ["seconds=" ++ toString seconds])
  "datetime.timedelta(" ++ String.intercalate ", " parts ++ ")"

/-- The text of an offset in minutes. -/
def offsetText (minutes : Int) : String :=
  if minutes == 0 then "datetime.timezone.utc" else "datetime.timezone(" ++ spanText minutes ++ ")"

/-- Why a moment is not in the calendar, if it is not: an offset of a day or more, a year, month or
day that there is not, or such a time of day. -/
def defect? (m : Moment) : Option String :=
  let (hour, minute, second, _) := m.time.getD (0, 0, 0, 0)
  let offset := m.offset.getD 0
  if 1440 ≤ offset.natAbs then
    some ("offset must be a timedelta strictly between -timedelta(hours=24) and " ++
      "timedelta(hours=24), not " ++ spanText offset ++ ".")
  else if m.year == 0 then some "year 0 is out of range"
  else if m.month == 0 || 12 < m.month then some "month must be in 1..12"
  else if m.day == 0 || monthLength m.year m.month < m.day then
    some "day is out of range for month"
  else if 23 < hour then some "hour must be in 0..23"
  else if 59 < minute then some "minute must be in 0..59"
  else if 59 < second then some "second must be in 0..59"
  else none

/-- The days of the years before a year. -/
def daysBefore (year : Nat) : Nat :=
  let y := year - 1
  365 * y + y / 4 - y / 100 + y / 400

/-- The days of a year before a date in it. -/
def dayOfYear (m : Moment) : Nat :=
  (List.range (m.month - 1)).foldl (fun days k => days + monthLength m.year (k + 1)) m.day

/-- The minutes from the beginning of the calendar. -/
def minutes (m : Moment) : Int :=
  let (hour, minute, _, _) := m.time.getD (0, 0, 0, 0)
  1440 * ((daysBefore m.year + m.dayOfYear : Nat) : Int) + 60 * hour + minute

/-- What a moment is compared by. With an offset, the same point in time can be written in several
ways. -/
def key (m : Moment) : String :=
  let (_, _, second, millionths) := m.time.getD (0, 0, 0, 0)
  let place := toString (m.minutes - m.offset.getD 0) ++ ":" ++ toString second ++ "." ++
    toString millionths
  if m.offset.isSome then "universal " ++ place else place

/-- The value of a moment in the calendar. -/
def value (m : Moment) : Value :=
  let date := [m.year, m.month, m.day].map toString
  match m.time with
  | none => .other "date" ("datetime.date(" ++ String.intercalate ", " date ++ ")") m.key
  | some (hour, minute, second, millionths) =>
    let time := [hour, minute] ++
      (if millionths != 0 then [second, millionths] else if second != 0 then [second] else [])
    let zone := match m.offset with
      | none => []
      | some o => ["tzinfo=" ++ offsetText o]
    .other "datetime"
      ("datetime.datetime(" ++ String.intercalate ", " (date ++ time.map toString ++ zone) ++ ")")
      m.key

end Moment

/-- The value of a text that is spelled like a moment. -/
def momentValue (s : String) : Except Defect Value :=
  match readMoment? (dropBreak s.toList) with
  | none => .error .noDate
  | some m => match m.defect? with
    | some reason => .error (.badValue reason)
    | none => .ok m.value

end CallContract.Yaml
