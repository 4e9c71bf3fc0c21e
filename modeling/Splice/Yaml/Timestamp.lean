import Splice.Reason

/-!
# Dates and times of YAML documents

A date is written with dashes, and a time of day with colons behind it; the time may have a fraction
of a second and a time zone. What is written like this has still to be checked: there are months
without a 31st day, and days without a 25th hour (`Timestamp.objection?`).
-/

namespace Splice.Yaml

/-- A time of day. -/
structure TimeOfDay where
  hour : Nat
  minute : Nat
  second : Nat
  microsecond : Nat
  /-- The offset of the time zone in minutes, if there is a time zone. -/
  zone : Option Int
  deriving Repr, Inhabited

/-- A date, and a time of that day if there is one. -/
structure Timestamp where
  year : Nat
  month : Nat
  day : Nat
  time : Option TimeOfDay
  deriving Repr, Inhabited

/-! ## Reading -/

namespace Timestamp

/-- Reads digits from the front: at least `least` and at most `most`. -/
def digits (least most : Nat) (s : List Char) : Option (Nat × List Char) :=
  let ds := (s.take most).takeWhile Char.isDigit
  if least ≤ ds.length then
    some (ds.foldl (fun n d => 10 * n + (d.toNat - 48)) 0, s.drop ds.length)
  else none

/-- Drops a character from the front. -/
def dropChar (c : Char) (s : List Char) : Option (List Char) :=
  match s with
  | d :: rest => if d == c then some rest else none
  | [] => none

/-- Drops spaces and tabs from the front. -/
def dropIndent (s : List Char) : List Char :=
  s.dropWhile fun c => c == ' ' || c == '\t'

/-- The microseconds that the digits of a fraction of a second write. -/
def microseconds (ds : List Char) : Nat :=
  ((ds.take 6 ++ List.replicate 6 '0').take 6).foldl (fun n d => 10 * n + (d.toNat - 48)) 0

/-- Reads a time zone, or nothing. -/
def zone? (s : List Char) : Option (Option Int) :=
  match dropIndent s with
  | [] => if s.isEmpty then some none else none
  | ['Z'] => some (some 0)
  | c :: rest =>
    if c == '-' || c == '+' then do
      let (hours, rest) ← digits 1 2 rest
      let minutes ← match rest with
        | [] => some 0
        | ':' :: rest => do
          let (minutes, rest) ← digits 2 2 rest
          if rest.isEmpty then some minutes else none
        | _ => none
      let offset : Int := 60 * hours + minutes
      return some (if c == '-' then -offset else offset)
    else none

/-- Reads a time of day, and nothing after it. -/
def time? (s : List Char) : Option TimeOfDay := do
  let (hour, s) ← digits 1 2 s
  let (minute, s) ← digits 2 2 (← dropChar ':' s)
  let (second, s) ← digits 2 2 (← dropChar ':' s)
  match s with
  | '.' :: rest =>
    return ⟨hour, minute, second, microseconds (rest.takeWhile Char.isDigit),
      ← zone? (rest.dropWhile Char.isDigit)⟩
  | rest => return ⟨hour, minute, second, 0, ← zone? rest⟩

/-- Reads a date whose month and day have at least so many digits. -/
def date? (least : Nat) (s : List Char) : Option ((Nat × Nat × Nat) × List Char) := do
  let (year, s) ← digits 4 4 s
  let (month, s) ← digits least 2 (← dropChar '-' s)
  let (day, s) ← digits least 2 (← dropChar '-' s)
  return ((year, month, day), s)

/-- Reads a date, or a date and a time, and nothing after it. -/
def ofText? (s : List Char) : Option Timestamp :=
  match date? 2 s with
  | some ((year, month, day), []) => some ⟨year, month, day, none⟩
  | _ => do
    let ((year, month, day), s) ← date? 1 s
    match s with
    | c :: rest =>
      if c == 'T' || c == 't' then return ⟨year, month, day, some (← time? rest)⟩
      else if c == ' ' || c == '\t' then return ⟨year, month, day, some (← time? (dropIndent rest))⟩
      else none
    | [] => none

/-! ## Checking -/

/-- Whether a year has a 29th of February. -/
def isLeap (year : Nat) : Bool :=
  year % 4 == 0 && (year % 100 != 0 || year % 400 == 0)

/-- How many days a month has. -/
def daysIn (year month : Nat) : Nat :=
  if month == 2 then if isLeap year then 29 else 28
  else if [4, 6, 9, 11].contains month then 30
  else 31

/-- How many minutes a day has. -/
def minutesPerDay : Int :=
  1440

/-- A duration of so many minutes, quoted. -/
def durationText (minutes : Int) : String :=
  let days := Int.fdiv minutes minutesPerDay
  let seconds := 60 * Int.fmod minutes minutesPerDay
  let parts := (if days == 0 then [] else ["days=" ++ toString days]) ++
    if seconds == 0 then [] else ["seconds=" ++ toString seconds]
  "datetime.timedelta(" ++ (if parts.isEmpty then "0" else ", ".intercalate parts) ++ ")"

/-- What is wrong with the time zone of a time, if anything is. -/
def zoneObjection? (t : TimeOfDay) : Option Unreadable :=
  t.zone.bind fun offset =>
    if -minutesPerDay < offset && offset < minutesPerDay then none
    else some (.zone (durationText offset))

/-- What is wrong with the rest of a time, if anything is. -/
def timeObjection? (t : TimeOfDay) : Option Unreadable :=
  if 23 < t.hour then some .hour
  else if 59 < t.minute then some .minute
  else if 59 < t.second then some .second
  else none

/-- What is wrong with the date, if anything is. -/
def dateObjection? (s : Timestamp) : Option Unreadable :=
  if s.year == 0 then some (.year 0)
  else if s.month == 0 || 12 < s.month then some .month
  else if s.day == 0 || daysIn s.year s.month < s.day then some .day
  else none

/-- What is wrong with a date or a time, if anything is: a time zone is looked at first. -/
def objection? (s : Timestamp) : Option Unreadable :=
  ((s.time.bind zoneObjection?).or s.dateObjection?).or (s.time.bind timeObjection?)

/-! ## Writing -/

/-- A number with zeros in front. -/
def padded (width n : Nat) : String :=
  let ds := Nat.toDigits 10 n
  String.ofList (List.replicate (width - ds.length) '0' ++ ds)

/-- The offset of a time zone. -/
def zoneText (offset : Int) : String :=
  (if offset < 0 then "-" else "+") ++ padded 2 (offset.natAbs / 60) ++ ":" ++
    padded 2 (offset.natAbs % 60)

/-- A time of day. -/
def timeText (t : TimeOfDay) : String :=
  padded 2 t.hour ++ ":" ++ padded 2 t.minute ++ ":" ++ padded 2 t.second ++
    (if t.microsecond == 0 then "" else "." ++ padded 6 t.microsecond) ++
    (t.zone.map zoneText).getD ""

/-- The text of a date or a time. -/
def text (s : Timestamp) : String :=
  let date := padded 4 s.year ++ "-" ++ padded 2 s.month ++ "-" ++ padded 2 s.day
  match s.time with
  | none => date
  | some t => date ++ " " ++ timeText t

/-- The type of a date or a time. -/
def typeName (s : Timestamp) : String :=
  if s.time.isSome then "datetime.datetime" else "datetime.date"

/-- A time zone, quoted. -/
def zoneQuoted (offset : Int) : String :=
  if offset == 0 then "datetime.timezone.utc"
  else "datetime.timezone(" ++ durationText offset ++ ")"

/-- The quoted form of a date or a time: the call that makes it. Seconds and microseconds are left
out if there are none. -/
def quoted (s : Timestamp) : String :=
  let date := [s.year, s.month, s.day].map toString
  let arguments := match s.time with
    | none => date
    | some t =>
      date ++ [t.hour, t.minute].map toString ++
        (if t.second == 0 && t.microsecond == 0 then []
          else if t.microsecond == 0 then [toString t.second]
          else [toString t.second, toString t.microsecond]) ++
        (t.zone.map fun offset => "tzinfo=" ++ zoneQuoted offset).toList
  s.typeName ++ "(" ++ ", ".intercalate arguments ++ ")"

end Timestamp

end Splice.Yaml
