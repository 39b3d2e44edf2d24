import SdkFeed.Text.Integer
import SdkFeed.Yaml.Cursor

/-!
Time stamps: dates, and dates with a time and perhaps an offset of the time zone. Main definitions:
`StampText.ofChars?` takes a written stamp apart, and `StampText.stamp` checks that there is such a
day and such a time.
-/

namespace SdkFeed.Yaml

/-- A time of a day. -/
structure Clock where
  hour : Nat
  minute : Nat
  second : Nat
  microsecond : Nat
  /-- The offset of the time zone in minutes, if it is known. -/
  offset : Option Int
deriving DecidableEq, Repr

/-- A day, and perhaps a time of it. -/
structure Stamp where
  year : Nat
  month : Nat
  day : Nat
  clock : Option Clock
deriving DecidableEq, Repr

/-- A text without the line break at its end, if it has one. -/
def dropLineEnd (chars : List Char) : List Char :=
  if chars.getLast? == some '\n' then chars.dropLast else chars

/-- The digits of a number, in ASCII. -/
def digitsValue (digits : List Char) : Nat :=
  Text.ofDigits (digits.map fun c => c.toNat - '0'.toNat)

/-- A number of at least and at most so many digits, and what follows. -/
def digitRange? (least most : Nat) (chars : List Char) : Option (List Char × List Char) :=
  let digits := (chars.take most).takeWhile Char.isDigit
  if digits.length < least then none else some (digits, chars.drop digits.length)

/-- What follows a character. -/
def behind? (c : Char) : List Char → Option (List Char)
  | d :: rest => if c == d then some rest else none
  | [] => none

/-- The offset of a time zone behind white space, if the text ends so. -/
def offset? (chars : List Char) : Option (Option Int) :=
  if chars.isEmpty then some none
  else
    match chars.dropWhile isGap with
    | ['Z'] => some (some 0)
    | sign :: rest => do
      guard (sign == '-' || sign == '+')
      let (hours, rest) ← digitRange? 1 2 rest
      let minutes ← match rest with
        | [] => pure []
        | rest => do
          let (minutes, rest) ← digitRange? 2 2 (← behind? ':' rest)
          guard rest.isEmpty
          pure minutes
      let total : Int := digitsValue hours * 60 + digitsValue minutes
      return some (if sign == '-' then -total else total)
    | [] => none

/-- The millionth parts of a second that a decimal fraction stands for; further digits are cut. -/
def microseconds (digits : List Char) : Nat :=
  digitsValue ((digits ++ List.replicate 6 '0').take 6)

/-- The time in a written stamp, behind the date. -/
def clock? (chars : List Char) : Option Clock := do
  let rest ← match chars with
    | c :: rest =>
      if c == 'T' || c == 't' then pure rest
      else if isGap c then pure (rest.dropWhile isGap)
      else none
    | [] => none
  let (hour, rest) ← digitRange? 1 2 rest
  let (minute, rest) ← digitRange? 2 2 (← behind? ':' rest)
  let (second, rest) ← digitRange? 2 2 (← behind? ':' rest)
  let (fraction, rest) := match rest with
    | '.' :: rest => (rest.takeWhile Char.isDigit, rest.dropWhile Char.isDigit)
    | rest => ([], rest)
  let offset ← offset? rest
  return ⟨digitsValue hour, digitsValue minute, digitsValue second, microseconds fraction, offset⟩

/-- A written time stamp. -/
structure StampText where
  year : List Char
  month : List Char
  day : List Char
  clock : Option Clock
deriving Repr

namespace StampText

/-- Take a written time stamp apart. A line break may follow it. -/
def ofChars? (chars : List Char) : Option StampText := do
  let (year, rest) ← digitRange? 4 4 (dropLineEnd chars)
  let (month, rest) ← digitRange? 1 2 (← behind? '-' rest)
  let (day, rest) ← digitRange? 1 2 (← behind? '-' rest)
  if rest.isEmpty then return ⟨year, month, day, none⟩
  else return ⟨year, month, day, some (← clock? rest)⟩

/-- Whether a text is a time stamp without being tagged as one: a date alone has two digits for
the month and for the day. -/
def isPlain (text : StampText) : Bool :=
  text.clock.isSome || text.month.length == 2 && text.day.length == 2

/-- The number of days in a month. -/
def daysIn (year month : Nat) : Nat :=
  if month == 2 then
    if year % 4 == 0 && (year % 100 != 0 || year % 400 == 0) then 29 else 28
  else if [4, 6, 9, 11].contains month then 30
  else 31

/-- A span of minutes as messages show it, in whole days and the seconds left over. -/
def spanText (minutes : Int) : String :=
  let days := minutes.fdiv 1440
  let seconds := minutes.fmod 1440 * 60
  let parts := (if days == 0 then [] else ["days=" ++ toString days]) ++
    (if seconds == 0 then [] else ["seconds=" ++ toString seconds])
  "datetime.timedelta(" ++ (if parts.isEmpty then "0" else ", ".intercalate parts) ++ ")"

/-- Offsets are less than a day. -/
def checkOffset (offset : Option Int) : Except Fault Unit :=
  match offset with
  | none => .ok ()
  | some minutes =>
    if minutes.natAbs < 1440 then .ok ()
    else .error (.outOfRange ("offset must be a timedelta strictly between -timedelta(hours=24) " ++
      "and timedelta(hours=24), not " ++ spanText minutes ++ "."))

/-- The stamp of a text, if there is such a day and such a time. -/
def stamp (text : StampText) : Except Fault Stamp := do
  let year := digitsValue text.year
  let month := digitsValue text.month
  let day := digitsValue text.day
  checkOffset (text.clock.bind (·.offset))
  if year == 0 then .error (.outOfRange "year 0 is out of range")
  else if month == 0 || 12 < month then .error (.outOfRange "month must be in 1..12")
  else if day == 0 || daysIn year month < day then
    .error (.outOfRange "day is out of range for month")
  else match text.clock with
    | none => return ⟨year, month, day, none⟩
    | some clock =>
      if 23 < clock.hour then .error (.outOfRange "hour must be in 0..23")
      else if 59 < clock.minute then .error (.outOfRange "minute must be in 0..59")
      else if 59 < clock.second then .error (.outOfRange "second must be in 0..59")
      else return ⟨year, month, day, some clock⟩

end StampText

namespace Stamp

/-- The number of a day, counted from the first one of the first year. -/
def dayNumber (stamp : Stamp) : Nat :=
  let years := stamp.year - 1
  let months := (List.range stamp.month).drop 1
  years * 365 + years / 4 - years / 100 + years / 400 +
    months.foldl (fun days month => days + StampText.daysIn stamp.year month) 0 + stamp.day

/-- Whether two stamps are the same moment. Times whose offsets are known are compared as they are
at offset zero; a time whose offset is known is none without one, and a day is no time of it. -/
def sameMoment (a b : Stamp) : Bool :=
  match a.clock, b.clock with
  | some c, some d =>
    match c.offset, d.offset with
    | some m, some n =>
      let minutes (stamp : Stamp) (clock : Clock) (offset : Int) : Int :=
        (stamp.dayNumber * 1440 + clock.hour * 60 + clock.minute : Nat) - offset
      minutes a c m == minutes b d n && c.second == d.second && c.microsecond == d.microsecond
    | _, _ => a == b
  | _, _ => a == b

/-- A number with zeros in front up to a width. -/
def padded (width n : Nat) : String :=
  let digits := Nat.toDigits 10 n
  String.ofList (List.replicate (width - digits.length) '0' ++ digits)

/-- A stamp as it is written. -/
def text (stamp : Stamp) : String :=
  let date := padded 4 stamp.year ++ "-" ++ padded 2 stamp.month ++ "-" ++ padded 2 stamp.day
  match stamp.clock with
  | none => date
  | some clock =>
    let fraction := if clock.microsecond == 0 then "" else "." ++ padded 6 clock.microsecond
    let offset := match clock.offset with
      | none => ""
      | some minutes =>
        (if minutes < 0 then "-" else "+") ++ padded 2 (minutes.natAbs / 60) ++ ":" ++
          padded 2 (minutes.natAbs % 60)
    date ++ " " ++ padded 2 clock.hour ++ ":" ++ padded 2 clock.minute ++ ":" ++
      padded 2 clock.second ++ fraction ++ offset

/-- A time zone as messages show it. -/
def zoneText (minutes : Int) : String :=
  if minutes == 0 then "datetime.timezone.utc"
  else "datetime.timezone(" ++ StampText.spanText minutes ++ ")"

/-- A stamp within a collection, as messages show it. Seconds are left out if there are none. -/
def quoted (stamp : Stamp) : String :=
  let date := [stamp.year, stamp.month, stamp.day].map toString
  match stamp.clock with
  | none => "datetime.date(" ++ ", ".intercalate date ++ ")"
  | some clock =>
    let seconds :=
      if clock.microsecond != 0 then [clock.second, clock.microsecond]
      else if clock.second != 0 then [clock.second]
      else []
    let zone := (clock.offset.map fun minutes => "tzinfo=" ++ zoneText minutes).toList
    "datetime.datetime(" ++ ", ".intercalate
      (date ++ ([clock.hour, clock.minute] ++ seconds).map toString ++ zone) ++ ")"

end Stamp

end SdkFeed.Yaml
