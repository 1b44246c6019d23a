/-! # Timestamps

Days and moments, and the two forms in which they are shown. A moment may say how far its zone is
ahead; then it stands for an instant, and two moments are the same if they are the same instant.
-/

namespace AdlTables

/-- A time of a day, with the minutes by which its zone is ahead if it has one. -/
structure Clock where
  hour : Nat
  minute : Nat
  second : Nat
  micros : Nat
  zone : Option Int
deriving DecidableEq, Repr

/-- A day, or a moment of it. -/
structure Timestamp where
  year : Nat
  month : Nat
  day : Nat
  clock : Option Clock
deriving DecidableEq, Repr

/-- The forms of timestamps; only those of one form can be compared. -/
inductive TimeForm where
  | day
  | moment
  | instant
deriving DecidableEq, Repr

namespace Timestamp

/-- Whether a year has a day more. -/
def isLeap (year : Nat) : Bool :=
  year % 4 == 0 && (year % 100 != 0 || year % 400 == 0)

def daysIn (year month : Nat) : Nat :=
  if month = 2 then (if isLeap year then 29 else 28)
  else if [4, 6, 9, 11].contains month then 30 else 31

def isClock (c : Clock) : Bool :=
  c.hour < 24 && c.minute < 60 && c.second < 60 && c.zone.all fun minutes =>
    minutes.natAbs < 24 * 60

/-- Whether day and time exist. -/
def isValid (t : Timestamp) : Bool :=
  1 ≤ t.year && 1 ≤ t.month && t.month ≤ 12 && 1 ≤ t.day && t.day ≤ daysIn t.year t.month
    && t.clock.all isClock

def form (t : Timestamp) : TimeForm :=
  match t.clock with
  | none => .day
  | some c => if c.zone.isSome then .instant else .moment

def dayNumber (t : Timestamp) : Nat :=
  let years := t.year - 1
  let months := (List.range (t.month - 1)).foldl (fun days m => days + daysIn t.year (m + 1)) 0
  years * 365 + years / 4 - years / 100 + years / 400 + months + t.day

/-- The place of a timestamp among those of its form, in millionths of a second. -/
def position (t : Timestamp) : Int :=
  match t.clock with
  | none => t.dayNumber
  | some c =>
    let minutes : Int := (t.dayNumber * 24 + c.hour) * 60 + c.minute - c.zone.getD 0
    (minutes * 60 + c.second) * 1000000 + c.micros

/-- A number padded with zeros. -/
def padded (width n : Nat) : String :=
  let digits := Nat.toDigits 10 n
  String.ofList (List.replicate (width - digits.length) '0' ++ digits)

def zoneText (minutes : Int) : String :=
  (if minutes < 0 then "-" else "+") ++ padded 2 (minutes.natAbs / 60) ++ ":"
    ++ padded 2 (minutes.natAbs % 60)

/-- The form of a timestamp in running text. -/
def display (t : Timestamp) : String :=
  let day := padded 4 t.year ++ "-" ++ padded 2 t.month ++ "-" ++ padded 2 t.day
  match t.clock with
  | none => day
  | some c =>
    day ++ " " ++ padded 2 c.hour ++ ":" ++ padded 2 c.minute ++ ":" ++ padded 2 c.second
      ++ (if c.micros = 0 then "" else "." ++ padded 6 c.micros)
      ++ (c.zone.map zoneText).getD ""

/-- The literal form of a zone: a distance is whole days, which may be negative, and seconds. -/
def zoneLiteral (minutes : Int) : String :=
  if minutes = 0 then "datetime.timezone.utc"
  else
    let days := if minutes < 0 then "days=-1, " else ""
    let seconds := (if minutes < 0 then minutes + 24 * 60 else minutes) * 60
    "datetime.timezone(datetime.timedelta(" ++ days ++ "seconds=" ++ toString seconds ++ "))"

/-- The literal form of a timestamp; seconds and millionths that are zero are left out. -/
def literal (t : Timestamp) : String :=
  let numbers (ns : List Nat) : String := ", ".intercalate (ns.map toString)
  match t.clock with
  | none => "datetime.date(" ++ numbers [t.year, t.month, t.day] ++ ")"
  | some c =>
    let fine := if c.micros ≠ 0 then [c.second, c.micros]
      else if c.second ≠ 0 then [c.second] else []
    "datetime.datetime(" ++ numbers ([t.year, t.month, t.day, c.hour, c.minute] ++ fine)
      ++ ((c.zone.map fun z => ", tzinfo=" ++ zoneLiteral z).getD "") ++ ")"

def kindName (t : Timestamp) : String :=
  if t.clock.isSome then "datetime" else "date"

end Timestamp

end AdlTables
