/-! # Points in time

Dates, times of day, and both together with or without an offset from universal time. Each
has a plain text, as a calendar writes it, and a full form that names its kind and parts.
-/
namespace SchemaAtlas

structure Day where
  year : Nat
  month : Nat
  day : Nat
  deriving DecidableEq, Repr

structure Clock where
  hour : Nat
  minute : Nat
  second : Nat
  micro : Nat
  deriving DecidableEq, Repr

inductive MomentShape where
  | date | time | dateTime
  deriving DecidableEq, Repr

/-- A point in time. An offset from universal time is given in minutes. -/
inductive Moment where
  | date (d : Day)
  | time (t : Clock)
  | dateTime (d : Day) (t : Clock) (offset? : Option Int)
  deriving DecidableEq, Repr

def Moment.shape : Moment → MomentShape
  | .date _ => .date
  | .time _ => .time
  | .dateTime .. => .dateTime

def MomentShape.name : MomentShape → String
  | .date => "datetime.date"
  | .time => "datetime.time"
  | .dateTime => "datetime.datetime"

def paddedNumber (width n : Nat) : String :=
  let ds := Nat.toDigits 10 n
  .ofList (List.replicate (width - ds.length) '0' ++ ds)

def Day.text (d : Day) : String :=
  s!"{paddedNumber 4 d.year}-{paddedNumber 2 d.month}-{paddedNumber 2 d.day}"

/-- A time of day as clocks show it; microseconds are left out if there are none. -/
def Clock.text (t : Clock) : String :=
  s!"{paddedNumber 2 t.hour}:{paddedNumber 2 t.minute}:{paddedNumber 2 t.second}" ++
    if t.micro = 0 then "" else "." ++ paddedNumber 6 t.micro

def offsetText (minutes : Int) : String :=
  let n := minutes.natAbs
  (if minutes < 0 then "-" else "+") ++ paddedNumber 2 (n / 60) ++ ":" ++ paddedNumber 2 (n % 60)

def Moment.text : Moment → String
  | .date d => d.text
  | .time t => t.text
  | .dateTime d t offset? =>
    d.text ++ " " ++ t.text ++ match offset? with
      | some minutes => offsetText minutes
      | none => ""

def Day.parts (d : Day) : List Nat := [d.year, d.month, d.day]

/-- The parts of a time of day, without the last ones if they are zero. -/
def Clock.parts (t : Clock) : List Nat :=
  [t.hour, t.minute] ++
    if t.micro ≠ 0 then [t.second, t.micro] else if t.second ≠ 0 then [t.second] else []

/-- The full form of an offset: whole days, which are negative west of Greenwich, and seconds. -/
def shownOffset (minutes : Int) : String :=
  if minutes = 0 then "datetime.timezone.utc"
  else
    let days := if minutes < 0 then "days=-1, " else ""
    s!"datetime.timezone(datetime.timedelta({days}seconds={60 * (minutes % 1440)}))"

def Moment.shown (m : Moment) : String :=
  let parts : List String := match m with
    | .date d => d.parts.map toString
    | .time t => t.parts.map toString
    | .dateTime d t offset? =>
      (d.parts ++ t.parts).map toString ++ match offset? with
        | some minutes => ["tzinfo=" ++ shownOffset minutes]
        | none => []
  m.shape.name ++ "(" ++ ", ".intercalate parts ++ ")"

end SchemaAtlas
