import CypherGate.Graph.Incomparable
import CypherGate.Text.Digit
import CypherGate.Text.Numeral
/-!
# Dates, times and moments

What the texts of temporal values say: `2020-01-31`, `12:30:00.000000000`, and both with a `T`
between. A time may have an offset such as `+01:00`, by which it is ahead of universal time; seconds
of an offset do not count. Times and moments compare with others that have an offset if they have
one, too, and with others that have none if they have none.

Days have numbers, from 1 for the first day of the year 1 to the last day of the year 9999. The zero
date `0000-00-00` is on no calendar; its number is 0. Moments with different offsets are compared in
universal time, which has to be within these days.
-/
namespace CypherGate

structure Date where
  year : Nat
  month : Nat
  day : Nat
  deriving DecidableEq, Repr

structure Clock where
  hour : Nat
  minute : Nat
  second : Nat
  nanosecond : Nat
  /-- In minutes. -/
  offset : Option Int
  deriving DecidableEq, Repr

structure Moment where
  date : Date
  clock : Clock
  deriving DecidableEq, Repr

namespace Date

def zero : Date := ⟨0, 0, 0⟩

def isLeapYear (year : Nat) : Bool := year % 4 == 0 && (year % 100 != 0 || year % 400 == 0)

def monthLengths (year : Nat) : List Nat :=
  [31, if isLeapYear year then 29 else 28, 31, 30, 31, 30, 31, 31, 30, 31, 30, 31]

/-- The number of the day: 1 for the first day of the year 1, 0 for the zero date. -/
def number (d : Date) : Nat :=
  let years := d.year - 1
  let leapDays := years / 4 - years / 100 + years / 400
  365 * years + leapDays + ((monthLengths d.year).take (d.month - 1)).foldl (· + ·) 0 + d.day

def lastNumber : Nat := number ⟨9999, 12, 31⟩

def same (d e : Date) : Bool := d.number == e.number

def less (d e : Date) : Bool := d.number < e.number

end Date

namespace Clock

def secondLength : Nat := 1000000000

def minuteLength : Nat := 60 * secondLength

def daySeconds : Nat := 86400

def dayLength : Nat := daySeconds * secondLength

def seconds (c : Clock) : Nat := (60 * c.hour + c.minute) * 60 + c.second

def elapsed (c : Clock) : Nat := c.seconds * secondLength + c.nanosecond

/-- Nanoseconds since midnight of universal time, which may be that of the day before or after. -/
def universal (c : Clock) : Int := c.elapsed - c.offset.getD 0 * minuteLength

def comparable (c d : Clock) : Bool := c.offset.isSome == d.offset.isSome

def same (c d : Clock) : Bool := comparable c d && c.universal == d.universal

def less (c d : Clock) : Except Incomparable Bool :=
  if comparable c d then .ok (c.universal < d.universal) else .error (.offsets "times")

end Clock

namespace Moment

/-- The number of the day and the nanoseconds since midnight in universal time. Seconds before the
first day of the year 1 are not counted back from a midnight, so that only the zero date's own
midnight is within range there. -/
def universal (m : Moment) : Except Incomparable (Int × Int) :=
  let offset := m.clock.offset.getD 0
  if offset = 0 then .ok (m.date.number, m.clock.elapsed)
  else
    let seconds := (m.date.number - 1 : Int) * Clock.daySeconds + m.clock.seconds - 60 * offset
    let day := seconds.tdiv Clock.daySeconds + 1
    let time := seconds.tmod Clock.daySeconds * Clock.secondLength + m.clock.nanosecond
    if day < 0 ∨ Date.lastNumber < day then .error (.dayOutside Date.lastNumber)
    else if time < 0 ∨ Clock.dayLength ≤ time then .error (.timeOutside Clock.dayLength)
    else .ok (day, time)

def same (m n : Moment) : Except Incomparable Bool := do
  if m.clock.offset = n.clock.offset then
    return m.date.same n.date && m.clock.elapsed == n.clock.elapsed
  else if Clock.comparable m.clock n.clock then return (← m.universal) == (← n.universal)
  else return false

/-- With equal offsets the earlier day decides, then the earlier time. With different offsets a
moment comes before another one if its day or its time of day is earlier in universal time. -/
def less (m n : Moment) : Except Incomparable Bool := do
  if m.clock.offset = n.clock.offset then
    return m.date.less n.date || m.date.same n.date && decide (m.clock.elapsed < n.clock.elapsed)
  else if Clock.comparable m.clock n.clock then
    let (day, time) ← m.universal
    let (otherDay, otherTime) ← n.universal
    return decide (day < otherDay ∨ time < otherTime)
  else throw (.offsets "datetimes")

end Moment

/-! ## Reading -/

namespace Temporal

def number (s : List Char) : Nat × List Char :=
  let (digits, rest) := s.span fun c => (Text.asciiDigit? c).isSome
  (Text.digitsValue (digits.filterMap Text.asciiDigit?), rest)

/-- A number after a separator, zero without it, and the rest. -/
def numberAfter (separator : Char) (s : List Char) : Nat × List Char :=
  match s with
  | [] => (0, [])
  | c :: rest => if c = separator then number rest else (0, s)

def fraction : List Char → Nat × List Char
  | '.' :: s =>
    let (digits, rest) := s.span fun c => (Text.asciiDigit? c).isSome
    let places := (digits.filterMap Text.asciiDigit? ++ List.replicate 9 0).take 9
    (Text.digitsValue places, rest)
  | s => (0, s)

def minutes (s : List Char) : Nat :=
  let (hour, s) := number s
  60 * hour + (numberAfter ':' s).1

def offset? : List Char → Option Int
  | '+' :: s => some (minutes s)
  | '-' :: s => some (-(minutes s))
  | _ => none

def clock (s : List Char) : Clock :=
  let (hour, s) := number s
  let (minute, s) := numberAfter ':' s
  let (second, s) := numberAfter ':' s
  let (nanosecond, s) := fraction s
  ⟨hour, minute, second, nanosecond, offset? s⟩

def takeDate (s : List Char) : Date × List Char :=
  let (year, s) := number s
  let (month, s) := numberAfter '-' s
  let (day, s) := numberAfter '-' s
  (⟨year, month, day⟩, s)

def date (s : List Char) : Date := (takeDate s).1

def moment (s : List Char) : Moment :=
  let (date, s) := takeDate s
  ⟨date, clock (s.drop 1)⟩

end Temporal

end CypherGate
