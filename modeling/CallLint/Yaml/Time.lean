import CallLint.Yaml.Cursor
import CallLint.Yaml.Value

/-!
# Days and points in time

The written form is a date, or a date, a time of day and a time zone. The parts are read by `Stamp.read?`, and `Stamp.value?`
refuses those that no calendar or clock shows.
-/

namespace CallLint.Yaml

/-- A time of day as it is written: its numbers, the digits of the fraction, and the time zone. -/
structure WrittenClock where
  hour : Nat
  minute : Nat
  second : Nat
  fraction : List Char
  zone : Option Int
deriving Repr, Inhabited

/-- A date as it is written, with the numbers of digits of its month and day, and a time of day if there is one. -/
structure Stamp where
  year : Nat
  month : Nat
  day : Nat
  isPadded : Bool
  clock : Option WrittenClock
deriving Repr, Inhabited

namespace Stamp

/-- A number of `least` to `most` digits. -/
def number? (least most : Nat) (cs : List Char) : Option (Nat × Nat × List Char) :=
  let ds := (cs.take most).takeWhile Char.isDigit
  if ds.length < least then none
  else some (ds.foldl (fun n d => n * 10 + (d.toNat - '0'.toNat)) 0, ds.length, cs.drop ds.length)

/-- What follows a character. -/
def after? (c : Char) : List Char → Option (List Char)
  | d :: rest => if d == c then some rest else none
  | [] => none

/-- The white space inside a point in time. -/
def isGap (c : Char) : Bool := c == ' ' || c == '\t'

/-- A time zone, in minutes from universal time: a letter, or a sign with hours and minutes. -/
def zone? (cs : List Char) : Option (Option Int) :=
  match cs with
  | [] => some none
  | _ =>
    match cs.dropWhile isGap with
    | ['Z'] => some (some 0)
    | sign :: rest => do
      let negative ← if sign == '-' then some true else if sign == '+' then some false else none
      let (hours, _, rest) ← number? 1 2 rest
      let minutes ← match rest with
        | [] => some 0
        | rest => do
          let (m, _, rest) ← number? 2 2 (← after? ':' rest)
          if rest.isEmpty then some m else none
      let total : Int := hours * 60 + minutes
      return some (if negative then -total else total)
    | [] => none

/-- A time of day and a time zone. -/
def clock? (cs : List Char) : Option WrittenClock := do
  let (hour, _, cs) ← number? 1 2 cs
  let (minute, _, cs) ← number? 2 2 (← after? ':' cs)
  let (second, _, cs) ← number? 2 2 (← after? ':' cs)
  let (fraction, cs) := match cs with
    | '.' :: rest => rest.span Char.isDigit
    | cs => ([], cs)
  return { hour, minute, second, fraction, zone := ← zone? cs }

/-- The parts of a written day or point in time. -/
def read? (cs : List Char) : Option Stamp := do
  let (year, _, cs) ← number? 4 4 cs
  let (month, monthDigits, cs) ← number? 1 2 (← after? '-' cs)
  let (day, dayDigits, cs) ← number? 1 2 (← after? '-' cs)
  let isPadded := monthDigits == 2 && dayDigits == 2
  match cs with
  | [] => return { year, month, day, isPadded, clock := none }
  | c :: rest =>
    let rest ← if c == 'T' || c == 't' then some rest else if isGap c then some (rest.dropWhile isGap) else none
    return { year, month, day, isPadded, clock := some (← clock? rest) }

/-- Whether a plain scalar of this form is taken for a day or point in time: a day alone has two digits for month and day. -/
def isEvident (s : Stamp) : Bool := s.isPadded || s.clock.isSome

/-- The number of days of a month; none for a month that does not exist. -/
def daysIn (year : Nat) : Nat → Nat
  | 2 => if isLeap year then 29 else 28
  | 4 | 6 | 9 | 11 => 30
  | 1 | 3 | 5 | 7 | 8 | 10 | 12 => 31
  | _ => 0

/-- The microseconds of the digits of a fraction; further digits are dropped. -/
def micros (fraction : List Char) : Nat :=
  let ds := fraction.take 6
  (ds ++ List.replicate (6 - ds.length) '0').foldl (fun n d => n * 10 + (d.toNat - '0'.toNat)) 0

/-- The day or point in time, if it exists: from year 1, and in a time zone less than a day away. -/
def value? (s : Stamp) : Option Value :=
  let date : Date := ⟨s.year, s.month, s.day⟩
  if s.year == 0 || s.day == 0 || decide (daysIn s.year s.month < s.day) then none
  else
    match s.clock with
    | none => some (.date date)
    | some c =>
      let zoneFits := match c.zone with
        | some m => decide (m.natAbs < 24 * 60)
        | none => true
      if zoneFits && c.hour < 24 && c.minute < 60 && c.second < 60 then
        some (.moment date ⟨c.hour, c.minute, c.second, micros c.fraction⟩ c.zone)
      else none

end Stamp

end CallLint.Yaml
