import CallLint.Decimal.Shortest
import CallLint.Text.Quoted
import CallLint.Tree.Basic

/-!
# Settings values

A value of a settings file: a scalar, a day or a point in time, or a collection. Mappings keep their entries in the
order in which their keys first came. `write` is the text by which a message shows a value.
-/

namespace CallLint.Yaml

open Decimal

/-- A day of the calendar. -/
structure Date where
  year : Nat
  month : Nat
  day : Nat
deriving DecidableEq, Repr, Inhabited

/-- A time of day. -/
structure Clock where
  hour : Nat
  minute : Nat
  second : Nat
  micro : Nat
deriving DecidableEq, Repr, Inhabited

/-- Whether a year has 366 days. -/
def isLeap (year : Nat) : Bool := year % 4 == 0 && (year % 100 != 0 || year % 400 == 0)

/-- The number of days before a day, counted from the first day of year 1. -/
def Date.daysBefore (d : Date) : Nat :=
  let past := d.year - 1
  let months := [0, 31, 59, 90, 120, 151, 181, 212, 243, 273, 304, 334]
  past * 365 + past / 4 - past / 100 + past / 400 + (months[d.month - 1]?).getD 0 +
    (if isLeap d.year && 2 < d.month then 1 else 0) + (d.day - 1)

/-- The microseconds since midnight. -/
def Clock.micros (c : Clock) : Nat := ((c.hour * 60 + c.minute) * 60 + c.second) * 1000000 + c.micro

/-- The microseconds of a point in time, counted in universal time if its zone, in minutes, is known. -/
def instant (d : Date) (c : Clock) (zone : Option Int) : Int :=
  (d.daysBefore : Int) * 86400000000 + c.micros - zone.getD 0 * 60000000

/-- A value. A collection that contains itself holds a mark, `loopList` or `loopMap`, at the inner place. -/
inductive Value where
  | null
  | bool (b : Bool)
  | int (n : Int)
  | real (x : Binary64)
  | text (t : Text)
  | bytes (bs : List UInt8)
  | date (d : Date)
  | moment (d : Date) (c : Clock) (zone : Option Int)
  | list (items : List Value)
  | pairs (entries : List (Value × Value))
  | set (items : List Value)
  | map (entries : List (Value × Value))
  | loopList
  | loopMap
deriving Inhabited, Repr

namespace Value

/-- The number of a number or truth value, as a value of a syntax tree. -/
def number? : Value → Option Tree
  | bool b => some (.bool b)
  | int n => some (.int n)
  | real x => some (.real x)
  | _ => none

/-- Whether two scalars are the same key: numbers are compared as numbers, points in time with a zone in universal time, other
scalars by kind and content. -/
def sameKey (a b : Value) : Bool :=
  match a.number?, b.number? with
  | some x, some y => x.same y
  | none, none =>
    match a, b with
    | null, null => true
    | text s, text t => s == t
    | bytes s, bytes t => s == t
    | date d, date e => d == e
    | moment d c z, moment e f y => z.isSome == y.isSome && instant d c z == instant e f y
    | _, _ => false
  | _, _ => false

/-- Whether a value can be a key: every scalar can, no collection can. -/
def isKey : Value → Bool
  | list _ | pairs _ | set _ | map _ | loopList | loopMap => false
  | _ => true

/-- Adds an entry; a key that is there keeps its place and takes the new value. -/
def put (entries : List (Value × Value)) (k v : Value) : List (Value × Value) :=
  match entries with
  | [] => [(k, v)]
  | (k', v') :: rest => if k'.sameKey k then (k', v) :: rest else (k', v') :: put rest k v

/-- The entries with each key once, the last value of a key standing. -/
def putAll (entries : List (Value × Value)) : List (Value × Value) :=
  entries.foldl (fun acc e => put acc e.1 e.2) []

/-- The value under a text key. -/
def lookup (entries : List (Value × Value)) (key : String) : Option Value :=
  (entries.find? fun e => e.1.sameKey (text (Text.ofString key))).map (·.2)

/-- A whole number in decimal digits. -/
def writeInt (n : Int) : List Char := if n < 0 then '-' :: digitsOf n.natAbs else digitsOf n.natAbs

/-- The parts of a list, a comma and a space between them. -/
def commas : List (List Char) → List Char
  | [] => []
  | [p] => p
  | p :: ps => p ++ ',' :: ' ' :: commas ps

/-- A constructor call with arguments. -/
def writeCall (name : String) (args : List (List Char)) : List Char := name.toList ++ '(' :: commas args ++ [')']

/-- A time zone, given by its distance in minutes from universal time. -/
def writeZone (minutes : Int) : List Char :=
  if minutes == 0 then "datetime.timezone.utc".toList
  else
    let seconds := minutes * 60
    let days := if seconds < 0 then ["days=-1".toList] else []
    let rest := if seconds < 0 then seconds + 86400 else seconds
    writeCall "datetime.timezone"
      [writeCall "datetime.timedelta" (days ++ if rest == 0 then [] else ["seconds=".toList ++ writeInt rest])]

/-- The numbers of a point in time; seconds and microseconds are left out from the end while they are zero. -/
def momentNumbers (d : Date) (c : Clock) : List Nat :=
  let fraction := if c.micro == 0 then (if c.second == 0 then [] else [c.second]) else [c.second, c.micro]
  [d.year, d.month, d.day, c.hour, c.minute] ++ fraction

mutual

/-- The text by which a message shows a value. -/
def write : Value → List Char
  | null => "None".toList
  | bool b => (if b then "True" else "False").toList
  | int n => writeInt n
  | real x => x.write realLayout
  | text t => Text.quoted t
  | bytes bs => Text.quotedBytes bs
  | date d => writeCall "datetime.date" [digitsOf d.year, digitsOf d.month, digitsOf d.day]
  | moment d c zone =>
    let zone := match zone with
      | some m => ["tzinfo=".toList ++ writeZone m]
      | none => []
    writeCall "datetime.datetime" ((momentNumbers d c).map digitsOf ++ zone)
  | list items => '[' :: commas (writeAll items) ++ [']']
  | pairs entries => '[' :: commas (writePairs entries) ++ [']']
  | set [] => "set()".toList
  | set (x :: xs) => '\x7b' :: commas (write x :: writeAll xs) ++ ['\x7d']
  | map entries => '\x7b' :: commas (writeEntries entries) ++ ['\x7d']
  | loopList => "[...]".toList
  | loopMap => "\x7b...\x7d".toList

/-- The texts of several values. -/
def writeAll : List Value → List (List Char)
  | [] => []
  | x :: xs => write x :: writeAll xs

/-- The texts of the entries of a mapping. -/
def writeEntries : List (Value × Value) → List (List Char)
  | [] => []
  | (k, v) :: rest => (write k ++ ':' :: ' ' :: write v) :: writeEntries rest

/-- The texts of pairs. -/
def writePairs : List (Value × Value) → List (List Char)
  | [] => []
  | (k, v) :: rest => ('(' :: commas [write k, write v] ++ [')']) :: writePairs rest

end

/-- Whole numbers with more decimal digits than this are not written. -/
def maxWrittenDigits : Nat := 4300

mutual

/-- Whether every whole number in the value is short enough to be written. -/
def writable : Value → Bool
  | int n => n.natAbs < Nat.pow 10 maxWrittenDigits
  | list items | set items => writableAll items
  | pairs entries | map entries => writableEntries entries
  | _ => true

/-- `writable` for several values. -/
def writableAll : List Value → Bool
  | [] => true
  | x :: xs => writable x && writableAll xs

/-- `writable` for entries. -/
def writableEntries : List (Value × Value) → Bool
  | [] => true
  | (k, v) :: rest => writable k && writable v && writableEntries rest

end

end Value

end CallLint.Yaml
