import CallLint.Text.Names.Aliases
import CallLint.Text.Names.Alphabets
import CallLint.Text.Names.Ancient
import CallLint.Text.Names.Asian
import CallLint.Text.Names.Cuneiform
import CallLint.Text.Names.Forms
import CallLint.Text.Names.Hieroglyphs
import CallLint.Text.Names.Indic
import CallLint.Text.Names.Notations
import CallLint.Text.Names.Pictographs
import CallLint.Text.Names.Shorthands
import CallLint.Text.Names.Syllabaries
import CallLint.Text.Names.Symbols
import CallLint.Text.Ranges

/-!
# Character names

The characters of Unicode 14.0 by name. Most names are listed in tables, in runs of entries that share words with the name
before them and use shorthands for frequent words; names that only count up are not written out. The names of Hangul
syllables are put together from the names of their letters, and some names are a title with the character's number; of
these, the names of syllables and unified ideographs are only known in upper case.
-/

namespace CallLint.Text

namespace Names

/-- The parts of a text between the characters that end one. -/
def parts (ends : Char → Bool) (cs : List Char) : List (List Char) :=
  cs.foldr (fun c parts =>
    if ends c then [] :: parts else match parts with
      | part :: rest => (c :: part) :: rest
      | [] => [[c]]) [[]]

/-- The number that decimal digits spell. -/
def decimal (ds : List Char) : Nat := ds.foldl (fun n d => n * 10 + (d.toNat - '0'.toNat)) 0

/-- A text with the number at its end counted up. -/
def countUp (cs : List Char) : List Char := (next cs.reverse).reverse
where
  /-- The same for the characters from the last one on. -/
  next : List Char → List Char
    | [] => []
    | d :: ds => if d == '9' then '0' :: next ds else Char.ofNat (d.toNat + 1) :: ds

/-- The next texts that count up from one. -/
def counted (before : List Char) : Nat → List (List Char)
  | 0 => []
  | n + 1 => countUp before :: counted (countUp before) n

/-- The entries of a table without its counts: a plus sign with a number stands for that many further entries, each of which
counts up from the one before. -/
def unroll (before : List Char) : List (List Char) → List (List Char)
  | [] => []
  | entry :: rest => match entry with
    | '+' :: ds =>
      let run := counted before (decimal ds)
      run ++ unroll (run.getLastD before) rest
    | _ => entry :: unroll entry rest

/-- The entries of a table, which end with a semicolon or a line break and may be indented. -/
def entries (cs : List Char) : List (List Char) :=
  unroll [] ((parts (fun c => c == ';' || c == '\n') cs).map (List.dropWhile (· == ' ')))

/-- The words that two small letters stand for, by the place of the letters in the alphabet. -/
def shorthandWords : Array (List Char) := (shorthands.flatMap fun row => entries row.toList).toArray

/-- A text with the words of its shorthands, set off by blanks. -/
def expand : List Char → List Char
  | [] => []
  | [c] => [c]
  | a :: b :: rest =>
    if a.isLower then
      let place := (a.toNat - 'a'.toNat) * 26 + (b.toNat - 'a'.toNat)
      ' ' :: shorthandWords.getD place [] ++ ' ' :: expand rest
    else a :: expand (b :: rest)

/-- The words of an entry behind the name `before`. A digit in front says how many first words of that name the entry keeps,
and one behind a slash at the end how many last words. -/
def entryWords (before : List (List Char)) (entry : List Char) : List (List Char) :=
  let digit (c : Char) := c.toNat - '0'.toNat
  let (first, rest) := match entry with
    | c :: cs => if c.isDigit then (digit c, cs) else (0, entry)
    | [] => (0, [])
  let (middle, mark) := rest.span (· != '/')
  let last := match mark with
    | [_, c] => digit c
    | _ => 0
  before.take first ++ (parts (· == ' ') (expand middle)).filter (!·.isEmpty) ++ before.drop (before.length - last)

/-- The number of the entry whose words are the name's, among entries behind the name `before`. -/
def indexOf (name : List (List Char)) (index : Nat) (before : List (List Char)) : List (List Char) → Option Nat
  | [] => none
  | entry :: rest =>
    let words := entryWords before entry
    if words == name then some index else indexOf name (index + 1) words rest

/-- The tables of names. -/
def tables : List (List (Nat × String)) := [
  alphabets, indic, syllabaries, symbols, asian, forms, ancient, cuneiform, hieroglyphs, notations, pictographs]

/-- The number of the character with a listed name. -/
def listed? (name : List Char) : Option Nat :=
  let words := parts (· == ' ') name
  tables.findSome? fun table =>
    table.findSome? fun (start, names) => (indexOf words 0 [] (entries names.toList)).map (start + ·)

/-- The number of the character with a further name. -/
def alias? (name : List Char) : Option Nat :=
  (aliases.find? fun (_, s) => s.toList == name).map (·.1)

/-- The value of a digit, or of a letter from `A` to `F`. -/
def upperHex? (c : Char) : Option Nat :=
  if c.isDigit then some (c.toNat - '0'.toNat)
  else if 'A' ≤ c && c ≤ 'F' then some (c.toNat - 'A'.toNat + 10)
  else none

/-- The number that four or five hexadecimal digits spell. -/
def number? (cs : List Char) : Option Nat :=
  if cs.length == 4 || cs.length == 5 then
    (cs.mapM upperHex?).map fun ds => ds.foldl (fun n d => n * 16 + d) 0
  else none

/-- The number of a character that is named by a title and its number, which lies in some ranges. -/
def numbered? (title : String) (ranges : List (Nat × Nat)) (name : List Char) : Option Nat :=
  if title.toList.isPrefixOf name then
    match number? (name.drop title.length) with
    | some n => if inRanges ranges n then some n else none
    | none => none
  else none

/-- The numbers of the unified ideographs. -/
def unifiedRanges : List (Nat × Nat) := [
  (0x3400, 6592), (0x4E00, 20992), (0x20000, 42720), (0x2A700, 4153), (0x2B740, 222), (0x2B820, 5762),
  (0x2CEB0, 7473), (0x30000, 4939)]

/-- Titles that are followed by a number without a zero before it, with the ranges of the numbers. -/
def titles : List (String × List (Nat × Nat)) := [
  ("CJK COMPATIBILITY IDEOGRAPH-", [(0xF900, 366), (0xFA70, 106), (0x2F800, 542)]),
  ("KHITAN SMALL SCRIPT CHARACTER-", [(0x18B00, 470)]),
  ("NUSHU CHARACTER-", [(0x1B170, 396)])]

/-- The number of a character whose name is one of the titles with a number. -/
def titled? (name : List Char) : Option Nat :=
  titles.findSome? fun (title, ranges) =>
    if (name.drop title.length).head? == some '0' then none else numbered? title ranges name

/-- The number of a variation selector, of which there are 256, by its abbreviated name. -/
def selector? : List Char → Option Nat
  | 'V' :: 'S' :: ds =>
    let n := decimal ds
    if ds.isEmpty || ds.length > 3 || !ds.all Char.isDigit || ds.head? == some '0' || n > 256 then none
    else if n ≤ 16 then some (0xFE00 + n - 1)
    else some (0xE0100 + n - 17)
  | _ => none

/-- The names of the letters that begin a syllable. -/
def leads : List String := [
  "G", "GG", "N", "D", "DD", "R", "M", "B", "BB", "S", "SS", "", "J", "JJ", "C", "K", "T", "P", "H"]

/-- The names of the vowels of a syllable. -/
def vowels : List String := [
  "A", "AE", "YA", "YAE", "EO", "E", "YEO", "YE", "O", "WA", "WAE", "OE", "YO", "U", "WEO", "WE", "WI", "YU", "EU", "YI",
  "I"]

/-- The names of the letters that end a syllable; the first is that of no letter. -/
def trails : List String := [
  "", "G", "GG", "GS", "N", "NJ", "NH", "D", "L", "LG", "LM", "LB", "LS", "LT", "LP", "LH", "M", "B", "BS", "S", "SS",
  "NG", "J", "C", "K", "T", "P", "H"]

/-- The place in a list of the longest name that a text begins with, and the rest of the text. -/
def longest? (names : List String) (cs : List Char) : Option (Nat × List Char) :=
  let hits := names.zipIdx.filter fun (s, _) => s.toList.isPrefixOf cs
  let best := hits.foldl (fun b h => match b with
    | some (s, i) => if s.length < h.1.length then some h else some (s, i)
    | none => some h) (none : Option (String × Nat))
  best.map fun (s, i) => (i, cs.drop s.length)

/-- The number of a syllable by the names of its letters. -/
def syllable? (cs : List Char) : Option Nat := do
  let (l, cs) ← longest? leads cs
  let (v, cs) ← longest? vowels cs
  let (t, cs) ← longest? trails cs
  if cs.isEmpty then some (0xAC00 + (l * 21 + v) * 28 + t) else none

end Names

open Names in
/-- The number of the character with the given name. -/
def charNamed (name : List Char) : Option Nat :=
  let syllable := "HANGUL SYLLABLE ".toList
  let unified := "CJK UNIFIED IDEOGRAPH-"
  if syllable.isPrefixOf name then syllable? (name.drop syllable.length)
  else if unified.toList.isPrefixOf name then numbered? unified unifiedRanges name
  else
    let upper := name.map Char.toUpper
    [titled?, selector?, alias?, listed?].findSome? fun find => find upper

end CallLint.Text
