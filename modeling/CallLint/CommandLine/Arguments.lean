import CallLint.CommandLine.Flag
import CallLint.Settings.File
import CallLint.Text.Digit
import CallLint.Text.Quoted

/-!
# Arguments of the command line

First every word is classified: an option, perhaps abbreviated or with a value attached, a word that looks like an option, or
a plain word. Then the words are taken in order. There are no arguments without an option, so plain words that no option takes
are refused at the end.
-/

namespace CallLint.CommandLine

/-- What the command line asks for. An option can be given and yet be left without a value; its value is then `none`. -/
structure Arguments where
  sources : List (Option (List Char)) := []
  config : Option (List Char) := some Settings.fileName.toList
  format : Option (List Char) := some ['j', 's', 'o', 'n']
  out : Option (List Char) := none
  failOn : Option (Option Severity) := none
  suggestFixes : Bool := false
  verbose : Bool := false
deriving DecidableEq, Repr, Inhabited

/-- Why a command line is refused. -/
inductive UsageError where
  | ambiguous (word : List Char) (spellings : List (List Char))
  | noValue (f : Flag)
  | badChoice (f : Flag) (value : List Char) (choices : List String)
  | unusedValue (f : Flag) (value : List Char)
  | unrecognized (words : List (List Char))
deriving DecidableEq, Repr, Inhabited

namespace UsageError

/-- Texts with a separator between them. -/
def joined (sep : List Char) : List (List Char) → List Char
  | [] => []
  | [t] => t
  | t :: ts => t ++ sep ++ joined sep ts

/-- A text between quotes. -/
def quote (cs : List Char) : List Char := Text.quoted (Text.ofChars cs)

/-- A message about an option. -/
def about (f : Flag) (detail : List Char) : List Char := "argument ".toList ++ f.name.toList ++ ':' :: ' ' :: detail

/-- The wording of the error. -/
def message : UsageError → List Char
  | ambiguous word spellings =>
    "ambiguous option: ".toList ++ word ++ " could match ".toList ++ joined [',', ' '] spellings
  | noValue f => about f "expected one argument".toList
  | badChoice f value choices =>
    about f ("invalid choice: ".toList ++ quote value ++ " (choose from ".toList ++
      joined [',', ' '] (choices.map fun c => quote c.toList) ++ [')'])
  | unusedValue f value => about f ("ignored explicit argument ".toList ++ quote value)
  | unrecognized words => "unrecognized arguments: ".toList ++ joined [' '] words

end UsageError

/-- What a word is taken for. -/
inductive Word where
  | plain
  | separator
  | unknown
  | option (f : Flag) (isShort : Bool) (attached : Option (List Char))
deriving DecidableEq, Repr, Inhabited

namespace Word

/-- A word up to its first equals sign, and what follows the sign. -/
def splitEquals (w : List Char) : List Char × Option (List Char) :=
  match w.span (· != '=') with
  | (before, _ :: after) => (before, some after)
  | (before, []) => (before, none)

/-- Whether a spelling has one dash. -/
def hasOneDash (s : List Char) : Bool := s.drop 1 |>.head? |>.any (· != '-')

/-- Whether the characters are digits of any script; a line feed may follow them. -/
def isDigits : List Char → Bool
  | [] => false
  | d :: rest => Text.isDecimal d && (rest.isEmpty || rest == ['\n'] || isDigits rest)

/-- Whether the word is a negative number in digits, perhaps with a point. -/
def isNegativeNumber : List Char → Bool
  | '-' :: rest =>
    match rest.dropWhile Text.isDecimal with
    | '.' :: after => isDigits after
    | _ => isDigits rest
  | _ => false

/-- The readings of a word that is not spelled out: long options that it begins, or a short option with a value attached. -/
def readings (w : List Char) : List (List Char × Word) :=
  if hasOneDash w then
    Flag.spelled.filterMap fun (s, f) => if s == w.take 2 then some (s, option f true (some (w.drop 2))) else none
  else
    let (name, attached) := splitEquals w
    Flag.spelled.filterMap fun (s, f) => if name.isPrefixOf s then some (s, option f false attached) else none

/-- What a word that is not spelled out is taken for. -/
def classifyShortened (w : List Char) : Except UsageError Word :=
  match readings w with
  | [(_, r)] => .ok r
  | [] => .ok (if isNegativeNumber w || w.contains ' ' then plain else unknown)
  | rs => .error (.ambiguous w (rs.map (·.1)))

/-- What a word before the separator is taken for. -/
def classify (w : List Char) : Except UsageError Word :=
  if w.head? != some '-' then .ok plain
  else
    let (name, attached) := splitEquals w
    match Flag.ofSpelling? w, Flag.ofSpelling? name with
    | some f, _ => .ok (option f (hasOneDash w) none)
    | none, some f => if attached.isSome then .ok (option f (hasOneDash name) attached) else .ok plain
    | none, none => if w.length == 1 then .ok plain else classifyShortened w

/-- The words with what they are taken for; two dashes make all words after them plain. -/
def classifyAll : List (List Char) → Except UsageError (List (List Char × Word))
  | [] => .ok []
  | w :: ws =>
    if w == ['-', '-'] then .ok ((w, separator) :: ws.map fun v => (v, plain))
    else do
      let r ← classify w
      return (w, r) :: (← classifyAll ws)

end Word

/-- An option with its value, if it has one. -/
structure Given where
  flag : Flag
  value : Option (List Char) := none
deriving DecidableEq, Repr, Inhabited

/-- An option with a value attached to it. Two dashes are no value: they are taken away and leave the option without one. -/
def Given.ofAttached (f : Flag) (cs : List Char) : Given := ⟨f, if cs == ['-', '-'] then none else some cs⟩

/-- What is attached to a short option: a value, or further short options, of which the last may be open for a value in the
next word. -/
def attachedTo (f : Flag) : List Char → Except UsageError (List Given × Option Flag)
  | [] => if f.takesValue then .ok ([.ofAttached f []], none) else .error (.unusedValue f [])
  | c :: cs =>
    if f.takesValue then .ok ([.ofAttached f (c :: cs)], none)
    else
      match Flag.ofSpelling? ['-', c], cs with
      | none, _ => .error (.unusedValue f (c :: cs))
      | some g, [] => .ok ([⟨f, none⟩], some g)
      | some g, _ => do
        let (more, last) ← attachedTo g cs
        return (⟨f, none⟩ :: more, last)

/-- What an option with something attached to it gives, and the option that is open. -/
def given (f : Flag) (isShort : Bool) : Option (List Char) → Except UsageError (List Given × Option Flag)
  | none => .ok ([], some f)
  | some cs =>
    if isShort then attachedTo f cs
    else if f.takesValue then .ok ([.ofAttached f cs], none)
    else .error (.unusedValue f cs)

/-- Why taking arguments ends early: help is asked for, or there is an error. -/
inductive Stop where
  | help
  | usage (e : UsageError)
deriving DecidableEq, Repr, Inhabited

namespace Arguments

/-- Takes an option. -/
def take (a : Arguments) (g : Given) : Except Stop Arguments :=
  let refused := match g.flag.choices, g.value with
    | some cs, some v => if cs.any fun c => c.toList == v then none else some (v, cs)
    | _, _ => none
  match refused, g.flag with
  | some (v, cs), f => .error (.usage (.badChoice f v cs))
  | none, .help => .error .help
  | none, .source => .ok { a with sources := a.sources ++ [g.value] }
  | none, .config => .ok { a with config := g.value }
  | none, .format => .ok { a with format := g.value }
  | none, .out => .ok { a with out := g.value }
  | none, .failOn =>
    .ok { a with failOn := some (g.value.bind fun v => Severity.all.find? fun s => s.lowerLabel.toList == v) }
  | none, .suggestFixes => .ok { a with suggestFixes := true }
  | none, .verbose => .ok { a with verbose := true }

/-- Takes options in order. -/
def takeAll (a : Arguments) : List Given → Except Stop Arguments
  | [] => .ok a
  | g :: gs => do (← a.take g).takeAll gs

/-- Takes classified words in order; `extra` are those that nothing took. -/
def takeWords (a : Arguments) (extra : List (List Char)) :
    List (List Char × Word) → Except Stop (Arguments × List (List Char))
  | [] => .ok (a, extra)
  | (_, .option f isShort attached) :: rest =>
    match given f isShort attached with
    | .error e => .error (.usage e)
    | .ok (gs, none) => do (← a.takeAll gs).takeWords extra rest
    | .ok (gs, some g) =>
      if g.takesValue then
        match rest with
        | (value, .plain) :: rest => do (← a.takeAll (gs ++ [⟨g, some value⟩])).takeWords extra rest
        | _ => .error (.usage (.noValue g))
      else do (← a.takeAll (gs ++ [⟨g, none⟩])).takeWords extra rest
  | (w, _) :: rest => a.takeWords (extra ++ [w]) rest

/-- The arguments that the words of a command line give. -/
def ofWords (ws : List (List Char)) : Except Stop Arguments :=
  match Word.classifyAll ws with
  | .error e => .error (.usage e)
  | .ok classified => do
    match ← takeWords {} [] classified with
    | (a, []) => return a
    | (_, extra) => throw (.usage (.unrecognized extra))

end Arguments

end CallLint.CommandLine
