import CallLint.Yaml.Time

/-!
# Kinds of nodes

Every node of a settings text has a kind: the one that its tag names, or for a plain scalar without a tag the one that its
text has the form of.
-/

namespace CallLint.Yaml

/-- The kinds. `other` is a tag that nothing is known about; `merge` and `default` are those of the keys `<<` and `=`. -/
inductive Kind where
  | null
  | bool
  | int
  | real
  | binary
  | timestamp
  | text
  | sequence
  | mapping
  | set
  | orderedMap
  | pairs
  | merge
  | default
  | other
deriving DecidableEq, Repr, Inhabited

namespace Kind

/-- What the tags of the known kinds begin with. -/
def tagSpace : List Char := "tag:yaml.org,2002:".toList

/-- The tags of the known kinds, without their common beginning. -/
def tagNames : List (List Char × Kind) := [
  ("null".toList, null), ("bool".toList, bool), ("int".toList, int), ("float".toList, real), ("binary".toList, binary),
  ("timestamp".toList, timestamp), ("str".toList, text), ("seq".toList, sequence), ("map".toList, mapping),
  ("set".toList, set), ("omap".toList, orderedMap), ("pairs".toList, pairs), ("merge".toList, merge),
  ("value".toList, default)]

/-- The kind that a tag names. -/
def ofTag (tag : List Char) : Kind :=
  if tagSpace.isPrefixOf tag then (tagNames.lookup (tag.drop tagSpace.length)).getD other else other

/-- Whether values of the kind are built of further values. -/
def isCollection : Kind → Bool
  | sequence | mapping | set | orderedMap | pairs => true
  | _ => false

/-- The words for truth values, in lower case. -/
def truthWords : List (List Char × Bool) := [
  ("yes".toList, true), ("no".toList, false), ("true".toList, true), ("false".toList, false), ("on".toList, true),
  ("off".toList, false)]

/-- Whether a word is in lower case, capitalized, or in upper case. -/
def evenCase (cs : List Char) : Bool :=
  match cs with
  | [] => true
  | c :: rest => rest.all Char.isLower || (c.isUpper && rest.all Char.isUpper)

/-- Whether the text is a word for a truth value. -/
def isTruth (cs : List Char) : Bool := evenCase cs && (truthWords.lookup (cs.map Char.toLower)).isSome

/-- Whether the text is a word for the absence of a value. -/
def isNull (cs : List Char) : Bool := ["~", "null", "Null", "NULL"].any fun w => w.toList == cs

/-- Without a sign at the beginning. -/
def unsigned : List Char → List Char
  | '-' :: rest => rest
  | '+' :: rest => rest
  | cs => cs

/-- Digits with underscores, beginning with one that `first` accepts. -/
def isDigits (first : Char → Bool) : List Char → Bool
  | [] => false
  | d :: rest => first d && rest.all fun c => c.isDigit || c == '_'

/-- Digits in base 60: one digit or two, the first of two less than six. -/
def isSixty : List Char → Bool
  | [d] => d.isDigit
  | [d, e] => '0' ≤ d && d ≤ '5' && e.isDigit
  | _ => false

/-- The parts of a text between colons. -/
def colonParts : List Char → List (List Char)
  | [] => [[]]
  | ':' :: rest => [] :: colonParts rest
  | c :: rest =>
    match colonParts rest with
    | p :: ps => (c :: p) :: ps
    | [] => [[c]]

/-- Whether the digits after the first part are digits in base 60, one part at least. -/
def hasSixties (parts : List (List Char)) : Bool := parts.length ≥ 2 && (parts.drop 1).all isSixty

/-- Whether the text has the form of a whole number: decimal, binary, octal, hexadecimal, or in base 60. -/
def isInt (cs : List Char) : Bool :=
  let nonzero (c : Char) : Bool := c.isDigit && c != '0'
  match unsigned cs with
  | ['0'] => true
  | '0' :: 'b' :: rest => !rest.isEmpty && rest.all fun c => c == '0' || c == '1' || c == '_'
  | '0' :: 'x' :: rest =>
    !rest.isEmpty && rest.all fun c => c.isDigit || ('a' ≤ c && c ≤ 'f') || ('A' ≤ c && c ≤ 'F') || c == '_'
  | '0' :: rest => rest.all fun c => ('0' ≤ c && c ≤ '7') || c == '_'
  | rest =>
    let parts := colonParts rest
    isDigits nonzero (parts.headD []) && (parts.length == 1 || hasSixties parts)

/-- Whether the text is an exponent with its sign, or nothing. -/
def isExponent : List Char → Bool
  | [] => true
  | e :: sign :: rest => (e == 'e' || e == 'E') && (sign == '-' || sign == '+') && !rest.isEmpty && rest.all Char.isDigit
  | _ => false

/-- Whether the text is what may follow a decimal point: digits with underscores, and an exponent. -/
def isFraction (cs : List Char) : Bool := isExponent (cs.dropWhile fun c => c.isDigit || c == '_')

/-- Whether the text has the form of a number with a decimal point. -/
def isReal (cs : List Char) : Bool :=
  let body := unsigned cs
  let (whole, rest) := body.span (· != '.')
  let parts := colonParts whole
  let infinite := ["inf", "Inf", "INF"].any fun w => '.' :: w.toList == body
  let missing := ["nan", "NaN", "NAN"].any fun w => '.' :: w.toList == cs
  let decimal := match whole, rest with
    | [], _ :: d :: rest => body.length == cs.length && d.isDigit && isFraction rest
    | _, _ :: rest =>
      isDigits Char.isDigit (parts.headD []) &&
        if parts.length == 1 then isFraction rest
        else hasSixties parts && rest.all fun c => c.isDigit || c == '_'
    | _, [] => false
  infinite || missing || decimal

/-- Whether the text has the form of a day or point in time. -/
def isTimestamp (cs : List Char) : Bool := (Stamp.read? cs).any Stamp.isEvident

/-- The text without one line feed at its end. -/
def withoutLast (cs : List Char) : List Char :=
  if cs.getLast? == some '\n' then cs.dropLast else cs

/-- The kind that the text of a plain scalar has the form of. -/
def ofPlain (cs : List Char) : Kind :=
  let body := withoutLast cs
  if cs.isEmpty || isNull body then null
  else if isTruth body then bool
  else if isReal body then real
  else if isInt body then int
  else if body == ['<', '<'] then merge
  else if isTimestamp body then timestamp
  else if body == ['='] then default
  else if body == ['!'] || body == ['&'] || body == ['*'] then other
  else text

/-- The kind that the text of a scalar has the form of; a lone surrogate is in no form. -/
def ofText (t : Text) : Kind :=
  match t.toChars? with
  | some cs => ofPlain cs
  | none => text

end Kind

end CallLint.Yaml
