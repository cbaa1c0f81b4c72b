/-!
# UTF-8

Reading bytes strictly: overlong forms, surrogates and numbers above `U+10FFFF` are refused. Columns of syntax nodes
count bytes, so a cut by bytes is turned into a number of characters here too.
-/

namespace CallLint.Text.Utf8

/-- The low six bits of a continuation byte. -/
def tail? (b : UInt8) : Option Nat :=
  if 0x80 ≤ b && b < 0xC0 then some (b.toNat - 0x80) else none

/-- A character with a number in the range that its length is for. -/
def charAtLeast? (least n : Nat) : Option Char :=
  if h : n.isValidChar then (if least ≤ n then some (Char.ofNatAux n h) else none) else none

/-- The characters of a byte string, if it is well-formed. -/
def decode? : List UInt8 → Option (List Char)
  | [] => some []
  | a :: rest =>
    if a < 0x80 then (decode? rest).map (Char.ofNat a.toNat :: ·)
    else match rest with
      | [] => none
      | b :: rest =>
        match tail? b with
        | none => none
        | some y =>
          if 0xC0 ≤ a && a < 0xE0 then
            (charAtLeast? 0x80 ((a.toNat - 0xC0) * 64 + y)).bind fun c => (decode? rest).map (c :: ·)
          else match rest with
            | [] => none
            | c :: rest =>
              match tail? c with
              | none => none
              | some z =>
                if 0xE0 ≤ a && a < 0xF0 then
                  (charAtLeast? 0x800 (((a.toNat - 0xE0) * 64 + y) * 64 + z)).bind fun c =>
                    (decode? rest).map (c :: ·)
                else match rest with
                  | [] => none
                  | d :: rest =>
                    match tail? d with
                    | none => none
                    | some w =>
                      if 0xF0 ≤ a && a < 0xF8 then
                        (charAtLeast? 0x10000 ((((a.toNat - 0xF0) * 64 + y) * 64 + z) * 64 + w)).bind fun c =>
                          (decode? rest).map (c :: ·)
                      else none

/-- The number of bytes of a list of characters. -/
def size (cs : List Char) : Nat := cs.foldr (fun c n => c.utf8Size + n) 0

/-- How many characters the first `k` bytes hold; `none` if the cut falls inside a character. -/
def charsInBytes? : Nat → List Char → Option Nat
  | _, [] => some 0
  | k, c :: cs =>
    if k == 0 then some 0
    else if c.utf8Size ≤ k then (charsInBytes? (k - c.utf8Size) cs).map (· + 1)
    else none

end CallLint.Text.Utf8
