import GymLang.Json.Literal

/-!
# Reading JSON

A reader of JSON text.  Of members with the same name the last one counts.  A number too
large for binary64 and an escape that stands for half a character are refused, as is
anything but blanks after the value.

Reading takes an allowance that bounds the nesting of calls; the length of the text is
enough, since every call leaves a shorter rest.
-/

namespace GymLang
namespace Json
namespace Reader

/-- The text after blanks. -/
def skipBlanks (t : Text) : Text :=
  t.dropWhile fun c => c == ' ' || c == '\t' || c == '\n' || c == '\r'

/-- Value of a hexadecimal digit. -/
def hexValue? (c : Char) : Option Nat :=
  if '0' ≤ c && c ≤ '9' then some (c.toNat - '0'.toNat)
  else if 'a' ≤ c && c ≤ 'f' then some (c.toNat - 'a'.toNat + 10)
  else if 'A' ≤ c && c ≤ 'F' then some (c.toNat - 'A'.toNat + 10)
  else none

/-- Four hexadecimal digits and what follows them. -/
def hexUnit? : Text → Option (Nat × Text)
  | a :: b :: c :: d :: rest => do
    let a ← hexValue? a
    let b ← hexValue? b
    let c ← hexValue? c
    let d ← hexValue? d
    return (((a * 16 + b) * 16 + c) * 16 + d, rest)
  | _ => none

/-- The character of an escape by code units, of which there are two from U+10000 on. -/
def unicodeEscape? (t : Text) : Option (Char × Text) := do
  let (high, rest) ← hexUnit? t
  if 0xD800 ≤ high ∧ high < 0xDC00 then
    match rest with
    | '\\' :: 'u' :: rest =>
      let (low, rest) ← hexUnit? rest
      if 0xDC00 ≤ low ∧ low < 0xE000 then
        return (Char.ofNat (0x10000 + (high - 0xD800) * 0x400 + (low - 0xDC00)), rest)
      else none
    | _ => none
  else if 0xDC00 ≤ high ∧ high < 0xE000 then none
  else return (Char.ofNat high, rest)

/-- The character of an escape of one letter. -/
def shortEscape? (c : Char) : Option Char :=
  match c with
  | '"' => some '"'
  | '\\' => some '\\'
  | '/' => some '/'
  | 'b' => some '\x08'
  | 'f' => some '\x0c'
  | 'n' => some '\n'
  | 'r' => some '\r'
  | 't' => some '\t'
  | _ => none

/-- The characters of a string after its opening quote, in reverse on top of `done`, and
what follows the closing quote. -/
def stringBody? (allowance : Nat) (done t : Text) : Option (Text × Text) :=
  match allowance with
  | 0 => none
  | allowance + 1 =>
    match t with
    | '"' :: rest => some (done.reverse, rest)
    | '\\' :: 'u' :: rest =>
      match unicodeEscape? rest with
      | some (c, rest) => stringBody? allowance (c :: done) rest
      | none => none
    | '\\' :: c :: rest =>
      match shortEscape? c with
      | some c => stringBody? allowance (c :: done) rest
      | none => none
    | c :: rest => if c.toNat < 0x20 then none else stringBody? allowance (c :: done) rest
    | [] => none

/-- Whether a text is the whole part of a number: digits, of which a zero stands alone. -/
def isWholePart : Text → Bool
  | [] => false
  | ['0'] => true
  | '0' :: _ => false
  | _ => true

/-- The number a literal stands for.  The point belongs to the fraction, and the letter to
the exponent. -/
def numberOf? (negative : Bool) (whole fraction exponent : Text) : Option Json :=
  if fraction.isEmpty && exponent.isEmpty then Literal.whole? negative whole
  else (Number.readExponent? exponent).bind (Literal.float? negative whole fraction.tail)

/-- A number and what follows it. -/
def number? (t : Text) : Option (Json × Text) :=
  let (negative, t) := match t with
    | '-' :: rest => (true, rest)
    | _ => (false, t)
  let whole := t.takeWhile Text.isDigit
  let t := t.dropWhile Text.isDigit
  let (fraction, t) := match t with
    | '.' :: rest => ('.' :: rest.takeWhile Text.isDigit, rest.dropWhile Text.isDigit)
    | _ => ([], t)
  let (exponent, t) := match t with
    | c :: rest =>
      if c = 'e' ∨ c = 'E' then
        let (sign, rest) := match rest with
          | '+' :: more => (['+'], more)
          | '-' :: more => (['-'], more)
          | _ => ([], rest)
        (c :: sign ++ rest.takeWhile Text.isDigit, rest.dropWhile Text.isDigit)
      else ([], t)
    | [] => ([], t)
  if isWholePart whole && fraction != ['.'] then
    (numberOf? negative whole fraction exponent).map (·, t)
  else none

/-- Gives a name its value, in the place of an earlier one. -/
def setMember (name : String) (value : Json) : List (String × Json) → List (String × Json)
  | [] => [(name, value)]
  | (n, v) :: rest => if n = name then (n, value) :: rest else (n, v) :: setMember name value rest

mutual

/-- A value and what follows it. -/
def value? (allowance : Nat) (t : Text) : Option (Json × Text) :=
  match allowance with
  | 0 => none
  | allowance + 1 =>
    match skipBlanks t with
    | 'n' :: 'u' :: 'l' :: 'l' :: rest => some (.null, rest)
    | 't' :: 'r' :: 'u' :: 'e' :: rest => some (.bool true, rest)
    | 'f' :: 'a' :: 'l' :: 's' :: 'e' :: rest => some (.bool false, rest)
    | '"' :: rest =>
      match stringBody? (rest.length + 1) [] rest with
      | some (s, rest) => some (.string (String.ofList s), rest)
      | none => none
    | '[' :: rest =>
      match skipBlanks rest with
      | ']' :: rest => some (.array [], rest)
      | rest => items? allowance [] rest
    | '\x7b' :: rest =>
      match skipBlanks rest with
      | '\x7d' :: rest => some (.object [], rest)
      | rest => members? allowance [] rest
    | rest => number? rest

/-- The items of an array from the next one on, in reverse on top of `done`. -/
def items? (allowance : Nat) (done : List Json) (t : Text) : Option (Json × Text) :=
  match allowance with
  | 0 => none
  | allowance + 1 =>
    match value? allowance t with
    | none => none
    | some (item, rest) =>
      match skipBlanks rest with
      | ',' :: rest => items? allowance (item :: done) rest
      | ']' :: rest => some (.array (item :: done).reverse, rest)
      | _ => none

/-- The members of an object from the next one on, added to those in `done`. -/
def members? (allowance : Nat) (done : List (String × Json)) (t : Text) : Option (Json × Text) :=
  match allowance with
  | 0 => none
  | allowance + 1 =>
    match skipBlanks t with
    | '"' :: rest =>
      match stringBody? (rest.length + 1) [] rest with
      | none => none
      | some (name, rest) =>
        match skipBlanks rest with
        | ':' :: rest =>
          match value? allowance rest with
          | none => none
          | some (item, rest) =>
            let done := setMember (String.ofList name) item done
            match skipBlanks rest with
            | ',' :: rest => members? allowance done rest
            | '\x7d' :: rest => some (.object done, rest)
            | _ => none
        | _ => none
    | _ => none

end

end Reader

/-- The value a text spells out. -/
def read? (t : Text) : Option Json :=
  match Reader.value? (t.length + 1) t with
  | some (j, rest) => if (Reader.skipBlanks rest).isEmpty then some j else none
  | none => none

end Json
end GymLang
