import GymLang.Json.Basic
import GymLang.Number.Whole
import GymLang.Number.Writing

/-!
# Writing JSON

Values without any blank between their parts.  A binary64 number has a point even when it
is whole, which keeps it apart from whole numbers, and is null when it is not finite.
-/

namespace GymLang
namespace Json

/-- A hexadecimal digit. -/
def hexDigit (n : Nat) : Char := if n < 10 then Char.ofNat (48 + n) else Char.ofNat (87 + n)

/-- A character inside a string. -/
def escapedChar (c : Char) : Text :=
  if c = '"' ∨ c = '\\' then ['\\', c]
  else if c = '\n' then ['\\', 'n']
  else if c = '\r' then ['\\', 'r']
  else if c = '\t' then ['\\', 't']
  else if c.toNat < 0x20 then
    ['\\', 'u', '0', '0', hexDigit (c.toNat / 16), hexDigit (c.toNat % 16)]
  else [c]

/-- A string in quotes. -/
def quoted (s : String) : Text := '"' :: s.toList.flatMap escapedChar ++ ['"']

/-- A binary64 number. -/
def floatText (x : Float) : Text :=
  if Number.infinity ≤ Number.magnitude x then "null".toList
  else if Number.isWhole x then Number.write x ++ ".0".toList
  else Number.write x

mutual

/-- A value. -/
def write : Json → Text
  | null => "null".toList
  | bool true => "true".toList
  | bool false => "false".toList
  | int n => (toString n).toList
  | float x => floatText x
  | string s => quoted s
  | array [] => ['[', ']']
  | array (item :: items) => '[' :: write item ++ writeItems items
  | object [] => ['\x7b', '\x7d']
  | object (m :: members) => '\x7b' :: writeMember m ++ writeMembers members

/-- The items of an array after the first, and its end. -/
def writeItems : List Json → Text
  | [] => [']']
  | item :: items => ',' :: write item ++ writeItems items

/-- A member of an object. -/
def writeMember : String × Json → Text
  | (name, value) => quoted name ++ ':' :: write value

/-- The members of an object after the first, and its end. -/
def writeMembers : List (String × Json) → Text
  | [] => ['\x7d']
  | m :: members => ',' :: writeMember m ++ writeMembers members

end

end Json
end GymLang
