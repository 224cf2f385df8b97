import GymLang.Text.HiddenTable
import GymLang.Text.Basic

/-!
# Showing a character in a message

A character named in a message stands between double quotes.  Quotes and backslashes are
escaped, the common controls have short names, and any other character that would leave
no mark is given by its code point.
-/

namespace GymLang
namespace Text

/-- A character that leaves no mark of its own on a page. -/
def isHidden (c : Char) : Bool :=
  c.toNat < 0x20 || hiddenStretches.any fun s => s.1 ≤ c.toNat && c.toNat ≤ s.2

/-- A character as it stands between the quotes. -/
def escaped (c : Char) : Text :=
  if c = '\x00' then ['\\', '0']
  else if c = '\t' then ['\\', 't']
  else if c = '\r' then ['\\', 'r']
  else if c = '\n' then ['\\', 'n']
  else if c = '"' ∨ c = '\\' then ['\\', c]
  else if isHidden c then "\\u\x7b".toList ++ Nat.toDigits 16 c.toNat ++ ['\x7d']
  else [c]

/-- A character between double quotes. -/
def quotedChar (c : Char) : Text := '"' :: escaped c ++ ['"']

end Text
end GymLang
