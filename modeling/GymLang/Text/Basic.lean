/-!
# Text and its two rulers

A document, a line and a word are lists of characters.  Two rulers measure them:
bytes of UTF-8, in which the tokenizer places its spans, and code units of UTF-16,
in which an editor counts columns.  `Text.columnOfByte` goes from the first to the
second.

Numbers have no bound here, but those an editor is told have 32 bits (`narrow`).
-/

namespace GymLang

/-- The characters of a document, a line or a word. -/
abbrev Text := List Char

/-- A number of rows or of code units as an editor is told it, in 32 bits.  Of a larger one the
high bits are lost. -/
def narrow (n : Nat) : UInt32 := .ofNat n

namespace Text

/-- Code units a character takes in UTF-16: two from U+10000 on. -/
def charUnits (c : Char) : Nat := if c.val.toNat < 0x10000 then 1 else 2

/-- Length in bytes of UTF-8. -/
def bytes : Text → Nat
  | [] => 0
  | c :: rest => c.utf8Size + bytes rest

/-- Length in code units of UTF-16. -/
def units : Text → Nat
  | [] => 0
  | c :: rest => charUnits c + units rest

@[simp] theorem bytes_nil : bytes [] = 0 := rfl

@[simp] theorem bytes_cons (c : Char) (t : Text) : bytes (c :: t) = c.utf8Size + bytes t := rfl

@[simp] theorem bytes_append (s t : Text) : bytes (s ++ t) = bytes s + bytes t := by
  induction s with
  | nil => simp
  | cons c s ih => simp [ih, Nat.add_assoc]

@[simp] theorem units_nil : units [] = 0 := rfl

@[simp] theorem units_cons (c : Char) (t : Text) : units (c :: t) = charUnits c + units t := rfl

@[simp] theorem units_append (s t : Text) : units (s ++ t) = units s + units t := by
  induction s with
  | nil => simp
  | cons c s ih => simp [ih, Nat.add_assoc]

/-- Code units before a byte offset, if the offset is a character boundary of the text. -/
def unitsBefore? : Text → Nat → Option Nat
  | _, 0 => some 0
  | [], _ + 1 => none
  | c :: rest, n + 1 =>
    if n + 1 < c.utf8Size then none
    else (unitsBefore? rest (n + 1 - c.utf8Size)).map (charUnits c + ·)

/-- Column of a byte offset.  An offset past the end or inside a character counts as the
end of the text. -/
def columnOfByte (line : Text) (byte : Nat) : Nat := (unitsBefore? line byte).getD (units line)

/-- Length in code units as an editor is told it. -/
def length32 (t : Text) : UInt32 := narrow (units t)

/-- Column of a byte offset as an editor is told it. -/
def column32 (line : Text) (byte : Nat) : UInt32 := narrow (columnOfByte line byte)

end Text
end GymLang
