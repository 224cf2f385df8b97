import GymLang.Text.Quoted

/-!
# Tokens and lexical errors

The words, numbers and strings of a line, each with its span in bytes, and the two ways in
which a line can fail to be made of them.
-/

namespace GymLang

/-- A half open stretch of byte offsets in a line. -/
structure Span where
  start : Nat
  stop : Nat
deriving DecidableEq, Repr, Inhabited

/-- What a token is. -/
inductive TokenKind
  | word
  | number
  | string
deriving DecidableEq, Repr

/-- A token of a line.  The text of a string is what stands between its quotes; its span
includes them. -/
structure Token where
  kind : TokenKind
  text : Text
  span : Span
deriving DecidableEq, Repr

/-- A token as it is written in a line. -/
def Token.display (t : Token) : Text :=
  match t.kind with
  | .string => '"' :: t.text ++ ['"']
  | _ => t.text

/-- Why a line has no tokens. -/
inductive LexError
  /-- A character at which no token starts. -/
  | unexpected (found : Char) (span : Span)
  /-- A string without its closing quote, from the opening one to the end of the line. -/
  | unterminated (span : Span)
deriving DecidableEq, Repr

namespace LexError

/-- Where the error is. -/
def span : LexError → Span
  | unexpected _ s => s
  | unterminated s => s

/-- Text shown to the user. -/
def message : LexError → Text
  | unexpected c _ => "unexpected character ".toList ++ Text.quotedChar c
  | unterminated _ => "unterminated string literal (missing closing \")".toList

end LexError
end GymLang
