import GymLang.Exec.Basic
import GymLang.Token.Lexer

/-!
# Engines

Everything an editor is told about a line comes from two operations of the language:
cutting the line into tokens and carrying the tokens out.  An engine is a choice of the
two, so that what is said about lines can be said for any of them.
-/

namespace GymLang

/-- The two operations editing help is built on. -/
structure Engine where
  /-- The tokens of a line. -/
  tokenize : Text → Except LexError (List Token)
  /-- Carries out a line. -/
  exec : List Token → Context → Except ExecError (List Text) × Context

/-- The language itself.  Analysis asks only whether a line fails, which no random value
has a say in, so one is fixed. -/
def Engine.standard : Engine := ⟨Token.tokenize, Exec.run 0⟩

end GymLang
