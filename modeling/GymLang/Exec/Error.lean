import GymLang.Number.Writing
import GymLang.Token.Basic

/-!
# Why a line cannot be carried out

Each command takes its arguments in one of five shapes, and a line fails when they are of
another number or kind, or when a value is out of a command's range.  Most errors name the
command by the capitals of the word that the line starts with.
-/

namespace GymLang

/-- The arguments a command takes. -/
inductive Shape
  /-- A variable and a number. -/
  | update
  /-- A variable. -/
  | transform
  /-- One or more numbers. -/
  | aggregate
  /-- One argument of any kind. -/
  | shown
  /-- A string. -/
  | quoted
deriving DecidableEq, Repr

/-- The arguments of a shape, as messages describe them. -/
def Shape.description : Shape → String
  | update => "2 arguments (<name> <number>)"
  | transform => "1 argument (<name>)"
  | aggregate => "at least 1 argument (<vals...>)"
  | shown => "1 argument (<value|name|\"str\">)"
  | quoted => "1 argument (<\"str\">)"

/-- Arguments of another number than the command takes. -/
structure Mismatch where
  expected : Shape
  found : Nat
deriving DecidableEq, Repr

/-- Why a line cannot be carried out.  A command is given by its word in capitals. -/
inductive ExecError
  /-- The line starts with something other than a word. -/
  | expectedCommand (found : Text)
  /-- The command takes another number of arguments. -/
  | arity (command : Text) (count : Mismatch)
  /-- An argument that has to be a variable is none. -/
  | expectedName (command : Text) (found : Text)
  /-- An argument that has to be a number or a variable is a string. -/
  | expectedValue (command : Text) (found : Text)
  /-- An argument that has to be a string is none. -/
  | expectedString (command : Text) (found : Text)
  /-- A number that cannot be read. -/
  | invalidNumber (text : Text)
  /-- A division of a variable by zero. -/
  | divisionByZero (name : Text)
  /-- A factorial of something that has none within range. -/
  | invalidFactorial (name : Text) (value : Float)

/-- Text shown to the user. -/
def ExecError.message : ExecError → Text
  | expectedCommand found => "expected a command, found ".toList ++ found
  | arity command count =>
    command ++ " expects ".toList ++ count.expected.description.toList ++ ", got ".toList ++
      Nat.toDigits 10 count.found
  | expectedName command found => command ++ " expects a variable name, found ".toList ++ found
  | expectedValue command found =>
    command ++ " expects a number or variable, found ".toList ++ found
  | expectedString command found => command ++ " expects a quoted string, found ".toList ++ found
  | invalidNumber text => "invalid number: ".toList ++ text
  | divisionByZero name => "cannot CUT ".toList ++ name ++ " by zero".toList
  | invalidFactorial name value =>
    "SAVAGE needs a whole number between 0 and 170, ".toList ++ name ++ " is ".toList ++
      Number.write value

end GymLang
