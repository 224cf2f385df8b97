import Std.Data.ExtTreeMap
import GymLang.Command.Basic
import GymLang.Exec.Error
import GymLang.Number.Reading
import GymLang.Number.Whole

/-!
# Carrying out a line

A line is decided first and carried out afterwards.  `lineEffect` looks at the tokens and
the variables and comes to an error or to one effect: nothing, a printed line, or a new
value for one variable.  `run` then has the effect, so that a line that fails leaves all
variables as they are.

A line is carried out by the capitals of its first word, which are looked up among the words
known here (`Command.ofKeyword?`) and which its errors name.  Any other word does nothing.

A variable without a value reads as zero.  Only the divisor of a division is different: a
variable without a value there may get one on another line, so nothing is done.
-/

namespace GymLang

/-- The values of the variables. -/
abbrev Context := Std.ExtTreeMap Text Float

/-- Value of a variable, zero if it has none. -/
def Context.read (ctx : Context) (name : Text) : Float := (ctx[name]?).getD 0

/-- What a line does. -/
inductive Effect
  | nothing
  | print (line : Text)
  | assign (name : Text) (value : Float)

/-- The command that is carried out under a word, none if it is not known. -/
def Command.ofKeyword? (w : Text) : Option Command :=
  match String.ofList w with
  | "RACK" => some rack
  | "BRO" => some bro
  | "LIFT" => some lift
  | "BULK" => some bulk
  | "DROP" => some drop
  | "SHRED" => some shred
  | "GAINS" => some gains
  | "CUT" => some cut
  | "REPS" => some reps
  | "SETS" => some sets
  | "PUMP" => some pump
  | "GRIND" => some grind
  | "FLEX" => some flex
  | "MOTIVATION" => some motivation
  | "YOLO" => some yolo
  | "SWOLE" => some swole
  | "BEAST" => some beast
  | "SAVAGE" => some savage
  | "LEGDAY" => some legDay
  | "CARDIO" => some cardio
  | "PROTEIN" => some protein
  | "CREATINE" => some creatine
  | "STEROIDS" => some steroids
  | "NOEXCUSES" => some noExcuses
  | "HUSTLE" => some hustle
  | "GRINDMODE" => some grindMode
  | _ => none

namespace Exec

/-- The two arguments of an update. -/
def two (w : Text) : List Token → Except ExecError (Token × Token)
  | [a, b] => .ok (a, b)
  | args => .error (.arity w ⟨.update, args.length⟩)

/-- The only argument. -/
def one (w : Text) (expected : Shape) : List Token → Except ExecError Token
  | [a] => .ok a
  | args => .error (.arity w ⟨expected, args.length⟩)

/-- The variable an argument names. -/
def nameOf (w : Text) (arg : Token) : Except ExecError Text :=
  match arg.kind with
  | .word => .ok arg.text
  | _ => .error (.expectedName w arg.display)

/-- The value of an argument, if it has one: a variable may be without. -/
def valueOf? (w : Text) (ctx : Context) (arg : Token) : Except ExecError (Option Float) :=
  match arg.kind with
  | .word => .ok ctx[arg.text]?
  | .number =>
    match Number.read? arg.text with
    | some x => .ok (some x)
    | none => .error (.invalidNumber arg.text)
  | .string => .error (.expectedValue w arg.display)

/-- The value of an argument. -/
def valueOf (w : Text) (ctx : Context) (arg : Token) : Except ExecError Float :=
  (valueOf? w ctx arg).map (·.getD 0)

/-- The values of one or more arguments. -/
def valuesOf (w : Text) (ctx : Context) (args : List Token) : Except ExecError (List Float) :=
  if args.isEmpty then .error (.arity w ⟨.aggregate, 0⟩) else args.mapM (valueOf w ctx)

/-- Replaces a variable by a combination of its value with a second argument. -/
def update (w : Text) (op : Float → Float → Float) (ctx : Context) (args : List Token) :
    Except ExecError Effect := do
  let (target, amount) ← two w args
  let name ← nameOf w target
  let x ← valueOf w ctx amount
  return .assign name (op (ctx.read name) x)

/-- Divides a variable. -/
def divide (w : Text) (ctx : Context) (args : List Token) : Except ExecError Effect := do
  let (target, divisor) ← two w args
  let name ← nameOf w target
  match ← valueOf? w ctx divisor with
  | none => return .nothing
  | some x =>
    if x == 0 then throw (.divisionByZero name)
    else return .assign name (ctx.read name / x)

/-- Replaces a variable by a function of its value. -/
def transform (w : Text) (op : Float → Float) (ctx : Context) (args : List Token) :
    Except ExecError Effect := do
  let name ← nameOf w (← one w .transform args)
  return .assign name (op (ctx.read name))

/-- Largest whole number whose factorial is finite. -/
def maxFactorial : Nat := 170

/-- Replaces a variable by its factorial. -/
def takeFactorial (w : Text) (ctx : Context) (args : List Token) :
    Except ExecError Effect := do
  let name ← nameOf w (← one w .transform args)
  let x := ctx.read name
  let n := Number.units (Number.magnitude x)
  if x < 0 || !Number.isWhole x || maxFactorial < n then throw (.invalidFactorial name x)
  return .assign name (Number.factorial n)

/-- Prints what all values come to. -/
def aggregate (w : Text) (total : List Float → Float) (ctx : Context) (args : List Token) :
    Except ExecError Effect := do
  return .print (Number.write (total (← valuesOf w ctx args)))

/-- Prints a string as it is and anything else by its value. -/
def showOff (w : Text) (ctx : Context) (args : List Token) : Except ExecError Effect := do
  let arg ← one w .shown args
  match arg.kind with
  | .string => return .print arg.text
  | _ => return .print (Number.write (← valueOf w ctx arg))

/-- Prints a string with enthusiasm. -/
def motivate (w : Text) (args : List Token) : Except ExecError Effect := do
  let arg ← one w .quoted args
  match arg.kind with
  | .string => return .print (arg.text ++ "!!! LET'S GO!".toList)
  | _ => throw (.expectedString w arg.display)

/-- Sum of values, added up from negative zero so that a lone negative zero keeps its sign. -/
def sum (xs : List Float) : Float := xs.foldl (· + ·) (-0.0)

/-- Product of values. -/
def product (xs : List Float) : Float := xs.foldl (· * ·) 1

/-- Largest of the values that are numbers, negative infinity if none is. -/
def largest (xs : List Float) : Float :=
  xs.foldl Number.larger (Number.ofMagnitude true Number.infinity)

/-- Smallest of the values that are numbers, infinity if none is. -/
def smallest (xs : List Float) : Float :=
  xs.foldl Number.smaller (Number.ofMagnitude false Number.infinity)

/-- A random whole number from 1 to 100. -/
def randomValue (roll : Fin 100) : Float :=
  Number.ofMagnitude false (Number.nearest (roll + 1) 1)

/-- What a command does with its arguments.  `w` is the word it was given by. -/
def effectOf (roll : Fin 100) (ctx : Context) (w : Text) (c : Command) (args : List Token) :
    Except ExecError Effect :=
  match c with
  | .rack | .bro => update w (fun _ x => x) ctx args
  | .lift | .bulk => update w (· + ·) ctx args
  | .drop | .shred => update w (· - ·) ctx args
  | .gains => update w (· * ·) ctx args
  | .cut => divide w ctx args
  | .reps => aggregate w sum ctx args
  | .sets => aggregate w product ctx args
  | .pump => aggregate w largest ctx args
  | .grind => aggregate w smallest ctx args
  | .flex => showOff w ctx args
  | .motivation => motivate w args
  | .yolo => transform w (fun _ => randomValue roll) ctx args
  | .swole => transform w (fun x => x * x) ctx args
  | .beast => transform w (fun x => x * x * x) ctx args
  | .savage => takeFactorial w ctx args
  | .legDay => transform w (fun _ => 0) ctx args
  | .cardio => transform w (· * 0.5) ctx args
  | .protein => transform w (· * 2) ctx args
  | .creatine => transform w (· * 3) ctx args
  | .steroids => transform w (· * 10) ctx args
  | .noExcuses => transform w Float.abs ctx args
  | .hustle => transform w Number.ceil ctx args
  | .grindMode => transform w Number.floor ctx args

/-- What a line does.  An empty line does nothing, and neither does one that starts with a
word that is not known in capitals. -/
def lineEffect (roll : Fin 100) (ctx : Context) : List Token → Except ExecError Effect
  | [] => .ok .nothing
  | head :: args =>
    match head.kind with
    | .word =>
      match Command.ofKeyword? (Text.upper head.text) with
      | some c => effectOf roll ctx (Text.upper head.text) c args
      | none => .ok .nothing
    | _ => .error (.expectedCommand head.display)

end Exec

/-- What an effect prints. -/
def Effect.output : Effect → List Text
  | print line => [line]
  | _ => []

/-- The variables after an effect. -/
def Effect.apply (ctx : Context) : Effect → Context
  | assign name value => ctx.insert name value
  | _ => ctx

/-- Carries out a line: what it prints or why it fails, and the variables afterwards. -/
def Exec.run (roll : Fin 100) (tokens : List Token) (ctx : Context) :
    Except ExecError (List Text) × Context :=
  match Exec.lineEffect roll ctx tokens with
  | .ok effect => (.ok effect.output, effect.apply ctx)
  | .error e => (.error e, ctx)

end GymLang
