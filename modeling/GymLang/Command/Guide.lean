import GymLang.Command.Basic

/-!
# The guide to the commands

What documentation says of each command.  A command has two classifications that do not
agree everywhere: its category heads its documentation, and its group decides which icon
an outline shows.  Adding up and multiplying out print what they find, so their category
is output, but outlines count them as arithmetic.
-/

namespace GymLang

/-- What documentation counts a command among. -/
inductive Category
  | declaration
  | arithmetic
  | math
  | special
  | output
deriving DecidableEq, Repr

/-- Name of a category in documentation. -/
def Category.title : Category → String
  | .declaration => "Variable Declaration"
  | .arithmetic => "Arithmetic"
  | .math => "Math"
  | .special => "Special"
  | .output => "Output"

/-- What outlines count a command among. -/
inductive Group
  | declaration
  | arithmetic
  | math
  | special
  | output
deriving DecidableEq, Repr

/-- The kinds of outline entries in use. -/
inductive SymbolKind
  | method
  | function
  | binding
  | event
  | operator
deriving DecidableEq, Repr

/-- Number of a kind in the editor protocol. -/
def SymbolKind.code : SymbolKind → Nat
  | method => 6
  | function => 12
  | binding => 13
  | event => 24
  | operator => 25

/-- Kind of the outline entries of a group. -/
def Group.symbolKind : Group → SymbolKind
  | .declaration => .binding
  | .arithmetic => .operator
  | .math => .function
  | .special => .event
  | .output => .method

namespace Command

/-- One line on what the command does. -/
def description : Command → String
  | rack => "Declare variable (set starting weight)"
  | bro => "Declare variable with bro energy"
  | lift => "Add to variable (progressive overload)"
  | bulk => "Add to variable (bulking season)"
  | drop => "Subtract from variable (deload)"
  | shred => "Subtract from variable (shredding)"
  | gains => "Multiply variable (muscle gains)"
  | cut => "Divide variable (cutting season)"
  | reps => "Sum args and print"
  | sets => "Multiply args and print"
  | flex => "Print value (show off)"
  | pump => "Max of args (pump it up!)"
  | grind => "Min of args (grind mode)"
  | yolo => "Random value (you only live once)"
  | swole => "Square the value (get swole)"
  | beast => "Cube the value (beast mode)"
  | savage => "Factorial (savage mode)"
  | legDay => "Skip leg day (set to 0)"
  | cardio => "Cardio kills gains (subtract 50%)"
  | protein => "Double the gains (protein shake)"
  | creatine => "Triple the gains (creatine loading)"
  | steroids => "10x the gains (not recommended)"
  | motivation => "Print with extra enthusiasm"
  | noExcuses => "Absolute value (no excuses)"
  | hustle => "Round up (hustle harder)"
  | grindMode => "Round down (grind mode)"

/-- How the command is written. -/
def usage : Command → String
  | rack => "RACK <name> <number>"
  | bro => "BRO <name> <number>"
  | lift => "LIFT <name> <number>"
  | bulk => "BULK <name> <number>"
  | drop => "DROP <name> <number>"
  | shred => "SHRED <name> <number>"
  | gains => "GAINS <name> <number>"
  | cut => "CUT <name> <number>"
  | reps => "REPS <vals...>"
  | sets => "SETS <vals...>"
  | flex => "FLEX <value|name|\"str\">"
  | pump => "PUMP <vals...>"
  | grind => "GRIND <vals...>"
  | yolo => "YOLO <name>"
  | swole => "SWOLE <name>"
  | beast => "BEAST <name>"
  | savage => "SAVAGE <name>"
  | legDay => "LEGDAY <name>"
  | cardio => "CARDIO <name>"
  | protein => "PROTEIN <name>"
  | creatine => "CREATINE <name>"
  | steroids => "STEROIDS <name>"
  | motivation => "MOTIVATION <\"str\">"
  | noExcuses => "NOEXCUSES <name>"
  | hustle => "HUSTLE <name>"
  | grindMode => "GRINDMODE <name>"

/-- A complete line with the command. -/
def sample : Command → String
  | rack => "RACK bench 135"
  | bro => "BRO bench 135"
  | lift => "LIFT bench 10"
  | bulk => "BULK bench 10"
  | drop => "DROP bench 5"
  | shred => "SHRED bench 5"
  | gains => "GAINS bench 1.1"
  | cut => "CUT bench 2"
  | reps => "REPS 10 20 30"
  | sets => "SETS 3 5 2"
  | flex => "FLEX bench"
  | pump => "PUMP bench squat"
  | grind => "GRIND bench squat"
  | yolo => "YOLO bench"
  | swole => "SWOLE bench"
  | beast => "BEAST bench"
  | savage => "SAVAGE bench"
  | legDay => "LEGDAY squat"
  | cardio => "CARDIO bench"
  | protein => "PROTEIN bench"
  | creatine => "CREATINE bench"
  | steroids => "STEROIDS bench"
  | motivation => "MOTIVATION \"No pain, no gain!\""
  | noExcuses => "NOEXCUSES bench"
  | hustle => "HUSTLE bench"
  | grindMode => "GRINDMODE bench"

/-- Category of the command. -/
def category : Command → Category
  | rack | bro => .declaration
  | lift | bulk | drop | shred | gains | cut => .arithmetic
  | reps | sets | flex | motivation => .output
  | pump | grind | swole | beast | savage | noExcuses | hustle | grindMode => .math
  | yolo | legDay | cardio | protein | creatine | steroids => .special

/-- Group of the command. -/
def group : Command → Group
  | rack | bro => .declaration
  | lift | bulk | drop | shred | gains | cut | reps | sets => .arithmetic
  | flex | motivation => .output
  | pump | grind | swole | beast | savage | noExcuses | hustle | grindMode => .math
  | yolo | legDay | cardio | protein | creatine | steroids => .special

/-- Kind of the command's outline entries. -/
def symbolKind (c : Command) : SymbolKind := c.group.symbolKind

/-- The part of its documentation that follows the headline. -/
def details (c : Command) : String :=
  "\n\n**Syntax:** `" ++ c.usage ++ "`\n\n**Example:** `" ++ c.sample ++
    "`\n\n**Category:** " ++ c.category.title

/-- Documentation of the command, for lists in which its keyword stands already. -/
def documentation (c : Command) : String := "**" ++ c.description ++ "**" ++ c.details

/-- Documentation of the command, led by its keyword. -/
def fullDocumentation (c : Command) : String :=
  "**" ++ c.keyword ++ "** - " ++ c.description ++ c.details

/-- Kind of the outline entry of a word: a plain function if it names no command. -/
def symbolKindOf (w : Text) : SymbolKind := ((named? w).map symbolKind).getD .function

end Command
end GymLang
