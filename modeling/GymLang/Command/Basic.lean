import GymLang.Text.Case

/-!
# Commands

The commands and their keywords, as editing help lists them.  A line may write its keyword
in any letter case: `named?` folds the letters of ASCII.  Carrying out a line does not go by
this list but by words of its own.
-/

namespace GymLang

/-- The commands of the language, in the order of its documentation. -/
inductive Command
  | rack
  | bro
  | lift
  | bulk
  | drop
  | shred
  | gains
  | cut
  | reps
  | sets
  | flex
  | pump
  | grind
  | yolo
  | swole
  | beast
  | savage
  | legDay
  | cardio
  | protein
  | creatine
  | steroids
  | motivation
  | noExcuses
  | hustle
  | grindMode
deriving DecidableEq, Repr

namespace Command

/-- Every command, in the order of the documentation. -/
def all : List Command := [
  .rack, .bro, .lift, .bulk, .drop, .shred, .gains, .cut, .reps, .sets, .flex, .pump, .grind,
  .yolo, .swole, .beast, .savage, .legDay, .cardio, .protein, .creatine, .steroids,
  .motivation, .noExcuses, .hustle, .grindMode]

/-- The word that a line starts with to give the command. -/
def keyword : Command → String
  | rack => "RACK"
  | bro => "BRO"
  | lift => "LIFT"
  | bulk => "BULK"
  | drop => "DROP"
  | shred => "SHRED"
  | gains => "GAINS"
  | cut => "CUT"
  | reps => "REPS"
  | sets => "SETS"
  | flex => "FLEX"
  | pump => "PUMP"
  | grind => "GRIND"
  | yolo => "YOLO"
  | swole => "SWOLE"
  | beast => "BEAST"
  | savage => "SAVAGE"
  | legDay => "LEGDAY"
  | cardio => "CARDIO"
  | protein => "PROTEIN"
  | creatine => "CREATINE"
  | steroids => "STEROIDS"
  | motivation => "MOTIVATION"
  | noExcuses => "NOEXCUSES"
  | hustle => "HUSTLE"
  | grindMode => "GRINDMODE"

/-- The characters of the keyword. -/
def word (c : Command) : Text := c.keyword.toList

theorem mem_all (c : Command) : c ∈ all := by cases c <;> decide

/-- The command a word names, whatever the case of its ASCII letters. -/
def named? (w : Text) : Option Command := all.find? fun c => Text.sameIgnoringCase c.word w

end Command
end GymLang
