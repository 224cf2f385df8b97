import GymLang.Command.Guide
import GymLang.Document.Place
import GymLang.Json.Basic
import GymLang.Number.Reading

/-!
# Completion

The list offered for completion is the same everywhere: the commands, some common variable
names and some words of wisdom.  An editor may ask again for the documentation of an item,
and gets the item back with its documentation attached if it is known, with all else as it
was sent.
-/

namespace GymLang

/-- The kinds of completion items in use, and all others by their number. -/
inductive ItemKind
  | text
  | function
  | binding
  | other (code : Int)
deriving DecidableEq, Repr

namespace ItemKind

/-- Number of a kind in the editor protocol. -/
def code : ItemKind → Int
  | text => 1
  | function => 3
  | binding => 6
  | other n => n

/-- The kind with a number. -/
def ofCode (n : Int) : ItemKind :=
  if n = 1 then text else if n = 3 then function else if n = 6 then binding else other n

end ItemKind

/-- A text and whether it is markdown. -/
structure Markup where
  markdown : Bool
  value : String
deriving DecidableEq, Repr

/-- Documentation of an item. -/
inductive Documentation
  | plain (s : String)
  | markup (m : Markup)
deriving DecidableEq, Repr

/-- Documentation in markdown. -/
def Documentation.ofMarkdown (s : String) : Documentation := .markup ⟨true, s⟩

/-- A new text for a range. -/
structure TextEdit where
  range : Range
  newText : String
deriving DecidableEq, Repr

/-- What accepting an item does to the text. -/
inductive ItemEdit
  | edit (e : TextEdit)
  /-- A text with the range it is inserted into and the one it replaces. -/
  | insertOrReplace (newText : String) (insert replace : Range)
deriving DecidableEq, Repr

/-- What is shown beside a label. -/
structure LabelDetails where
  detail : Option String
  description : Option String
deriving DecidableEq, Repr

/-- A command for the editor to carry out. -/
structure EditorCommand where
  title : String
  command : String
  arguments : Option (List Json)

/-- An item offered for completion. -/
structure CompletionItem where
  label : String
  labelDetails : Option LabelDetails := none
  kind : Option ItemKind := none
  detail : Option String := none
  documentation : Option Documentation := none
  deprecated : Option Bool := none
  preselect : Option Bool := none
  sortText : Option String := none
  filterText : Option String := none
  insertText : Option String := none
  insertTextFormat : Option Int := none
  insertTextMode : Option Int := none
  textEdit : Option ItemEdit := none
  additionalTextEdits : Option (List TextEdit) := none
  command : Option EditorCommand := none
  commitCharacters : Option (List String) := none
  data : Option Json := none
  tags : Option (List Int) := none

namespace Completion

/-- Variable names in common use. -/
def commonNames : List String :=
  ["bench", "squat", "deadlift", "weight", "reps", "sets", "gains", "strength"]

/-- Words of wisdom. -/
def wisdom : List String := [
  "💪 Pain is temporary, gains are forever!",
  "🔥 No excuses, only results!",
  "🏋️‍♂️ Trust the process, bro!",
  "💪 Consistency is key to gains!",
  "🔥 Push your limits, break your records!",
  "💪 Every rep counts!",
  "🔥 Form over weight, always!",
  "💪 Rest days are gains days too!",
  "🔥 You're stronger than you think!",
  "💪 The only bad workout is the one that didn't happen!"]

/-- What the labels of words of wisdom start with. -/
def wisdomLabel : String := "wisdom_"

/-- Documentation of a variable name. -/
def nameDocumentation (name : String) : String := "Common variable name for " ++ name

/-- The item of a command. -/
def commandItem (c : Command) : CompletionItem where
  label := c.keyword
  kind := some .function
  detail := some c.usage
  documentation := some (.ofMarkdown c.documentation)

/-- The item of a variable name. -/
def nameItem (name : String) : CompletionItem where
  label := name
  kind := some .binding
  detail := some "Variable name"
  documentation := some (.ofMarkdown (nameDocumentation name))

/-- The item of the word of wisdom at a place of the list. -/
def wisdomItem (saying : String) (place : Nat) : CompletionItem where
  label := wisdomLabel ++ toString (place + 1)
  kind := some .text
  detail := some "Gym wisdom"
  documentation := some (.ofMarkdown saying)

/-- Everything that is offered. -/
def items : List CompletionItem :=
  Command.all.map commandItem ++ commonNames.map nameItem ++
    wisdom.zipIdx.map fun (saying, place) => wisdomItem saying place

/-- The rest of a text after a given start. -/
def afterStart? : Text → Text → Option Text
  | [], t => some t
  | _ :: _, [] => none
  | c :: start, d :: t => if c = d then afterStart? start t else none

/-- A number counted from one, as a place counted from zero.  A plus sign may stand in
front of the digits. -/
def placeOf? (t : Text) : Option Nat :=
  let digits := match t with
    | '+' :: rest => rest
    | _ => t
  if digits.isEmpty || !digits.all Text.isDigit then none
  else match Number.natOfDigits digits with
    | 0 => none
    | n + 1 => some n

/-- The documentation known for an item of some kind with a label. -/
def documentation? (kind : Option ItemKind) (label : String) : Option String :=
  match kind with
  | some .function => (Command.named? label.toList).map Command.documentation
  | some .binding => if label ∈ commonNames then some (nameDocumentation label) else none
  | some .text => do
    let rest ← afterStart? wisdomLabel.toList label.toList
    let place ← placeOf? rest
    wisdom[place]?
  | _ => none

/-- Attaches its documentation to an item, if it is known. -/
def resolve (item : CompletionItem) : CompletionItem :=
  match documentation? item.kind item.label with
  | some s => { item with documentation := some (.ofMarkdown s) }
  | none => item

end Completion
end GymLang
