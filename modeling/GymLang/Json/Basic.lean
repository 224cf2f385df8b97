/-!
# JSON values

The values that editor and server exchange.  A number keeps the distinction its literal
makes: one without fraction and exponent is a whole number, if it fits into 64 bits with
or without sign, and every other one is a binary64 number.
-/

namespace GymLang

/-- A JSON value.  The members of an object have different names. -/
inductive Json
  | null
  | bool (b : Bool)
  | int (n : Int)
  | float (x : Float)
  | string (s : String)
  | array (items : List Json)
  | object (members : List (String × Json))

namespace Json

/-- The member of an object with a given name. -/
def member? (name : String) : Json → Option Json
  | object members => members.lookup name
  | _ => none

/-- An object of the members that are present. -/
def ofMembers (members : List (String × Option Json)) : Json :=
  object (members.filterMap fun (name, value?) => value?.map fun value => (name, value))

/-- A natural number. -/
def nat (n : Nat) : Json := int n

/-- A string of the characters of a text. -/
def text (t : List Char) : Json := string (String.ofList t)

/-! ## Reading values of a given form -/

/-- A string. -/
def string? : Json → Option String
  | string s => some s
  | _ => none

/-- A truth value. -/
def bool? : Json → Option Bool
  | bool b => some b
  | _ => none

/-- A whole number from `low` up to `high`, itself excluded. -/
def int? (low high : Int) : Json → Option Int
  | int n => if low ≤ n ∧ n < high then some n else none
  | _ => none

/-- A whole number of 32 bits with sign. -/
def int32? (j : Json) : Option Int := j.int? (-0x80000000) 0x80000000

/-- A whole number of 32 bits without sign. -/
def nat32? (j : Json) : Option Nat := (j.int? 0 0x100000000).map Int.toNat

/-- A whole number of 64 bits without sign. -/
def nat64? (j : Json) : Option Nat := (j.int? 0 0x10000000000000000).map Int.toNat

/-- One of several words: a string, or an object in which the word is the name of the only
member and null its value. -/
def word? (choices : List String) : Json → Option String
  | string s => if s ∈ choices then some s else none
  | object [(s, null)] => if s ∈ choices then some s else none
  | _ => none

/-- An array, all of whose items have a given form. -/
def list? {α : Type} (item? : Json → Option α) : Json → Option (List α)
  | array items => items.mapM item?
  | _ => none

/-- Any value. -/
def any? (j : Json) : Option Json := some j

/-- A record of `size` fields is an object with their names or an array of their values. -/
def isRecord (size : Nat) : Json → Bool
  | object _ => true
  | array items => items.length == size
  | _ => false

/-- A field of a record: the member of that name in an object, the item at that place in an
array. -/
def field? (place : Nat) (name : String) : Json → Option Json
  | object members => members.lookup name
  | array items => items[place]?
  | _ => none

/-- A field that must be there. -/
def required? {α : Type} (form? : Json → Option α) (place : Nat) (name : String) (j : Json) :
    Option α :=
  (j.field? place name).bind form?

/-- A field that may be missing or null.  The outer option is for one that is there and has
the wrong form. -/
def optional? {α : Type} (form? : Json → Option α) (place : Nat) (name : String) (j : Json) :
    Option (Option α) :=
  match j.field? place name with
  | none => some none
  | some null => some none
  | some value => (form? value).map some

end Json
end GymLang
