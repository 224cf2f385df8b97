import GymLang.Json.Basic

/-!
# Forms of JSON values

Much of what an editor sends has to have the right form although nobody reads it.  A form
is a test on values.  The composite forms are lists, tables, records and choices between
forms; a record is an object with given members, or an array of the values of these
members in their order.
-/

namespace GymLang

/-- A form that values may have. -/
abbrev Form := Json → Bool

/-- What may be missing of a record. -/
inductive Presence
  /-- Nothing. -/
  | required
  /-- The member of an object, and null stands for it as well. -/
  | optional
  /-- The member of an object, or the item at the end of an array. -/
  | defaulted
deriving DecidableEq, Repr

/-- A field of a record. -/
structure Field where
  name : String
  presence : Presence
  form : Form

namespace Form

/-- Any value. -/
def any : Form := fun _ => true

/-- Null. -/
def null : Form
  | .null => true
  | _ => false

/-- A truth value. -/
def bool : Form := fun j => j.bool?.isSome

/-- A string. -/
def string : Form := fun j => j.string?.isSome

/-- One kind out of several, by its name or by its place among them. -/
def kind (name : String) (place : Nat) : Form
  | .string s => s == name
  | .int n => n == place
  | _ => false

/-- A number of either kind. -/
def number : Form
  | .int _ => true
  | .float _ => true
  | _ => false

/-- A whole number of 32 bits with sign. -/
def int32 : Form := fun j => j.int32?.isSome

/-- A whole number of 32 bits without sign. -/
def nat32 : Form := fun j => j.nat32?.isSome

/-- One of several words. -/
def word (choices : List String) : Form := fun j => (j.word? choices).isSome

/-- A value of one form or of another. -/
def either (f g : Form) : Form := fun j => f j || g j

/-- An array, all of whose items have a form. -/
def list (item : Form) : Form
  | .array items => items.all item
  | _ => false

/-- An array of a given length. -/
def tuple (size : Nat) (item : Form) : Form
  | .array items => items.length == size && items.all item
  | _ => false

/-- An object, all of whose values have a form. -/
def table (value : Form) : Form
  | .object members => members.all fun (_, j) => value j
  | _ => false

/-- A field that must be there. -/
def required (name : String) (form : Form) : Field := ⟨name, .required, form⟩

/-- A field that may be missing or null. -/
def optional (name : String) (form : Form) : Field := ⟨name, .optional, form⟩

/-- A field that may be missing. -/
def defaulted (name : String) (form : Form) : Field := ⟨name, .defaulted, form⟩

/-- Whether a field may have a value, or none in an object. -/
def fieldHolds (f : Field) : Option Json → Bool
  | some .null => f.presence == .optional || f.form .null
  | some j => f.form j
  | none => f.presence != .required

/-- An object with members for the fields. -/
def members (fields : List Field) : Form
  | .object ms => fields.all fun f => fieldHolds f (ms.lookup f.name)
  | _ => false

/-- Whether the items of an array are values for fields in their order. -/
def inOrder : List Field → List Json → Bool
  | [], items => items.isEmpty
  | f :: fields, [] => f.presence == .defaulted && inOrder fields []
  | f :: fields, j :: items => fieldHolds f (some j) && inOrder fields items

/-- An object or an array of the fields. -/
def record (fields : List Field) : Form
  | .array items => inOrder fields items
  | j => members fields j

end Form
end GymLang
