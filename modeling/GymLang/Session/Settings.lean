import Std.Data.ExtTreeMap
import GymLang.Document.Place
import GymLang.Json.Basic

/-!
# Settings

The one setting is how many problems of a document are published.  It is decoded from
whatever the client sends, and anything malformed counts as no setting at all.

A client that can be asked for the settings of a document is asked once for each, until it
reports a change of its configuration or the document is closed.  For any other client the
settings that came with its last report hold for all documents.
-/

namespace GymLang

/-- What the user can set. -/
structure Settings where
  /-- How many problems of a document are published. -/
  maxProblems : Nat := 1000
deriving DecidableEq, Repr, Inhabited

namespace Settings

/-- Name under which a client keeps the settings. -/
def sectionName : String := "gymlang"

/-- Name of the cap on problems. -/
def capName : String := "maxNumberOfProblems"

/-- The settings in a value: an object, in which the cap may be missing, or an array of at
most the cap. -/
def decode? : Json → Option Settings
  | .object members =>
    match members.lookup capName with
    | some cap => cap.nat64?.map Settings.mk
    | none => some {}
  | .array [] => some {}
  | .array [cap] => cap.nat64?.map Settings.mk
  | _ => none

/-- The settings in a value, the default if it is malformed. -/
def ofJson (j : Json) : Settings := (decode? j).getD {}

/-- The settings in the report of a change, which holds them under their name. -/
def ofReport (report : Json) : Settings :=
  match report.member? sectionName with
  | some j => ofJson j
  | none => {}

/-- Settings as a value. -/
def toJson (s : Settings) : Json := .object [(capName, .nat s.maxProblems)]

end Settings

/-- What a client can do. -/
structure ClientSupport where
  /-- Answer questions about the settings of a document. -/
  configuration : Bool := false
  /-- Work with several folders. -/
  workspaceFolders : Bool := false
  /-- Show related information with a problem. -/
  relatedInformation : Bool := false
deriving DecidableEq, Repr, Inhabited

/-- What is known of the settings of a document. -/
inductive SettingsLookup
  | ready (s : Settings)
  /-- They have to be asked for. -/
  | fetch
deriving DecidableEq, Repr

/-- The settings known at some time. -/
structure SettingsStore where
  /-- Settings the client gave for documents. -/
  perDocument : Std.ExtTreeMap Uri Settings := ∅
  /-- Settings for all documents of a client that cannot be asked. -/
  shared : Settings := {}

namespace SettingsStore

/-- What is known of the settings of a document. -/
def lookup (store : SettingsStore) (uri : Uri) (client : ClientSupport) : SettingsLookup :=
  if client.configuration then
    match store.perDocument[uri]? with
    | some s => .ready s
    | none => .fetch
  else .ready store.shared

/-- Keeps the settings the client gave for a document. -/
def insert (store : SettingsStore) (uri : Uri) (s : Settings) : SettingsStore :=
  { store with perDocument := store.perDocument.insert uri s }

/-- Forgets the settings of a document. -/
def erase (store : SettingsStore) (uri : Uri) : SettingsStore :=
  { store with perDocument := store.perDocument.erase uri }

/-- Takes in the report of a change: all that was asked for is out of date, or the report
has the settings. -/
def configurationChanged (store : SettingsStore) (report : Json) (client : ClientSupport) :
    SettingsStore :=
  if client.configuration then { store with perDocument := ∅ }
  else { store with shared := Settings.ofReport report }

end SettingsStore
end GymLang
