import GymLang.Document.Edit
import GymLang.Document.Problems
import GymLang.Editor.Completion
import GymLang.Editor.Definition
import GymLang.Editor.Hover
import GymLang.Session.Settings

/-!
# Sessions

A session is what the server knows at some time: the open documents, what it knows of the
settings, and what the client can do.  Notices from the editor change it, and say which
documents have to be checked again; questions are answered from it and leave it as it is.
-/

namespace GymLang

/-- A document as the editor opens it. -/
structure OpenedDocument where
  uri : Uri
  language : String
  version : Int
  text : Text
deriving DecidableEq, Repr

/-- What the editor reports. -/
inductive Notice
  | opened (document : OpenedDocument)
  | changed (uri : Uri) (version : Int) (changes : List Document.Change)
  | closed (uri : Uri)
  | configurationChanged (report : Json)

/-- What the editor asks. -/
inductive Query
  | completion
  | resolve (item : CompletionItem)
  | hover (uri : Uri) (p : Position)
  | definition (uri : Uri) (p : Position)
  | outline (uri : Uri)
  | search (query : Text)

/-- The answer to a query. -/
inductive Answer
  | completion (items : List CompletionItem)
  | resolved (item : CompletionItem)
  | hover (h : Option Hover)
  | definition (l : Option Location)
  | outline (entries : List Entry)
  | search (found : List Found)

/-- The problems of a document, as they are published.  A document that was closed has
none, and no version. -/
structure Publication where
  uri : Uri
  version : Option Int
  problems : List Problem
deriving DecidableEq

/-- What the server knows. -/
structure Session where
  documents : Std.ExtTreeMap Uri Document := ∅
  settings : SettingsStore := {}
  client : ClientSupport := {}

namespace Session

/-- Language of the documents that are looked after. -/
def language : String := "gymlang"

variable (engine : Engine)

/-- Whether a document is open. -/
def isOpen (s : Session) (uri : Uri) : Bool := s.documents.contains uri

/-- Text of an open document. -/
def text? (s : Session) (uri : Uri) : Option Text := s.documents[uri]?.map Document.text

/-- The open documents, in the order of their identifiers. -/
def openDocuments (s : Session) : List Uri := s.documents.keys

/-- The open documents and their texts, in the order of their identifiers. -/
def texts (s : Session) : List (Uri × Text) :=
  s.documents.toList.map fun (uri, d) => (uri, d.text)

/-- Learns what the client can do. -/
def withClient (s : Session) (client : ClientSupport) : Session := { s with client := client }

/-- Takes in a notice. -/
def notify (s : Session) : Notice → Session
  | .opened d =>
    if d.language = language then
      { s with documents := s.documents.insert d.uri ⟨d.text, d.version⟩ }
    else s
  | .changed uri version changes =>
    match s.documents[uri]? with
    | some d => { s with documents := s.documents.insert uri (d.edit changes version) }
    | none => s
  | .closed uri =>
    { s with documents := s.documents.erase uri, settings := s.settings.erase uri }
  | .configurationChanged report =>
    { s with settings := s.settings.configurationChanged report s.client }

/-- The documents to check again once a notice has been taken in, in the order in which
their problems are published. -/
def toCheck (s : Session) : Notice → List Uri
  | .opened d => if d.language = language then [d.uri] else []
  | .changed uri _ _ => if s.isOpen uri then [uri] else []
  | .closed _ => []
  | .configurationChanged _ => s.openDocuments

/-- What is known of the settings of a document. -/
def settingsFor (s : Session) (uri : Uri) : SettingsLookup := s.settings.lookup uri s.client

/-- Keeps the settings the client gave for a document, unless it was closed meanwhile. -/
def storeSettings (s : Session) (uri : Uri) (settings : Settings) : Session :=
  if s.isOpen uri then { s with settings := s.settings.insert uri settings } else s

/-- The problems of an open document, as many as the settings allow. -/
def publication? (s : Session) (uri : Uri) (settings : Settings) : Option Publication :=
  s.documents[uri]?.map fun d =>
    ⟨uri, some d.version, (Document.problems engine d.text).take settings.maxProblems⟩

/-- Answers a query. -/
def answer (s : Session) : Query → Answer
  | .completion => .completion Completion.items
  | .resolve item => .resolved (Completion.resolve item)
  | .hover uri p => .hover ((s.text? uri).bind fun t => Document.hover? t p)
  | .definition uri p =>
    .definition ((s.text? uri).bind fun t =>
      (Document.definition? engine t p).map (Location.mk uri))
  | .outline uri => .outline (((s.text? uri).map (Document.outline engine)).getD [])
  | .search query => .search (Document.search engine query s.texts)

end Session
end GymLang
