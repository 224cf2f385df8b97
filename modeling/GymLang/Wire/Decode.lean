import GymLang.Server.Basic
import GymLang.Wire.Capabilities
import GymLang.Wire.Methods

/-!
# Messages on the wire

How messages from the editor are made out.  The parameters of a method have to be there
and of the right form, in fields that nobody reads as well.  Unknown fields are passed
over.
-/

namespace GymLang

/-- A position. -/
def Position.ofJson? (j : Json) : Option Position := do
  guard (j.isRecord 2)
  let line ← j.required? Json.nat32? 0 "line"
  let character ← j.required? Json.nat32? 1 "character"
  return ⟨line, character⟩

/-- A range. -/
def Range.ofJson? (j : Json) : Option Range := do
  guard (j.isRecord 2)
  let start ← j.required? Position.ofJson? 0 "start"
  let stop ← j.required? Position.ofJson? 1 "end"
  return ⟨start, stop⟩

/-- A change of a text. -/
def Document.Change.ofJson? (j : Json) : Option Document.Change := do
  guard (j.isRecord 3)
  let range ← j.optional? Range.ofJson? 0 "range"
  let _ ← j.optional? Json.nat32? 1 "rangeLength"
  let text ← j.required? Json.string? 2 "text"
  return ⟨range, text.toList⟩

/-- A document that is opened. -/
def OpenedDocument.ofJson? (j : Json) : Option OpenedDocument := do
  guard (j.isRecord 4)
  let uri ← j.required? Json.string? 0 "uri"
  let language ← j.required? Json.string? 1 "languageId"
  let version ← j.required? Json.int32? 2 "version"
  let text ← j.required? Json.string? 3 "text"
  return ⟨uri, language, version, text.toList⟩

/-- A text that may be in markdown. -/
def Markup.ofJson? (j : Json) : Option Markup := do
  guard (j.isRecord 2)
  let kind ← j.required? (Json.word? ["plaintext", "markdown"]) 0 "kind"
  let value ← j.required? Json.string? 1 "value"
  return ⟨kind == "markdown", value⟩

/-- Documentation of an item. -/
def Documentation.ofJson? (j : Json) : Option Documentation :=
  (j.string?.map plain).or ((Markup.ofJson? j).map markup)

/-- A new text for a range. -/
def TextEdit.ofJson? (j : Json) : Option TextEdit := do
  guard (j.isRecord 2)
  let range ← j.required? Range.ofJson? 0 "range"
  let newText ← j.required? Json.string? 1 "newText"
  return ⟨range, newText⟩

/-- What accepting an item does. -/
def ItemEdit.ofJson? (j : Json) : Option ItemEdit :=
  ((TextEdit.ofJson? j).map edit).or do
    guard (j.isRecord 3)
    let newText ← j.required? Json.string? 0 "newText"
    let insert ← j.required? Range.ofJson? 1 "insert"
    let replace ← j.required? Range.ofJson? 2 "replace"
    return .insertOrReplace newText insert replace

/-- What is shown beside a label. -/
def LabelDetails.ofJson? (j : Json) : Option LabelDetails := do
  guard (j.isRecord 2)
  let detail ← j.optional? Json.string? 0 "detail"
  let description ← j.optional? Json.string? 1 "description"
  return ⟨detail, description⟩

/-- A command of the editor. -/
def EditorCommand.ofJson? (j : Json) : Option EditorCommand := do
  guard (j.isRecord 3)
  let title ← j.required? Json.string? 0 "title"
  let command ← j.required? Json.string? 1 "command"
  let arguments ← j.optional? (Json.list? Json.any?) 2 "arguments"
  return ⟨title, command, arguments⟩

/-- A completion item. -/
def CompletionItem.ofJson? (j : Json) : Option CompletionItem := do
  guard (j.isRecord 18)
  let label ← j.required? Json.string? 0 "label"
  let labelDetails ← j.optional? LabelDetails.ofJson? 1 "labelDetails"
  let kind ← j.optional? Json.int32? 2 "kind"
  let detail ← j.optional? Json.string? 3 "detail"
  let documentation ← j.optional? Documentation.ofJson? 4 "documentation"
  let deprecated ← j.optional? Json.bool? 5 "deprecated"
  let preselect ← j.optional? Json.bool? 6 "preselect"
  let sortText ← j.optional? Json.string? 7 "sortText"
  let filterText ← j.optional? Json.string? 8 "filterText"
  let insertText ← j.optional? Json.string? 9 "insertText"
  let insertTextFormat ← j.optional? Json.int32? 10 "insertTextFormat"
  let insertTextMode ← j.optional? Json.int32? 11 "insertTextMode"
  let textEdit ← j.optional? ItemEdit.ofJson? 12 "textEdit"
  let additionalTextEdits ← j.optional? (Json.list? TextEdit.ofJson?) 13 "additionalTextEdits"
  let command ← j.optional? EditorCommand.ofJson? 14 "command"
  let commitCharacters ← j.optional? (Json.list? Json.string?) 15 "commitCharacters"
  let data ← j.optional? Json.any? 16 "data"
  let tags ← j.optional? (Json.list? Json.int32?) 17 "tags"
  return {
    label, labelDetails, kind := kind.map ItemKind.ofCode, detail, documentation, deprecated,
    preselect, sortText, filterText, insertText, insertTextFormat, insertTextMode, textEdit,
    additionalTextEdits, command, commitCharacters, data, tags }

namespace Wire

/-- The document a field names. -/
def document? (j : Json) : Option Uri := do
  guard (j.isRecord 1)
  j.required? Json.string? 0 "uri"

/-- The document and version a field names. -/
def versioned? (j : Json) : Option (Uri × Int) := do
  guard (j.isRecord 2)
  let uri ← j.required? Json.string? 0 "uri"
  let version ← j.required? Json.int32? 1 "version"
  return (uri, version)

/-- The client in the parameters of the first message. -/
def start? (j : Json) : Option ClientSupport := do
  guard (Form.record startFields j)
  (j.field? 4 "capabilities").bind clientSupport?
where
  startFields : List Field := [
    Form.optional "processId" Form.nat32, Form.optional "rootPath" Form.string,
    Form.optional "rootUri" Values.uri, Form.optional "initializationOptions" Form.any,
    Form.required "capabilities" Form.any,
    Form.optional "trace" (Form.word ["off", "messages", "verbose"]),
    Form.optional "workspaceFolders"
      (Form.list (Form.record [Form.required "uri" Values.uri, Form.required "name" Form.string])),
    Form.optional "clientInfo"
      (Form.record [Form.required "name" Form.string, Form.optional "version" Form.string]),
    Form.optional "locale" Form.string]

/-- A document and a position in it. -/
def place? (j : Json) : Option (Uri × Position) := do
  let uri ← j.required? document? 0 "textDocument"
  let p ← j.required? Position.ofJson? 1 "position"
  return (uri, p)

/-- The request for a hover. -/
def hover? (j : Json) : Option Query := do
  guard (Methods.hover j)
  let (uri, p) ← place? j
  return .hover uri p

/-- The request for a definition. -/
def definition? (j : Json) : Option Query := do
  guard (Methods.definition j)
  let (uri, p) ← place? j
  return .definition uri p

/-- The request for completion. -/
def completion? (j : Json) : Option Query := do
  guard (Methods.completion j)
  return .completion

/-- The request for a search. -/
def search? (j : Json) : Option Query := do
  guard (Methods.search j)
  let query ← j.required? Json.string? 0 "query"
  return .search query.toList

/-- The request for an outline. -/
def outline? (j : Json) : Option Query := do
  guard (Methods.outline j)
  let uri ← j.required? document? 0 "textDocument"
  return .outline uri

/-- The request for the documentation of an item. -/
def resolve? (j : Json) : Option Query := (CompletionItem.ofJson? j).map .resolve

/-- The notice of a document that is opened. -/
def opened? (j : Json) : Option Notice := do
  guard (j.isRecord 1)
  let d ← j.required? OpenedDocument.ofJson? 0 "textDocument"
  return .opened d

/-- The notice of changes of a document. -/
def changed? (j : Json) : Option Notice := do
  guard (j.isRecord 2)
  let (uri, version) ← j.required? versioned? 0 "textDocument"
  let changes ← j.required? (Json.list? Document.Change.ofJson?) 1 "contentChanges"
  return .changed uri version changes

/-- The notice of a document that is closed. -/
def closed? (j : Json) : Option Notice := do
  guard (j.isRecord 1)
  let uri ← j.required? document? 0 "textDocument"
  return .closed uri

/-- The notice of a change of the configuration. -/
def configurationChanged? (j : Json) : Option Notice := do
  guard (j.isRecord 1)
  let report ← j.required? Json.any? 0 "settings"
  return .configurationChanged report

/-- What the first message is about. -/
def startBody (params : Option Json) : Body :=
  match params.bind start? with
  | some client => .start client
  | none => .malformed .start

/-- What a request is about. -/
def queryBody (query? : Json → Option Query) (params : Option Json) : Body :=
  match params.bind query? with
  | some q => .query q
  | none => .malformed .query

/-- What a notice is about. -/
def noticeBody (notice? : Json → Option Notice) (params : Option Json) : Body :=
  match params.bind notice? with
  | some n => .notice n
  | none => .unused

/-- What a message of a method that is not served is about.  Names that start with a
dollar sign and a slash belong to optional methods. -/
def otherBody (method : String) (params : Option Json) : Body :=
  if method ∈ Methods.dropped then .unused
  else
    match Methods.unserved.lookup method with
    | some form => if params.any form then .unserved else .malformed .query
    | none => .unknown ("$/".toList.isPrefixOf method.toList)

/-- What a message of a method is about. -/
def body (method : String) (params : Option Json) : Body :=
  match method with
  | "initialize" => startBody params
  | "initialized" => if params.any (Form.record []) then .started else .unused
  | "shutdown" => if params.isSome then .malformed .shutdown else .shutdown
  | "exit" => .exit
  | "$/cancelRequest" => .cancel
  | "textDocument/didOpen" => noticeBody opened? params
  | "textDocument/didChange" => noticeBody changed? params
  | "textDocument/didClose" => noticeBody closed? params
  | "workspace/didChangeConfiguration" => noticeBody configurationChanged? params
  | "textDocument/hover" => queryBody hover? params
  | "textDocument/definition" => queryBody definition? params
  | "textDocument/documentSymbol" => queryBody outline? params
  | "textDocument/completion" => queryBody completion? params
  | "completionItem/resolve" => queryBody resolve? params
  | "workspace/symbol" => queryBody search? params
  | _ => otherBody method params

/-- Identifier of a request. -/
def requestId? : Json → Option RequestId
  | .int n => some (.number n)
  | .string s => some (.string s)
  | .null => some .null
  | _ => none

/-- A message of a method, a request if it has an identifier. -/
def message (method : String) (id : Option RequestId) (params : Option Json) : Message :=
  ⟨id, body method params⟩

/-- What a value from the editor tells the server: a message, or a reply to a question. -/
def event? (j : Json) : Option Server.Event :=
  match j.member? "method" with
  | some (.string method) =>
    match j.member? "id" with
    | none => some (.message (message method none (j.member? "params")))
    | some id =>
      (requestId? id).map fun i => .message (message method (some i) (j.member? "params"))
  | some _ => none
  | none => do
    let number ← (← j.member? "id").nat64?
    match j.member? "result" with
    | some value => return .reply number (.value value)
    | none => return .reply number .failed

end Wire
end GymLang
