import GymLang.Server.Basic

/-!
# Values on the wire

How what the server says is spelled in the editor protocol.  Fields that are not set are
left out.
-/

namespace GymLang

/-- A position, in numbers of 32 bits. -/
def Position.toJson (p : Position) : Json :=
  .object [("line", .nat (narrow p.line).toNat), ("character", .nat (narrow p.character).toNat)]

/-- A range. -/
def Range.toJson (r : Range) : Json :=
  .object [("start", r.start.toJson), ("end", r.stop.toJson)]

/-- A location. -/
def Location.toJson (l : Location) : Json :=
  .object [("uri", .string l.uri), ("range", l.range.toJson)]

/-- A text in markdown. -/
def Markup.toJson (m : Markup) : Json :=
  .object [("kind", .string (if m.markdown then "markdown" else "plaintext")),
    ("value", .string m.value)]

/-- Where diagnostics come from. -/
def Problem.source : String := "gymlang"

/-- A problem as a diagnostic.  Every problem is an error. -/
def Problem.toJson (p : Problem) : Json :=
  .object [("range", p.range.toJson), ("severity", .int 1), ("source", .string source),
    ("message", .text p.fault.message)]

/-- The diagnostics of a document. -/
def Publication.toJson (p : Publication) : Json :=
  .ofMembers [("uri", some (.string p.uri)),
    ("diagnostics", some (.array (p.problems.map Problem.toJson))),
    ("version", p.version.map .int)]

/-- An entry of an outline. -/
def Entry.toJson (e : Entry) : Json :=
  .object [("name", .string e.command.keyword), ("detail", .string e.command.description),
    ("kind", .nat e.command.symbolKind.code), ("range", e.range.toJson),
    ("selectionRange", e.range.toJson)]

/-- An entry found in a document. -/
def Found.toJson (f : Found) : Json :=
  .object [("name", .string f.entry.command.keyword),
    ("kind", .nat f.entry.command.symbolKind.code),
    ("location", (Location.mk f.uri f.entry.range).toJson)]

/-- A hover. -/
def Hover.toJson (h : Hover) : Json :=
  .object [("contents", (Markup.mk true (String.ofList h.subject.markdown)).toJson),
    ("range", h.range.toJson)]

/-- Documentation of an item. -/
def Documentation.toJson : Documentation → Json
  | plain s => .string s
  | markup m => m.toJson

/-- A new text for a range. -/
def TextEdit.toJson (e : TextEdit) : Json :=
  .object [("range", e.range.toJson), ("newText", .string e.newText)]

/-- What accepting an item does. -/
def ItemEdit.toJson : ItemEdit → Json
  | edit e => e.toJson
  | insertOrReplace newText insert replace =>
    .object [("newText", .string newText), ("insert", insert.toJson),
      ("replace", replace.toJson)]

/-- What is shown beside a label. -/
def LabelDetails.toJson (d : LabelDetails) : Json :=
  .ofMembers [("detail", d.detail.map .string), ("description", d.description.map .string)]

/-- A command of the editor. -/
def EditorCommand.toJson (c : EditorCommand) : Json :=
  .ofMembers [("title", some (.string c.title)), ("command", some (.string c.command)),
    ("arguments", c.arguments.map .array)]

/-- A completion item. -/
def CompletionItem.toJson (i : CompletionItem) : Json :=
  .ofMembers [
    ("label", some (.string i.label)),
    ("labelDetails", i.labelDetails.map LabelDetails.toJson),
    ("kind", i.kind.map fun k => .int k.code),
    ("detail", i.detail.map .string),
    ("documentation", i.documentation.map Documentation.toJson),
    ("deprecated", i.deprecated.map .bool),
    ("preselect", i.preselect.map .bool),
    ("sortText", i.sortText.map .string),
    ("filterText", i.filterText.map .string),
    ("insertText", i.insertText.map .string),
    ("insertTextFormat", i.insertTextFormat.map .int),
    ("insertTextMode", i.insertTextMode.map .int),
    ("textEdit", i.textEdit.map ItemEdit.toJson),
    ("additionalTextEdits", i.additionalTextEdits.map fun es => .array (es.map TextEdit.toJson)),
    ("command", i.command.map EditorCommand.toJson),
    ("commitCharacters", i.commitCharacters.map fun cs => .array (cs.map .string)),
    ("data", i.data),
    ("tags", i.tags.map fun ts => .array (ts.map .int))]

/-- A value or null. -/
def Json.orNull : Option Json → Json
  | some j => j
  | none => .null

/-- The answer to a query. -/
def Answer.toJson : Answer → Json
  | completion items => .array (items.map CompletionItem.toJson)
  | resolved item => item.toJson
  | hover h => .orNull (h.map Hover.toJson)
  | definition l => .orNull (l.map Location.toJson)
  | outline entries => .array (entries.map Entry.toJson)
  | search found => .array (found.map Found.toJson)

namespace Wire

/-- Name and version of the server. -/
def serverInfo : Json := .object [("name", .string "gym-lsp"), ("version", .string "0.1.0")]

/-- What the server offers.  Documents are kept in step by changes of ranges, and several
folders are mentioned only to a client that knows them. -/
def offer (client : ClientSupport) : Json :=
  .object [
    ("capabilities", .ofMembers [
      ("textDocumentSync", some (.int 2)),
      ("completionProvider", some (.object [("resolveProvider", .bool true),
        ("triggerCharacters", .array [.string " ", .string "\t"])])),
      ("hoverProvider", some (.bool true)),
      ("documentSymbolProvider", some (.bool true)),
      ("workspaceSymbolProvider", some (.bool true)),
      ("definitionProvider", some (.bool true)),
      ("workspace", if client.workspaceFolders then
        some (.object [("workspaceFolders", .object [("supported", .bool true)])]) else none)]),
    ("serverInfo", serverInfo)]

/-- A result. -/
def result : Result → Json
  | .offer client => offer client
  | .stopped => .null
  | .answer a => a.toJson

/-- Method of a question. -/
def method : Question → String
  | .watchConfiguration => "client/registerCapability"
  | .settings _ => "workspace/configuration"

/-- Parameters of a question. -/
def params : Question → Json
  | .watchConfiguration =>
    .object [("registrations", .array [.object [("id", .string "gymlang-configuration"),
      ("method", .string "workspace/didChangeConfiguration")]])]
  | .settings uri =>
    .object [("items", .array [.object [("scopeUri", .string uri),
      ("section", .string Settings.sectionName)]])]

/-- Parameters of the greeting. -/
def greeting : Json := .object [("type", .int 3), ("message", .string "GymLang LSP initialized")]

/-- Identifier of a request. -/
def requestId : RequestId → Json
  | .number n => .int n
  | .string s => .string s
  | .null => .null

/-- Message for a refusal. -/
def refusalText : Refusal → String
  | .notInitialized => "Server not initialized"
  | .invalidRequest => "Invalid request"
  | .methodNotFound => "Method not found"
  | .invalidParams => "Invalid params"

/-- A message of a method. -/
def envelope (method : String) (params : Json) (id : Option Json) : Json :=
  .ofMembers [("jsonrpc", some (.string "2.0")), ("method", some (.string method)),
    ("params", some params), ("id", id)]

/-- A message from the server. -/
def outgoing : Outgoing → Json
  | .response id (.ok r) =>
    .object [("jsonrpc", .string "2.0"), ("result", result r), ("id", requestId id)]
  | .response id (.error e) =>
    .object [("jsonrpc", .string "2.0"),
      ("error", .object [("code", .int e.code), ("message", .string (refusalText e))]),
      ("id", requestId id)]
  | .greeting => envelope "window/logMessage" greeting none
  | .publish p => envelope "textDocument/publishDiagnostics" p.toJson none
  | .ask number q => envelope (method q) (params q) (some (.nat number))

end Wire
end GymLang
