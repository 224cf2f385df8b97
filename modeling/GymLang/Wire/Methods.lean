import GymLang.Wire.Values

/-!
# Methods of the protocol

The parameters of the requests that are served, as forms, and the methods that are known
but not served: requests, which are held against their forms all the same, and notices,
which are dropped.
-/

namespace GymLang
namespace Wire
namespace Methods

open Form

/-! ## Common fields -/

/-- A document. -/
def document : Field := required "textDocument" Values.document

/-- A position in a document. -/
def place : List Field := [document, required "position" Values.position]

/-- A range in a document. -/
def stretch : List Field := [document, required "range" Values.range]

/-- A token to report progress under. -/
def progress : Field := optional "workDoneToken" Values.token

/-- Tokens to report progress and parts of the result under. -/
def reports : List Field := [progress, optional "partialResultToken" Values.token]

/-! ## Requests that are served -/

/-- Parameters of a request for a hover. -/
def hover : Form := members (place ++ [progress])

/-- Parameters of a request for a definition, or another place of that kind. -/
def definition : Form := members (place ++ reports)

/-- Parameters of a request for an outline, or something else on a document. -/
def outline : Form := members (document :: reports)

/-- Parameters of a request for completion. -/
def completion : Form :=
  members (place ++ reports ++ [optional "context"
    (record [required "triggerKind" int32, optional "triggerCharacter" string])])

/-- Parameters of a search. -/
def search : Form := members (reports ++ [required "query" string])

/-! ## Requests that are not served -/

/-- How help with a signature came to be asked for. -/
def signatureContext : Form :=
  record [required "triggerKind" int32, optional "triggerCharacter" string,
    required "isRetrigger" bool, optional "activeSignatureHelp" Values.signatureHelp]

/-- What actions that change code are asked for. -/
def actionContext : Form :=
  record [required "diagnostics" (list Values.diagnostic), optional "only" (list string),
    optional "triggerKind" int32]

/-- Files by their identifiers. -/
def files : Form := record [required "files" (list (record [required "uri" string]))]

/-- Files with new identifiers. -/
def renamedFiles : Form :=
  record [required "files" (list (record [required "oldUri" string, required "newUri" string]))]

/-- The requests that are known and not served, with the forms of their parameters. -/
def unserved : List (String × Form) := [
  ("textDocument/willSaveWaitUntil", record [document, required "reason" int32]),
  ("textDocument/declaration", definition),
  ("textDocument/typeDefinition", definition),
  ("textDocument/implementation", definition),
  ("textDocument/references",
    members (place ++ reports ++
      [required "context" (record [required "includeDeclaration" bool])])),
  ("textDocument/prepareCallHierarchy", hover),
  ("callHierarchy/incomingCalls", members (required "item" Values.callItem :: reports)),
  ("callHierarchy/outgoingCalls", members (required "item" Values.callItem :: reports)),
  ("textDocument/prepareTypeHierarchy", hover),
  ("typeHierarchy/supertypes", members (required "item" Values.typeItem :: reports)),
  ("typeHierarchy/subtypes", members (required "item" Values.typeItem :: reports)),
  ("textDocument/documentHighlight", definition),
  ("textDocument/documentLink", outline),
  ("documentLink/resolve", Values.documentLink),
  ("textDocument/codeLens", outline),
  ("codeLens/resolve", Values.codeLens),
  ("textDocument/foldingRange", outline),
  ("textDocument/selectionRange",
    members (document :: required "positions" (list Values.position) :: reports)),
  ("textDocument/semanticTokens/full", outline),
  ("textDocument/semanticTokens/full/delta",
    members (document :: required "previousResultId" string :: reports)),
  ("textDocument/semanticTokens/range", members (stretch ++ reports)),
  ("textDocument/inlineValue",
    members (stretch ++ [progress, required "context"
      (record [required "frameId" int32, required "stoppedLocation" Values.range])])),
  ("textDocument/inlayHint", members (stretch ++ [progress])),
  ("inlayHint/resolve", Values.inlayHint),
  ("textDocument/moniker", definition),
  ("textDocument/diagnostic",
    members (document :: optional "identifier" string :: optional "previousResultId" string ::
      reports)),
  ("workspace/diagnostic",
    members (optional "identifier" string :: required "previousResultIds"
      (list (record [required "uri" Values.uri, required "value" string])) :: reports)),
  ("textDocument/signatureHelp",
    members (place ++ [progress, optional "context" signatureContext])),
  ("textDocument/codeAction",
    members (stretch ++ reports ++ [required "context" actionContext])),
  ("codeAction/resolve", Values.codeAction),
  ("textDocument/documentColor", outline),
  ("textDocument/colorPresentation",
    members (stretch ++ reports ++ [required "color" Values.color])),
  ("textDocument/formatting",
    members [document, progress, required "options" Values.formatting]),
  ("textDocument/rangeFormatting",
    members (stretch ++ [progress, required "options" Values.formatting])),
  ("textDocument/onTypeFormatting",
    members (place ++ [required "ch" string, required "options" Values.formatting])),
  ("textDocument/rename", members (place ++ [progress, required "newName" string])),
  ("textDocument/prepareRename", record place),
  ("textDocument/linkedEditingRange", hover),
  ("workspaceSymbol/resolve", Values.workspaceSymbol),
  ("workspace/willCreateFiles", files),
  ("workspace/willRenameFiles", renamedFiles),
  ("workspace/willDeleteFiles", files),
  ("workspace/executeCommand",
    members [required "command" string, defaulted "arguments" (list any), progress])]

/-- The notices that are known and dropped. -/
def dropped : List String := [
  "textDocument/willSave", "textDocument/didSave", "workspace/didCreateFiles",
  "workspace/didRenameFiles", "workspace/didDeleteFiles", "workspace/didChangeWatchedFiles",
  "workspace/didChangeWorkspaceFolders"]

end Methods
end Wire
end GymLang
