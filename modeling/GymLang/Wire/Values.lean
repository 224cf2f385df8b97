import GymLang.Json.Form

/-!
# Forms of protocol values

What documents, places, edits and the other values of the editor protocol have to look
like where nobody reads them.
-/

namespace GymLang
namespace Wire
namespace Values

open Form

/-- An identifier of a document. -/
def uri : Form := string

/-- A position in a document. -/
def position : Form := record [required "line" nat32, required "character" nat32]

/-- A range of a document. -/
def range : Form := record [required "start" position, required "end" position]

/-- A range and the document it is in. -/
def location : Form := record [required "uri" uri, required "range" range]

/-- A document by its identifier. -/
def document : Form := record [required "uri" uri]

/-- A document by its identifier, with a version if it has one. -/
def versionedDocument : Form := record [required "uri" uri, optional "version" int32]

/-- A whole number or a string. -/
def token : Form := either int32 string

/-- Text in one of two formats. -/
def markupKind : Form := word ["plaintext", "markdown"]

/-- A text with its format, or without. -/
def markup : Form :=
  either string (record [required "kind" markupKind, required "value" string])

/-- A command of the editor. -/
def command : Form :=
  record [required "title" string, required "command" string, optional "arguments" (list any)]

/-! ## Edits -/

/-- A replacement in a document. -/
def textEdit : Form := record [required "range" range, required "newText" string]

/-- A replacement that refers to an annotation. -/
def annotatedEdit : Form :=
  members [required "range" range, required "newText" string, required "annotationId" string]

/-- Replacements in one document. -/
def documentEdit : Form :=
  record [required "textDocument" versionedDocument,
    required "edits" (list (either textEdit annotatedEdit))]

/-- What to do when the file is there already. -/
def overwriting : Form := record [optional "overwrite" bool, optional "ignoreIfExists" bool]

/-- A file to create. -/
def fileToCreate : Form :=
  record [required "kind" (kind "create" 0), required "uri" uri, optional "options" overwriting,
    optional "annotationId" string]

/-- A file to rename. -/
def fileToRename : Form :=
  record [required "kind" (kind "rename" 1), required "oldUri" uri, required "newUri" uri,
    optional "options" overwriting, optional "annotationId" string]

/-- A file to delete. -/
def fileToDelete : Form :=
  record [required "kind" (kind "delete" 2), required "uri" uri,
    optional "options" (record [optional "recursive" bool, optional "ignoreIfNotExists" bool,
      optional "annotationId" string])]

/-- A change of files or of one document. -/
def operation : Form :=
  either (either fileToCreate (either fileToRename fileToDelete)) documentEdit

/-- What may be said about a group of changes. -/
def annotation : Form :=
  record [required "label" string, optional "needsConfirmation" bool,
    optional "description" string]

/-- Changes of several documents. -/
def workspaceEdit : Form :=
  record [optional "changes" (table (list textEdit)),
    optional "documentChanges" (either (list documentEdit) (list operation)),
    optional "changeAnnotations" (table annotation)]

/-! ## What servers answer, sent back to them -/

/-- A diagnostic. -/
def diagnostic : Form :=
  record [required "range" range, optional "severity" int32, optional "code" token,
    optional "codeDescription" (record [required "href" uri]), optional "source" string,
    required "message" string,
    optional "relatedInformation"
      (list (record [required "location" location, required "message" string])),
    optional "tags" (list int32), optional "data" any]

/-- An action that changes code. -/
def codeAction : Form :=
  record [required "title" string, optional "kind" string,
    optional "diagnostics" (list diagnostic), optional "edit" workspaceEdit,
    optional "command" command, optional "isPreferred" bool,
    optional "disabled" (record [required "reason" string]), optional "data" any]

/-- A command shown in the text. -/
def codeLens : Form :=
  record [required "range" range, optional "command" command, optional "data" any]

/-- A link in the text. -/
def documentLink : Form :=
  record [required "range" range, optional "target" uri, optional "tooltip" string,
    optional "data" any]

/-- A callable in a hierarchy of calls. -/
def callItem : Form :=
  record [required "name" string, required "kind" int32, optional "tags" (list int32),
    optional "detail" string, required "uri" uri, required "range" range,
    required "selectionRange" range, optional "data" any]

/-- A type in a hierarchy of types. -/
def typeItem : Form :=
  record [required "name" string, required "kind" int32, optional "tags" int32,
    optional "detail" string, required "uri" uri, required "range" range,
    required "selectionRange" range, optional "data" any]

/-- A part of a hint. -/
def hintPart : Form :=
  record [required "value" string, optional "tooltip" markup, optional "location" location,
    optional "command" command]

/-- A hint shown in the text. -/
def inlayHint : Form :=
  record [required "position" position, required "label" (either string (list hintPart)),
    optional "kind" int32, optional "textEdits" (list textEdit), optional "tooltip" markup,
    optional "paddingLeft" bool, optional "paddingRight" bool, optional "data" any]

/-- A symbol found in some document. -/
def workspaceSymbol : Form :=
  record [required "name" string, required "kind" int32, optional "tags" (list int32),
    optional "containerName" string,
    required "location" (either location (record [required "uri" uri])), optional "data" any]

/-- A parameter of a signature. -/
def parameter : Form :=
  record [required "label" (either string (tuple 2 nat32)), optional "documentation" markup]

/-- A signature. -/
def signature : Form :=
  record [required "label" string, optional "documentation" markup,
    optional "parameters" (list parameter), optional "activeParameter" nat32]

/-- Signatures of which one is active. -/
def signatureHelp : Form :=
  record [required "signatures" (list signature), optional "activeSignature" nat32,
    optional "activeParameter" nat32]

/-- A color. -/
def color : Form :=
  record [required "red" number, required "green" number, required "blue" number,
    required "alpha" number]

/-- How text is to be formatted.  A property of another name is a truth value, a whole
number or a string. -/
def formatting : Form := fun j =>
  members [required "tabSize" nat32, required "insertSpaces" bool,
    optional "trimTrailingWhitespace" bool, optional "insertFinalNewline" bool,
    optional "trimFinalNewlines" bool] j &&
  match j with
  | .object ms => ms.all fun (name, value) =>
      ["tabSize", "insertSpaces", "trimTrailingWhitespace", "insertFinalNewline",
        "trimFinalNewlines"].contains name || either bool (either int32 string) value
  | _ => false

end Values
end Wire
end GymLang
