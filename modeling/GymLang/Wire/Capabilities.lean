import GymLang.Session.Settings
import GymLang.Wire.Values

/-!
# What a client can do

A client introduces itself with a long list of what it can do.  The server needs three
entries of it, which `clientSupport?` looks up, but a list that has the wrong form
anywhere is refused as a whole.
-/

namespace GymLang
namespace Wire
namespace Capabilities

open Form

/-- Registration at run time, which may be all there is to say of a feature. -/
def registration : Field := optional "dynamicRegistration" bool

/-- A feature of which there is nothing else to say. -/
def plain : Form := record [registration]

/-- A feature whose results the server may ask to have computed anew. -/
def refreshing : Form := record [optional "refreshSupport" bool]

/-- Some values out of a set. -/
def valueSet (item : Form) : Form := record [optional "valueSet" (list item)]

/-- The properties that can be computed late. -/
def lateProperties : Form := record [required "properties" (list string)]

/-- The tags that are known: a set, or a truth value. -/
def tags : Field :=
  defaulted "tagSupport" (either null (either bool (record [required "valueSet" (list int32)])))

/-- Formats of text that are known. -/
def markupKinds : Form := list Values.markupKind

/-! ## The workspace -/

/-- Changes of several documents. -/
def workspaceEdit : Form :=
  record [optional "documentChanges" bool,
    optional "resourceOperations" (list (word ["create", "rename", "delete"])),
    optional "failureHandling"
      (word ["abort", "transactional", "textOnlyTransactional", "undo"]),
    optional "normalizesLineEndings" bool,
    optional "changeAnnotationSupport" (record [optional "groupsOnLabel" bool])]

/-- Operations on files. -/
def fileOperations : Form :=
  record [registration, optional "didCreate" bool, optional "willCreate" bool,
    optional "didRename" bool, optional "willRename" bool, optional "didDelete" bool,
    optional "willDelete" bool]

/-- Searches for symbols. -/
def workspaceSymbol : Form :=
  record [registration, optional "symbolKind" (valueSet int32), tags,
    optional "resolveSupport" lateProperties]

/-- What concerns the workspace. -/
def workspace : Form :=
  record [optional "applyEdit" bool, optional "workspaceEdit" workspaceEdit,
    optional "didChangeConfiguration" plain,
    optional "didChangeWatchedFiles"
      (record [registration, optional "relativePatternSupport" bool]),
    optional "symbol" workspaceSymbol, optional "executeCommand" plain,
    optional "workspaceFolders" bool, optional "configuration" bool,
    optional "semanticTokens" refreshing, optional "codeLens" refreshing,
    optional "fileOperations" fileOperations, optional "inlineValue" refreshing,
    optional "inlayHint" refreshing, optional "diagnostic" refreshing]

/-! ## Documents -/

/-- Notices about documents. -/
def synchronization : Form :=
  record [registration, optional "willSave" bool, optional "willSaveWaitUntil" bool,
    optional "didSave" bool]

/-- Items of completion. -/
def completionItem : Form :=
  record [optional "snippetSupport" bool, optional "commitCharactersSupport" bool,
    optional "documentationFormat" markupKinds, optional "deprecatedSupport" bool,
    optional "preselectSupport" bool, tags, optional "insertReplaceSupport" bool,
    optional "resolveSupport" lateProperties,
    optional "insertTextModeSupport" (record [required "valueSet" (list int32)]),
    optional "labelDetailsSupport" bool]

/-- Completion. -/
def completion : Form :=
  record [registration, optional "completionItem" completionItem,
    optional "completionItemKind" (valueSet int32), optional "contextSupport" bool,
    optional "insertTextMode" int32,
    optional "completionList" (record [optional "itemDefaults" (list string)])]

/-- Help with signatures. -/
def signatureHelp : Form :=
  record [registration,
    optional "signatureInformation"
      (record [optional "documentationFormat" markupKinds,
        optional "parameterInformation" (record [optional "labelOffsetSupport" bool]),
        optional "activeParameterSupport" bool]),
    optional "contextSupport" bool]

/-- Outlines. -/
def documentSymbol : Form :=
  record [registration, optional "symbolKind" (valueSet int32),
    optional "hierarchicalDocumentSymbolSupport" bool, tags]

/-- Jumps to a place. -/
def goto : Form := record [registration, optional "linkSupport" bool]

/-- Actions that change code. -/
def codeAction : Form :=
  record [registration,
    optional "codeActionLiteralSupport"
      (record [required "codeActionKind" (record [required "valueSet" (list string)])]),
    optional "isPreferredSupport" bool, optional "disabledSupport" bool,
    optional "dataSupport" bool, optional "resolveSupport" lateProperties,
    optional "honorsChangeAnnotations" bool]

/-- Renaming. -/
def rename : Form :=
  record [registration, optional "prepareSupport" bool,
    optional "prepareSupportDefaultBehavior" int32, optional "honorsChangeAnnotations" bool]

/-- Diagnostics that are published. -/
def publishDiagnostics : Form :=
  record [optional "relatedInformation" bool, tags, optional "versionSupport" bool,
    optional "codeDescriptionSupport" bool, optional "dataSupport" bool]

/-- Ranges that can be folded. -/
def foldingRange : Form :=
  record [registration, optional "rangeLimit" nat32, optional "lineFoldingOnly" bool,
    optional "foldingRangeKind" (valueSet (word ["comment", "imports", "region"])),
    optional "foldingRange" (record [optional "collapsedText" bool])]

/-- Colors of tokens. -/
def semanticTokens : Form :=
  record [registration,
    required "requests"
      (record [optional "range" bool,
        optional "full" (either bool (members [optional "delta" bool]))]),
    required "tokenTypes" (list string), required "tokenModifiers" (list string),
    required "formats" (list string), optional "overlappingTokenSupport" bool,
    optional "multilineTokenSupport" bool, optional "serverCancelSupport" bool,
    optional "augmentsSyntaxTokens" bool]

/-- What concerns documents. -/
def textDocument : Form :=
  record [optional "synchronization" synchronization, optional "completion" completion,
    optional "hover" (record [registration, optional "contentFormat" markupKinds]),
    optional "signatureHelp" signatureHelp, optional "references" plain,
    optional "documentHighlight" plain, optional "documentSymbol" documentSymbol,
    optional "formatting" plain, optional "rangeFormatting" plain,
    optional "onTypeFormatting" plain, optional "declaration" goto, optional "definition" goto,
    optional "typeDefinition" goto, optional "implementation" goto,
    optional "codeAction" codeAction, optional "codeLens" plain,
    optional "documentLink" (record [registration, optional "tooltipSupport" bool]),
    optional "colorProvider" plain, optional "rename" rename,
    optional "publishDiagnostics" publishDiagnostics, optional "foldingRange" foldingRange,
    optional "selectionRange" plain, optional "linkedEditingRange" plain,
    optional "callHierarchy" plain, optional "semanticTokens" semanticTokens,
    optional "moniker" plain, optional "typeHierarchy" plain, optional "inlineValue" plain,
    optional "inlayHint" (record [registration, optional "resolveSupport" lateProperties]),
    optional "diagnostic" (record [registration, optional "relatedDocumentSupport" bool])]

/-! ## Windows and the rest -/

/-- What concerns windows. -/
def window : Form :=
  record [optional "workDoneProgress" bool,
    optional "showMessage"
      (record [optional "messageActionItem"
        (record [optional "additionalPropertiesSupport" bool])]),
    optional "showDocument" (record [required "support" bool])]

/-- What concerns nothing in particular. -/
def general : Form :=
  record [
    optional "regularExpressions" (record [required "engine" string, optional "version" string]),
    optional "markdown"
      (record [required "parser" string, optional "version" string,
        optional "allowedTags" (list string)]),
    optional "staleRequestSupport"
      (record [required "cancel" bool, required "retryOnContentModified" (list string)]),
    optional "positionEncodings" (list string)]

/-- Everything a client can do. -/
def all : Form :=
  record [optional "workspace" workspace, optional "textDocument" textDocument,
    optional "window" window, optional "general" general, optional "experimental" any]

end Capabilities

/-- Whether a field of a record is the truth value true. -/
def isSet (place : Nat) (name : String) (j : Option Json) : Bool :=
  ((j.bind (·.field? place name)).bind Json.bool?).getD false

/-- What the server needs to know of what a client can do. -/
def clientSupport? (j : Json) : Option ClientSupport :=
  if Capabilities.all j then
    let workspace := j.field? 0 "workspace"
    let diagnostics := (j.field? 1 "textDocument").bind (·.field? 19 "publishDiagnostics")
    some ⟨isSet 7 "configuration" workspace, isSet 6 "workspaceFolders" workspace,
      isSet 0 "relatedInformation" diagnostics⟩
  else none

end Wire
end GymLang
