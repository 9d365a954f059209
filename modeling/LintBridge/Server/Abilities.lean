import LintBridge.Server.Form

/-!
# What the editor is able to do

When the editor connects, it tells at length what it is able to do. This server makes no use of it;
still it refuses an editor that tells it in the wrong form. Everything may be left out, but for a
few parts of parts that are told at all.

## Main definitions

* `Abilities.workspace`, `Abilities.document`, `Abilities.window`, `Abilities.general` — the forms
  of the abilities by what they concern.
* `Abilities.form` — the form of all of them.
-/

namespace LintBridge

namespace Abilities

open PartForm

/-! ### Parts -/

/-- A part that may be missing. -/
def part {α : Type} (name : String) (form : Form α) : PartForm Unit := do
  let _ ← nullable name form

/-- Parts that are truth values and may be missing. -/
def flags (names : List String) : PartForm Unit := do
  for name in names do
    part name .truth

/-- A record of truth values. -/
def switches (names : List String) : Form Unit := .record (flags names)

/-- Whether something can be taken up and given up while the server runs. -/
def registration : PartForm Unit := flags ["dynamicRegistration"]

/-- Nothing but whether something can be taken up while the server runs. -/
def plain : Form Unit := .record registration

/-- Whether what is shown can be asked for anew. -/
def refreshing : Form Unit := switches ["refreshSupport"]

/-- The values that are known. -/
def values {α : Type} (form : Form α) : PartForm Unit := do
  let _ ← required "valueSet" (.list form)

/-- The values that are known, if that is told. -/
def knownValues {α : Type} (form : Form α) : Form Unit := .record (part "valueSet" (.list form))

/-- The properties that can be asked for later. -/
def resolving : Form Unit :=
  .record do
    let _ ← required "properties" (.list .text)

/-- The tags that are known. Some editors tell only whether they know any. -/
def tags : PartForm Unit := do
  let _ ← omissible "tagSupport" (.either (.shape .truth) (.record (values .signed)))

/-- The kinds of markup. -/
def markupKind : Form String := .variant ["plaintext", "markdown"]

/-! ### The workspace -/

/-- Changes to the files of the workspace. -/
def edits : Form Unit :=
  .record do
    flags ["documentChanges"]
    part "resourceOperations" (.list (.variant ["create", "rename", "delete"]))
    part "failureHandling" (.variant ["abort", "transactional", "textOnlyTransactional", "undo"])
    flags ["normalizesLineEndings"]
    part "changeAnnotationSupport" (switches ["groupsOnLabel"])

/-- The names in the workspace. -/
def workspaceSymbols : Form Unit :=
  .record do
    registration
    part "symbolKind" (knownValues .signed)
    tags
    part "resolveSupport" resolving

/-- What the editor can do with the workspace. -/
def workspace : Form Unit :=
  .record do
    flags ["applyEdit"]
    part "workspaceEdit" edits
    part "didChangeConfiguration" plain
    part "didChangeWatchedFiles" (switches ["dynamicRegistration", "relativePatternSupport"])
    part "symbol" workspaceSymbols
    part "executeCommand" plain
    flags ["workspaceFolders", "configuration"]
    part "semanticTokens" refreshing
    part "codeLens" refreshing
    part "fileOperations" (switches ["dynamicRegistration", "didCreate", "willCreate", "didRename",
      "willRename", "didDelete", "willDelete"])
    part "inlineValue" refreshing
    part "inlayHint" refreshing
    part "diagnostic" refreshing

/-! ### Documents -/

/-- One of the proposals of how to go on. -/
def completionItem : Form Unit :=
  .record do
    flags ["snippetSupport", "commitCharactersSupport"]
    part "documentationFormat" (.list markupKind)
    flags ["deprecatedSupport", "preselectSupport"]
    tags
    flags ["insertReplaceSupport"]
    part "resolveSupport" resolving
    part "insertTextModeSupport" (.record (values .signed))
    flags ["labelDetailsSupport"]

/-- Proposals of how to go on. -/
def completion : Form Unit :=
  .record do
    registration
    part "completionItem" completionItem
    part "completionItemKind" (knownValues .signed)
    flags ["contextSupport"]
    part "insertTextMode" .signed
    part "completionList" (.record (part "itemDefaults" (.list .text)))

/-- What is shown of the thing under the pointer. -/
def hover : Form Unit :=
  .record do
    registration
    part "contentFormat" (.list markupKind)

/-- What is shown of a call that is being written. -/
def signatures : Form Unit :=
  .record do
    registration
    part "signatureInformation" (.record do
      part "documentationFormat" (.list markupKind)
      part "parameterInformation" (switches ["labelOffsetSupport"])
      flags ["activeParameterSupport"])
    flags ["contextSupport"]

/-- The names in a document. -/
def documentSymbols : Form Unit :=
  .record do
    registration
    part "symbolKind" (knownValues .signed)
    flags ["hierarchicalDocumentSymbolSupport"]
    tags

/-- Ways to other places. -/
def links : Form Unit := switches ["dynamicRegistration", "linkSupport"]

/-- Actions that mend something. -/
def actions : Form Unit :=
  .record do
    registration
    part "codeActionLiteralSupport" (.record (required "codeActionKind" (.record (values .text))))
    flags ["isPreferredSupport", "disabledSupport", "dataSupport"]
    part "resolveSupport" resolving
    flags ["honorsChangeAnnotations"]

/-- Changes of names. -/
def newNames : Form Unit :=
  .record do
    registration
    flags ["prepareSupport"]
    part "prepareSupportDefaultBehavior" .signed
    flags ["honorsChangeAnnotations"]

/-- The diagnostics that the server sends. -/
def diagnostics : Form Unit :=
  .record do
    flags ["relatedInformation"]
    tags
    flags ["versionSupport", "codeDescriptionSupport", "dataSupport"]

/-- Stretches that can be folded. -/
def folding : Form Unit :=
  .record do
    registration
    part "rangeLimit" .unsigned
    flags ["lineFoldingOnly"]
    part "foldingRangeKind" (knownValues (.variant ["comment", "imports", "region"]))
    part "foldingRange" (switches ["collapsedText"])

/-- The parts of speech of a document. -/
def tokens : Form Unit :=
  .record do
    registration
    required "requests" (.record do
      flags ["range"]
      part "full" (.either (.shape .truth) (.flatRecord (flags ["delta"]))))
    for name in ["tokenTypes", "tokenModifiers", "formats"] do
      let _ ← required name (.list .text)
    flags ["overlappingTokenSupport", "multilineTokenSupport", "serverCancelSupport",
      "augmentsSyntaxTokens"]

/-- Remarks that are shown within a line. -/
def hints : Form Unit :=
  .record do
    registration
    part "resolveSupport" resolving

/-- What the editor can do with a document. -/
def document : Form Unit :=
  .record do
    part "synchronization" (switches ["dynamicRegistration", "willSave", "willSaveWaitUntil",
      "didSave"])
    part "completion" completion
    part "hover" hover
    part "signatureHelp" signatures
    part "references" plain
    part "documentHighlight" plain
    part "documentSymbol" documentSymbols
    part "formatting" plain
    part "rangeFormatting" plain
    part "onTypeFormatting" plain
    part "declaration" links
    part "definition" links
    part "typeDefinition" links
    part "implementation" links
    part "codeAction" actions
    part "codeLens" plain
    part "documentLink" (switches ["dynamicRegistration", "tooltipSupport"])
    part "colorProvider" plain
    part "rename" newNames
    part "publishDiagnostics" diagnostics
    part "foldingRange" folding
    part "selectionRange" plain
    part "linkedEditingRange" plain
    part "callHierarchy" plain
    part "semanticTokens" tokens
    part "moniker" plain
    part "typeHierarchy" plain
    part "inlineValue" plain
    part "inlayHint" hints
    part "diagnostic" (switches ["dynamicRegistration", "relatedDocumentSupport"])

/-! ### The window and the editor itself -/

/-- What the editor can do with its window. -/
def window : Form Unit :=
  .record do
    flags ["workDoneProgress"]
    part "showMessage"
      (.record (part "messageActionItem" (switches ["additionalPropertiesSupport"])))
    part "showDocument" (.record do
      let _ ← required "support" .truth)

/-- What concerns all of the editor. -/
def general : Form Unit :=
  .record do
    part "regularExpressions" (.record do
      let _ ← required "engine" .text
      part "version" .text)
    part "markdown" (.record do
      let _ ← required "parser" .text
      part "version" .text
      part "allowedTags" (.list .text))
    part "staleRequestSupport" (.record do
      let _ ← required "cancel" .truth
      let _ ← required "retryOnContentModified" (.list .text))
    part "positionEncodings" (.list .text)

/-- What the editor is able to do. -/
def form : Form Unit :=
  .record do
    part "workspace" workspace
    part "textDocument" document
    part "window" window
    part "general" general
    part "experimental" .any

end Abilities

end LintBridge
