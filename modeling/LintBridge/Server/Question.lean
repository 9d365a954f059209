import LintBridge.Server.Parameters

/-!
# Questions

The editor protocol knows many requests that this server has no answer for. The parameters of such a
request are looked at nevertheless, because a request with bad ones is refused for that reason. This
file lists these requests with the forms of their parameters, and the notifications that say nothing
to this server.

## Main definitions

* `Question.table` — the requests that are known and not answered.
* `Remark.table` — the notifications that are known and not heeded.
-/

namespace LintBridge

namespace Question

open PartForm

/-! ### Parts that many requests have -/

/-- What the progress of a request is reported by. -/
def token : Form Unit := .either (.shape .text) (.shape .signed)

/-- The token for the progress of a request. -/
def progress : PartForm Unit := do
  let _ ← nullable "workDoneToken" token

/-- The tokens for the progress and for the first results of a request. -/
def progressAndResults : PartForm Unit := do
  progress
  let _ ← nullable "partialResultToken" token

/-- The document that a request is about. -/
def document : PartForm Unit := required "textDocument" (.shape .document)

/-- The place in a document that a request is about. -/
def place : PartForm Unit := do
  document
  required "position" .position

/-- A part that is a text. -/
def textual (name : String) : PartForm Unit := required name (.shape .text)

/-- A part that is a text or is missing. -/
def textualOrNone (name : String) : PartForm Unit := do
  let _ ← nullable name .text

/-- A part that is a number or is missing. -/
def signedOrNone (name : String) : PartForm Unit := do
  let _ ← nullable name .signed

/-- A part that is a truth value or is missing. -/
def truthOrNone (name : String) : PartForm Unit := do
  let _ ← nullable name .truth

/-- A part that is some value or is missing. -/
def anyOrNone (name : String) : PartForm Unit := do
  let _ ← nullable name .any

/-! ### Values -/

/-- A stretch of a document. -/
def location : Form Unit :=
  .record do
    required "uri" (.shape .uri)
    required "range" .range

/-- Something that the editor can be asked to do. -/
def command : Form Unit :=
  .record do
    textual "title"
    textual "command"
    let _ ← nullable "arguments" (.list .any)

/-- A text with or without markup. -/
def markup : Form Unit :=
  .either (.shape .text) (.record do
    let _ ← required "kind" Abilities.markupKind
    textual "value")

/-- The replacement of a stretch of a text. -/
def edit : Form Unit :=
  .record do
    required "range" .range
    textual "newText"

/-- The insertion or the replacement of a stretch of a text. -/
def insertion : Form Unit :=
  .record do
    textual "newText"
    required "insert" .range
    required "replace" .range

/-- What may be told of a stretch of a text. -/
def diagnostic : Form Unit :=
  .record do
    required "range" .range
    signedOrNone "severity"
    let _ ← nullable "code" token
    let _ ← nullable "codeDescription" (.record (required "href" (.shape .uri)))
    textualOrNone "source"
    textual "message"
    let _ ← nullable "relatedInformation" (.list (.record do
      required "location" location
      textual "message"))
    let _ ← nullable "tags" (.list .signed)
    anyOrNone "data"

/-- A wish about the layout that only some editors have. -/
def layoutWish : Form Unit := .either (.shape .truth) token

/-- How a document is to be laid out. -/
def layout : Form Unit :=
  .flatRecord do
    let _ ← required "tabSize" .unsigned
    let _ ← required "insertSpaces" .truth
    truthOrNone "trimTrailingWhitespace"
    truthOrNone "insertFinalNewline"
    truthOrNone "trimFinalNewlines"
    others ["tabSize", "insertSpaces", "trimTrailingWhitespace", "insertFinalNewline",
      "trimFinalNewlines"] layoutWish

/-- Something that calls or is called, or a type above or below others. -/
def hierarchyItem (tags : Form Unit) : Form Unit :=
  .record do
    textual "name"
    let _ ← required "kind" .signed
    let _ ← nullable "tags" tags
    textualOrNone "detail"
    required "uri" (.shape .uri)
    required "range" .range
    required "selectionRange" .range
    anyOrNone "data"

/-- A color, by the strength of its parts. -/
def color : Form Unit :=
  .record do
    for part in ["red", "green", "blue", "alpha"] do
      required part .number

/-! ### Changes to files -/

/-- Something that is made, renamed or deleted, with what is to be done if something stands in the
way. -/
def fileChange (names wishes : List String) : PartForm Unit := do
  for name in names do
    required name (.shape .uri)
  let _ ← nullable "options" (.record do
    for wish in wishes do
      truthOrNone wish)
  textualOrNone "annotationId"

/-- A file is made. -/
def creation : Form Unit := .record (fileChange ["uri"] ["overwrite", "ignoreIfExists"])

/-- A file gets another name. -/
def newName : Form Unit :=
  .record (fileChange ["oldUri", "newUri"] ["overwrite", "ignoreIfExists"])

/-- A file is deleted. -/
def deletion : Form Unit :=
  .record do
    required "uri" (.shape .uri)
    let _ ← nullable "options" (.record do
      truthOrNone "recursive"
      truthOrNone "ignoreIfNotExists"
      textualOrNone "annotationId")

/-- A change to a whole file. -/
def fileOperation : Form Unit :=
  .tagged "kind" [("create", creation), ("rename", newName), ("delete", deletion)]

/-- Changes to the text of a document. -/
def documentEdit : Form Unit :=
  .record do
    required "textDocument" (.record do
      required "uri" (.shape .uri)
      signedOrNone "version")
    let _ ← required "edits" (.list edit)

/-- What is said of a change. -/
def annotation : Form Unit :=
  .record do
    textual "label"
    truthOrNone "needsConfirmation"
    textualOrNone "description"

/-- Changes to the files of the workspace. -/
def workspaceEdit : Form Unit :=
  .record do
    let _ ← omissible "changes" (.dictionary .uri (.list edit))
    let _ ← nullable "documentChanges" (.list (.either fileOperation documentEdit))
    let _ ← nullable "changeAnnotations" (.dictionary .text annotation)

/-! ### Calls and remarks -/

/-- A parameter of something that is called. Its label may be a stretch of that of the call. -/
def parameter : Form Unit :=
  .record do
    required "label" (.either (.shape .text) stretch)
    let _ ← nullable "documentation" markup
where
  /-- Two places in a label. -/
  stretch : Form Unit
    | .arr [first, last] => do
      let _ ← Form.unsigned first
      let _ ← Form.unsigned last
    | _ => none

/-- How something is called. -/
def signature : Form Unit :=
  .record do
    textual "label"
    let _ ← nullable "documentation" markup
    let _ ← nullable "parameters" (.list parameter)
    let _ ← nullable "activeParameter" .unsigned

/-- What is shown of a call that is being written. -/
def signatureHelp : Form Unit :=
  .record do
    let _ ← required "signatures" (.list signature)
    let _ ← nullable "activeSignature" .unsigned
    let _ ← nullable "activeParameter" .unsigned

/-- A part of a remark that is shown within a line. -/
def hintPart : Form Unit :=
  .record do
    textual "value"
    let _ ← nullable "tooltip" markup
    let _ ← nullable "location" location
    let _ ← nullable "command" command

/-! ### Parameters of requests -/

/-- The parameters of a request about a place. -/
def atPlace (others : PartForm Unit) : Form Unit := .flatRecord do place; others

/-- The parameters of a request about a document. -/
def inDocument (others : PartForm Unit) : Form Unit := .flatRecord do document; others

/-- The parameters of a request about an item that another request has given. -/
def ofItem (item : Form Unit) : Form Unit :=
  .flatRecord do
    required "item" item
    progressAndResults

/-- A proposal of how to go on. -/
def completion : Form Unit :=
  .record do
    textual "label"
    let _ ← nullable "labelDetails" (.record do
      textualOrNone "detail"
      textualOrNone "description")
    signedOrNone "kind"
    textualOrNone "detail"
    let _ ← nullable "documentation" markup
    truthOrNone "deprecated"
    truthOrNone "preselect"
    textualOrNone "sortText"
    textualOrNone "filterText"
    textualOrNone "insertText"
    signedOrNone "insertTextFormat"
    signedOrNone "insertTextMode"
    let _ ← nullable "textEdit" (.either edit insertion)
    let _ ← nullable "additionalTextEdits" (.list edit)
    let _ ← nullable "command" command
    let _ ← nullable "commitCharacters" (.list .text)
    anyOrNone "data"
    let _ ← nullable "tags" (.list .signed)

/-- An action that mends something. -/
def action : Form Unit :=
  .record do
    textual "title"
    textualOrNone "kind"
    let _ ← nullable "diagnostics" (.list diagnostic)
    let _ ← nullable "edit" workspaceEdit
    let _ ← nullable "command" command
    truthOrNone "isPreferred"
    let _ ← nullable "disabled" (.record (textual "reason"))
    anyOrNone "data"

/-- A command that stands above a line. -/
def lens : Form Unit :=
  .record do
    required "range" .range
    let _ ← nullable "command" command
    anyOrNone "data"

/-- A stretch of a text that leads elsewhere. -/
def link : Form Unit :=
  .record do
    required "range" .range
    let _ ← nullable "target" .uri
    textualOrNone "tooltip"
    anyOrNone "data"

/-- A remark that is shown within a line. -/
def hint : Form Unit :=
  .record do
    required "position" .position
    required "label" (.either (.shape .text) (.shape (.list hintPart)))
    signedOrNone "kind"
    let _ ← nullable "textEdits" (.list edit)
    let _ ← nullable "tooltip" markup
    truthOrNone "paddingLeft"
    truthOrNone "paddingRight"
    anyOrNone "data"

/-- A name in the workspace. -/
def workspaceSymbol : Form Unit :=
  .record do
    textual "name"
    let _ ← required "kind" .signed
    let _ ← nullable "tags" (.list .signed)
    textualOrNone "containerName"
    required "location" (.either location (.shape .document))
    anyOrNone "data"

/-- Files of the workspace, by the parts that name each. -/
def files (names : List String) : Form Unit :=
  .record do
    let _ ← required "files" (.list (.record do
      for name in names do
        textual name))

/-- The requests about a place in a document. -/
def placeTable : List (String × Form Unit) :=
  [("textDocument/declaration", atPlace progressAndResults),
    ("textDocument/definition", atPlace progressAndResults),
    ("textDocument/typeDefinition", atPlace progressAndResults),
    ("textDocument/implementation", atPlace progressAndResults),
    ("textDocument/references", atPlace do
      progressAndResults
      let _ ← required "context" (.record (required "includeDeclaration" .truth))),
    ("textDocument/prepareCallHierarchy", atPlace progress),
    ("textDocument/prepareTypeHierarchy", atPlace progress),
    ("textDocument/documentHighlight", atPlace progressAndResults),
    ("textDocument/hover", atPlace progress),
    ("textDocument/moniker", atPlace progressAndResults),
    ("textDocument/completion", atPlace do
      progressAndResults
      let _ ← nullable "context" (.record do
        let _ ← required "triggerKind" .signed
        textualOrNone "triggerCharacter")),
    ("textDocument/signatureHelp", atPlace do
      progress
      let _ ← nullable "context" (.record do
        let _ ← required "triggerKind" .signed
        textualOrNone "triggerCharacter"
        let _ ← required "isRetrigger" .truth
        let _ ← nullable "activeSignatureHelp" signatureHelp)),
    ("textDocument/onTypeFormatting", atPlace do
      textual "ch"
      required "options" layout),
    ("textDocument/rename", atPlace do
      progress
      textual "newName"),
    ("textDocument/prepareRename", .record place),
    ("textDocument/linkedEditingRange", atPlace progress)]

/-- The requests about a document. -/
def documentTable : List (String × Form Unit) :=
  [("textDocument/documentLink", inDocument progressAndResults),
    ("textDocument/codeLens", inDocument progressAndResults),
    ("textDocument/foldingRange", inDocument progressAndResults),
    ("textDocument/selectionRange", inDocument do
      progressAndResults
      let _ ← required "positions" (.list .position)),
    ("textDocument/documentSymbol", inDocument progressAndResults),
    ("textDocument/semanticTokens/full", inDocument progressAndResults),
    ("textDocument/semanticTokens/full/delta", inDocument do
      progressAndResults
      textual "previousResultId"),
    ("textDocument/semanticTokens/range", inDocument do
      progressAndResults
      required "range" .range),
    ("textDocument/inlineValue", inDocument do
      progress
      required "range" .range
      required "context" (.record do
        let _ ← required "frameId" .signed
        required "stoppedLocation" .range)),
    ("textDocument/inlayHint", inDocument do
      progress
      required "range" .range),
    ("textDocument/diagnostic", inDocument do
      progressAndResults
      textualOrNone "identifier"
      textualOrNone "previousResultId"),
    ("textDocument/codeAction", inDocument do
      progressAndResults
      required "range" .range
      required "context" (.record do
        let _ ← required "diagnostics" (.list diagnostic)
        let _ ← nullable "only" (.list .text)
        signedOrNone "triggerKind")),
    ("textDocument/documentColor", inDocument progressAndResults),
    ("textDocument/colorPresentation", inDocument do
      progressAndResults
      required "color" color
      required "range" .range),
    ("textDocument/formatting", inDocument do
      progress
      required "options" layout),
    ("textDocument/rangeFormatting", inDocument do
      progress
      required "range" .range
      required "options" layout),
    ("textDocument/willSaveWaitUntil", .record do
      document
      let _ ← required "reason" .signed)]

/-- The requests about what other requests have given. -/
def itemTable : List (String × Form Unit) :=
  [("callHierarchy/incomingCalls", ofItem (hierarchyItem (.shape (.list .signed)))),
    ("callHierarchy/outgoingCalls", ofItem (hierarchyItem (.shape (.list .signed)))),
    ("typeHierarchy/supertypes", ofItem (hierarchyItem (.shape .signed))),
    ("typeHierarchy/subtypes", ofItem (hierarchyItem (.shape .signed))),
    ("documentLink/resolve", link),
    ("codeLens/resolve", lens),
    ("inlayHint/resolve", hint),
    ("completionItem/resolve", completion),
    ("codeAction/resolve", action),
    ("workspaceSymbol/resolve", workspaceSymbol)]

/-- The requests about the workspace. -/
def workspaceTable : List (String × Form Unit) :=
  [("workspace/diagnostic", .flatRecord do
      progressAndResults
      textualOrNone "identifier"
      let _ ← required "previousResultIds" (.list (.record do
        required "uri" (.shape .uri)
        textual "value"))),
    ("workspace/symbol", .flatRecord do
      progressAndResults
      textual "query"),
    ("workspace/willCreateFiles", files ["uri"]),
    ("workspace/willRenameFiles", files ["oldUri", "newUri"]),
    ("workspace/willDeleteFiles", files ["uri"]),
    ("workspace/executeCommand", .flatRecord do
      progress
      textual "command"
      let _ ← defaulted "arguments" (.list .any) [])]

/-- The requests that are known and not answered, with the forms of their parameters. -/
def table : List (String × Form Unit) :=
  placeTable ++ documentTable ++ itemTable ++ workspaceTable

end Question

namespace Remark

/-- The notifications that are known and not heeded. -/
def table : List String :=
  ["textDocument/willSave", "workspace/didCreateFiles", "workspace/didRenameFiles",
    "workspace/didDeleteFiles", "workspace/didChangeWatchedFiles"]

end Remark

end LintBridge
