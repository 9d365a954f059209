import LintBridge.Server.Form

/-!
# Messages

The editor and the server send each other messages: requests, which want an answer, notifications,
which want none, and the answers themselves.

## Main definitions

* `Message`, `Message.read?` — a request or a notification of the editor.
* `Fault` — why a request is refused.
* `Reply` — an answer to a request of the editor.
-/

namespace LintBridge

/-- The version of the protocol that every message names. -/
def Message.protocol : String := "2.0"

/-- What an answer names the request by. -/
inductive MessageId where
  | number (n : Int)
  | name (s : String)
  /-- The request is named by null. -/
  | blank
  deriving DecidableEq, Repr

namespace MessageId

/-- Reads an identity: a text, a whole number of 64 bits with a sign, or null. -/
def form : Form MessageId
  | .str s => some (name s)
  | .null => some blank
  | j => (Form.between Decimal.minLong Decimal.maxSigned j).map number

/-- The identity as it is sent. -/
def toJson : MessageId → Json
  | number n => .int n
  | name s => .str s
  | blank => .null

end MessageId

/-- A request or a notification of the editor. -/
structure Message where
  method : String
  params : Option Json
  /-- None for a notification. -/
  id : Option MessageId

namespace Message

/-- Reads a message. -/
def form : Form Message :=
  .record do
    let _ ← PartForm.required "jsonrpc" (.word [protocol])
    let method ← PartForm.defaulted "method" .text ""
    let params ← PartForm.defaulted "params" (fun j => some (some j)) none
    let id ← PartForm.defaulted "id" (fun j => (MessageId.form j).map some) none
    return ⟨method, params, id⟩

/-- The message that a value is. -/
def read? (j : Json) : Option Message := form j

/-- The form of an answer to a request of the server: it has a result, or a fault. -/
def answerForm : Form Unit :=
  .flatRecord do
    let _ ← PartForm.required "jsonrpc" (.word [protocol])
    let _ ← PartForm.required "id" MessageId.form
    answerContent
where
  /-- What an answer says. -/
  answerContent : PartForm Unit := fun parts =>
    (do let _ ← PartForm.required "result" .any) parts <|>
    (do
      let _ ← PartForm.required "error" (.record do
        let _ ← PartForm.required "code" (.between Decimal.minLong Decimal.maxSigned)
        let _ ← PartForm.required "message" .text
        let _ ← PartForm.nullable "data" .any)) parts

/-- Whether a value is an answer to a request of the server. -/
def isAnswer (j : Json) : Bool := (answerForm j).isSome

end Message

/-- Why a request is refused. -/
inductive Fault where
  /-- The editor has not connected yet. -/
  | notConnected
  /-- The request does not fit here. -/
  | invalidRequest
  /-- Nothing is known under the name of the method. -/
  | unknownMethod (method : String)
  /-- The method is a known one, but nothing is done for it. -/
  | unsupportedMethod
  /-- The parameters cannot be read. -/
  | invalidParams
  /-- What came is not JSON. -/
  | unreadable
  deriving DecidableEq, Repr

namespace Fault

/-- The number of a fault. -/
def code : Fault → Int
  | notConnected => -32002
  | invalidRequest => -32600
  | unknownMethod _ => -32601
  | unsupportedMethod => -32601
  | invalidParams => -32602
  | unreadable => -32700

/-- The words for a fault. What is wrong with parameters is not told. -/
def message : Fault → String
  | notConnected => "Server not initialized"
  | invalidRequest => "Invalid request"
  | unknownMethod _ => "Method not found"
  | unsupportedMethod => "Method not found"
  | invalidParams => ""
  | unreadable => "Parse error"

/-- What is sent along with a fault. -/
def data? : Fault → Option Json
  | unknownMethod method => some (.str method)
  | _ => none

/-- The fault as it is sent. -/
def toJson (f : Fault) : Json :=
  .ofFields ([("code", .int f.code), ("message", .str f.message)] ++
    (f.data?.map fun d => ("data", d)).toList)

end Fault

/-- An answer to a request. -/
structure Reply where
  id : MessageId
  /-- The result, or why there is none. -/
  content : Except Fault Json

namespace Reply

/-- The answer to something that is no message. It names no request. -/
def toNoMessage (fault : Fault) : Reply := ⟨.blank, .error fault⟩

/-- The answer as it is sent. -/
def toJson (r : Reply) : Json :=
  let content := match r.content with
    | .ok result => ("result", result)
    | .error fault => ("error", fault.toJson)
  .ofFields [("jsonrpc", .str Message.protocol), ("id", r.id.toJson), content]

end Reply

end LintBridge
