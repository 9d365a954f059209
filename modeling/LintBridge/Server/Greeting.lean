import LintBridge.Json.Basic

/-!
# What the server tells of itself

## Main definitions

* `Server.name`, `Server.version` — how the server is called.
* `Server.greeting` — the answer to the first request of an editor.
-/

namespace LintBridge

namespace Server

/-- The name of the server. -/
def name : String := "protolens"

/-- The version of the server. -/
def version : String := "0.1.0"

/-- The editor is asked to send the whole text with every change. -/
def fullSync : Nat := 1

/-- What the editor is asked to tell, and who asks. -/
def greeting : Json :=
  .ofFields
    [("capabilities", .ofFields
      [("textDocumentSync", .ofFields
        [("openClose", .bool true), ("change", .ofNat fullSync),
          ("save", .ofFields [("includeText", .bool true)])]),
        ("workspace", .ofFields
          [("workspaceFolders", .ofFields
            [("supported", .bool true), ("changeNotifications", .bool true)])])]),
      ("serverInfo", .ofFields [("name", .str name), ("version", .str version)])]

end Server

end LintBridge
