import LintBridge.DomainName.Composed
import LintBridge.DomainName.Direction
import LintBridge.DomainName.Joining
import LintBridge.DomainName.Mark
import LintBridge.DomainName.Punycode
import LintBridge.DomainName.Replaced

/-!
# Reading domain names

A domain name consists of labels with dots between them. In normal form it is ASCII: its characters
are replaced and composed first, and then each label with other characters is written in Punycode,
after a prefix that marks such labels. A label that has the prefix already must be the normal form
of what it encodes. Which ASCII characters a name can hold is not decided here, and labels may be
empty.

## Main definitions

* `DomainName.Label` — a label with its normal form.
* `DomainName.read?` — the normal form of a name.
-/

namespace LintBridge

namespace DomainName

/-- A label of a name. -/
structure Label where
  /-- Its characters. -/
  text : List Char
  /-- Its normal form, in ASCII. -/
  written : List Char
  deriving DecidableEq, Repr

/-- The prefix of labels in Punycode. -/
def codePrefix : List Char := "xn--".toList

/-- The number of characters that a label beyond ASCII may have. -/
def labelLimit : Nat := 1000

/-- The number of characters that the code of a label may have. -/
def codeLimit : Nat := 2000

namespace Label

/-- The label that a code denotes. It is not ASCII, in composed form, and has not the prefix. -/
def ofCode? (code : List Char) : Option Label := do
  if codeLimit < code.length then none
  else
    let text ← Punycode.decode? code
    if text.all Punycode.isBasic ∨ composed text ≠ text ∨ codePrefix.isPrefixOf text then none
    else some ⟨text, codePrefix ++ code⟩

/-- The label that a text denotes. -/
def ofText? (text : List Char) : Option Label :=
  if codePrefix.isPrefixOf text then ofCode? (text.drop codePrefix.length)
  else if text.all Punycode.isBasic then some ⟨text, text⟩
  else if labelLimit < text.length then none
  else some ⟨text, codePrefix ++ Punycode.encode text⟩

/-- Whether a label holds only characters that labels can hold, where they can stand. -/
def isSound (l : Label) : Bool :=
  l.text.all isAllowed && !l.text.head?.any isMark && isJoinedWell l.text

end Label

/-- The normal form of a name; none for a text that is not the name of a domain. -/
def read? (cs : List Char) : Option (List Char) := do
  let texts ← cs.mapM replace?
  let labels ← (Text.splitAll '.' (composed texts.flatten)).mapM Label.ofText?
  let isTurned := labels.any fun l => l.text.any turns
  if labels.all Label.isSound ∧ (isTurned → labels.all fun l => isOneWay l.text) then
    some (['.'].intercalate (labels.map Label.written))
  else none

end DomainName

end LintBridge
