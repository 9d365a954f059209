import LintBridge.DomainName.Composite
import LintBridge.DomainName.MarkOrder

/-!
# Texts in composed form

Texts that mean the same because they differ only in how letters with marks are written have one
composed form. It is found by taking all characters apart, ordering the marks, and putting together
what can be put together: a mark joins the last letter before it unless a mark of the same class or
a greater one stands between them.

## Main definitions

* `expanded` — a text with all characters taken apart.
* `joined` — an expanded text with its characters put together.
* `composed` — the composed form of a text.
-/

namespace LintBridge

namespace DomainName

/-- A character taken apart; its first part is taken apart again as often as `steps` says. -/
def expandChar : (steps : Nat) → Char → List Char
  | 0, c => [c]
  | steps + 1, c =>
    match parts? c with
    | some (a, b) => expandChar steps a ++ [b]
    | none => [c]

/-- How often the first part of a character can be taken apart; no character needs more. -/
def expandSteps : Nat := 3

/-- A text with all characters taken apart. -/
def expanded (cs : List Char) : List Char := orderMarks (cs.flatMap (expandChar expandSteps))

/-- The text that a letter, the marks behind it that it has not taken up, and the characters after
those give together. -/
def joinAfter (letter : Char) (marks : List Char) : List Char → List Char
  | [] => letter :: marks
  | c :: cs =>
    let isFree : Bool := match marks.getLast? with
      | some mark => markClass mark < markClass c
      | none => true
    match if isFree then composite? letter c else none with
    | some whole => joinAfter whole marks cs
    | none =>
      if markClass c = 0 then letter :: marks ++ joinAfter c [] cs
      else joinAfter letter (marks ++ [c]) cs

/-- A text with its characters put together. Marks at the head stay as they are. -/
def joined : List Char → List Char
  | [] => []
  | c :: cs => if markClass c = 0 then joinAfter c [] cs else c :: joined cs

/-- The composed form of a text. -/
def composed (cs : List Char) : List Char := joined (expanded cs)

end DomainName

end LintBridge
