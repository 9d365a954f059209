/-!
# Cutting a text at a separator

## Main definitions

* `Text.cutFirst` — the parts before and after the first occurrence of a separator.
* `Text.cutLast` — the parts before and after the last occurrence of a single item.
* `Text.splitAll` — all the parts between the occurrences of a single item.
-/

namespace LintBridge

namespace Text

variable {α : Type} [DecidableEq α]

/-- The parts before and after the first occurrence of `sep`, or `none` if there is none. -/
def cutFirst (sep : List α) : List α → Option (List α × List α)
  | [] => if sep = [] then some ([], []) else none
  | c :: cs =>
    if sep.isPrefixOf (c :: cs) then some ([], (c :: cs).drop sep.length)
    else (cutFirst sep cs).map fun (before, after) => (c :: before, after)

/-- The parts before and after the last occurrence of `sep`, or `none` if there is none. -/
def cutLast (sep : α) : List α → Option (List α × List α)
  | [] => none
  | c :: cs =>
    match cutLast sep cs with
    | some (before, after) => some (c :: before, after)
    | none => if c = sep then some ([], cs) else none

/-- The parts between the occurrences of `sep`, empty ones included; there is always one. -/
def splitAll (sep : α) : List α → List (List α)
  | [] => [[]]
  | c :: cs =>
    if c = sep then [] :: splitAll sep cs
    else
      match splitAll sep cs with
      | [] => [[c]]
      | part :: parts => (c :: part) :: parts

end Text

end LintBridge
