import MarkupText.Fold.Table
import MarkupText.Search
import MarkupText.Space

/-!
# Case folding

Full case folding makes texts comparable that differ in case only. One character can become up to
three. Bytes that are no character are left alone. Link labels are compared by their folding.
-/

set_option autoImplicit false

namespace MarkupText.Fold

/-- The rows as an array. -/
def table : Array Row := rows.toArray

/-- What a character folds to, if that is not the character itself. -/
def folding? (c : Char) : Option (List Char) :=
  (search table fun row => compare row.1 c.toNat).map fun row => row.2.map Char.ofNat

/-- Folds the character at the front. The letters of ASCII are folded without the table, and a
byte that continues a sequence is passed at once. -/
def rule : Rule := fun b rest =>
  if b.isAscii then
    if b.isUpper then .replace 0 [b.toLower] else .keep 0
  else if b.isContinuation then .keep 0
  else match Utf8.front b rest with
    | .broken size => .keep (size - 1)
    | .character c size =>
      match folding? c with
      | none => .keep (size - 1)
      | some folded => .replace (size - 1) (Utf8.encodeAll folded)

/-- A text with every character folded. -/
def fold (text : Bytes) : Buffer := rule.replaceAll text

/-!
### One character at a time

Case folding without shortcuts: read what stands at the front, write its folding, go on behind it.
-/

/-- What a character folds to, itself included. -/
def foldChar (c : Char) : List Char := (folding? c).getD [c]

/-- A text with every character folded, and what is broken as it stands. -/
def foldPlainly : Bytes → Bytes
  | [] => []
  | b :: rest =>
    match Utf8.front b rest with
    | .character c size => Utf8.encodeAll (foldChar c) ++ foldPlainly (rest.drop (size - 1))
    | .broken size => b :: rest.take (size - 1) ++ foldPlainly (rest.drop (size - 1))
  termination_by text => text.length

end MarkupText.Fold

namespace MarkupText.Link.Label

/-!
### Link labels

Two labels name the same link if they agree up to case and white space. Each label has a key, and
labels match exactly if their keys are equal.
-/

/-- The key of a label: trimmed, case-folded, and with one space for each run of white space. -/
def key (label : Bytes) : Bytes :=
  let folded := Fold.fold (Space.trimRight (Space.trimLeft label))
  (Space.collapse Byte.space folded.bytes).bytes

end MarkupText.Link.Label
