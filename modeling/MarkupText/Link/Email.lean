import MarkupText.Byte

/-!
# Email addresses in running text

A local part, an at sign, and labels with dots between them. A label holds letters, digits and
hyphens, and a hyphen neither begins nor ends it.
-/

set_option autoImplicit false

namespace MarkupText.Link

/-- The most bytes in a label. -/
def maxLabelSize : Nat := 63

/-- The bytes that may stand inside a label. -/
def isLabelByte (b : Byte) : Bool := b.isAlphanumeric || b = Byte.hyphen

/-- The label at the front of a text, if one stands there: as many bytes as a label can have, less
the hyphens at the end of them. -/
def label? (text : Bytes) : Option Bytes :=
  if text.head?.any Byte.isAlphanumeric then
    let run := (text.take maxLabelSize).takeWhile isLabelByte
    some (run.reverse.dropWhile fun b => !b.isAlphanumeric).reverse
  else none

/-- The number of bytes in the labels at the front of a text, each with a dot before it. A dot
without a label behind it does not count. -/
def furtherLabelsSize (text : Bytes) : Nat :=
  match text with
  | [] => 0
  | b :: rest =>
    if b = Byte.dot then
      match label? rest with
      | some label => 1 + label.length + furtherLabelsSize (rest.drop label.length)
      | none => 0
    else 0
  termination_by text.length

/-- The number of bytes in the email address at the front of a text, if one stands there. -/
def emailSize? (text : Bytes) : Option Nat :=
  let localPart := text.takeWhile Byte.isEmailLocal
  match text.drop localPart.length with
  | [] => none
  | b :: domain =>
    if localPart.isEmpty ∨ b ≠ Byte.atSign then none
    else do
      let label ← label? domain
      let further := furtherLabelsSize (domain.drop label.length)
      return localPart.length + 1 + label.length + further

/-! ### The grammar, apart from how a link is found -/

/-- A label of a domain: one to sixty-three letters, digits and hyphens, no hyphen at either end. -/
structure IsDomainLabel (label : Bytes) : Prop where
  bytes : ∀ b ∈ label, b.isAlphanumeric ∨ b = Byte.hyphen
  first : ∃ b ∈ label.head?, b.isAlphanumeric
  last : ∃ b ∈ label.getLast?, b.isAlphanumeric
  size : label.length ≤ 63

/-- Labels with a dot before each. -/
inductive AreFurtherLabels : Bytes → Prop
  | nil : AreFurtherLabels []
  | cons {label rest : Bytes} :
      IsDomainLabel label → AreFurtherLabels rest →
      AreFurtherLabels (Byte.dot :: label ++ rest)

/-- An email address: a local part, an at sign, and a domain of one or more labels. -/
def IsEmail (text : Bytes) : Prop :=
  ∃ localPart label further, text = localPart ++ Byte.atSign :: label ++ further ∧
    localPart ≠ [] ∧ (∀ b ∈ localPart, b.isEmailLocal) ∧ IsDomainLabel label ∧
    AreFurtherLabels further

end MarkupText.Link
