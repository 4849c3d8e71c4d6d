import MarkupText.Replacement.Basic

/-!
# Escapes for HTML and in markup

Four bytes have a meaning of their own in HTML, and `Html.escape` writes them as named references.
In markup a backslash before ASCII punctuation takes away its meaning. Before anything else, and at
the end of a text, a backslash stands for itself.
-/

set_option autoImplicit false

namespace MarkupText.Html

/-- The reference that has to stand in HTML for a byte, if the byte cannot stand there itself. -/
def reference? (b : Byte) : Option Bytes :=
  if b = Byte.quote then some (utf8 "&quot;")
  else if b = Byte.ampersand then some (utf8 "&amp;")
  else if b = Byte.less then some (utf8 "&lt;")
  else if b = Byte.greater then some (utf8 "&gt;")
  else none

/-- Puts its reference in the place of a byte that has one. -/
def rule : Rule := fun b _ =>
  match reference? b with
  | some reference => .replace 0 reference
  | none => .keep 0

/-- A text as it has to be written in HTML. -/
def escape (text : Bytes) : Buffer := rule.replaceAll text

end MarkupText.Html

namespace MarkupText.Backslash

/-- Whether the byte at `index` is a backslash with punctuation behind it. -/
def isEscape (text : Bytes) (index : Nat) : Bool :=
  text[index]? == some Byte.backslash && text[index + 1]?.any Byte.isPunctuation

/-- Puts the punctuation alone in the place of a backslash and the punctuation behind it. -/
def rule : Rule := fun b rest =>
  match rest with
  | [] => .keep 0
  | next :: _ =>
    if b = Byte.backslash ∧ next.isPunctuation then .replace 1 [next] else .keep 0

/-- A text without the backslashes that escape something. They pair off from the left, so the
second of two backslashes is escaped by the first and escapes nothing. -/
def unescape (text : Bytes) : Buffer := rule.replaceAll text

/-!
### Which backslashes escape

Of a run of backslashes every second one is escaped by the one before it. So a backslash that
could escape something does so exactly if the number of backslashes right before it is even.
-/

/-- The number of backslashes right before an index. -/
def before (text : Bytes) (index : Nat) : Nat :=
  ((text.take index).reverse.takeWhile (· = Byte.backslash)).length

/-- Whether the byte at an index is a backslash that escapes the byte behind it. -/
def escapes (text : Bytes) (index : Nat) : Bool := isEscape text index && before text index % 2 = 0

/-- A text without the bytes at the indices that `drops` picks out. -/
def without (drops : Nat → Bool) (text : Bytes) : Bytes :=
  (text.zipIdx.filter fun (_, index) => !drops index).map Prod.fst

/-- A text with a backslash put before the bytes at the indices that `picks` picks out, of which
the first has the number `index`. -/
def escapeFrom (picks : Nat → Bool) (index : Nat) : Bytes → Bytes
  | [] => []
  | b :: rest =>
    if picks index then Byte.backslash :: b :: escapeFrom picks (index + 1) rest
    else b :: escapeFrom picks (index + 1) rest

end MarkupText.Backslash
