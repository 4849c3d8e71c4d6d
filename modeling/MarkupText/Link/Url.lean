import MarkupText.Byte

/-!
# URLs in running text

A scheme, a colon, and all that follows up to white space, a control byte or an angle bracket.
-/

set_option autoImplicit false

namespace MarkupText.Link

/-- The fewest bytes in a scheme. -/
def minSchemeSize : Nat := 2

/-- The most bytes in a scheme. -/
def maxSchemeSize : Nat := 32

/-- The bytes that may follow the first one in a scheme. -/
def isSchemeByte (b : Byte) : Bool := b.isAlphanumeric || (utf8 "+-.").contains b

/-- The bytes that may follow the colon. -/
def isUrlRest (b : Byte) : Bool := Byte.space < b && b ≠ Byte.less && b ≠ Byte.greater

/-- The number of bytes in the URL at the front of a text, if one stands there. -/
def urlSize? (text : Bytes) : Option Nat :=
  match text with
  | [] => none
  | b :: rest =>
    if b.isLetter then
      let scheme := rest.takeWhile isSchemeByte
      let size := scheme.length + 1
      match rest.drop scheme.length with
      | [] => none
      | next :: path =>
        if minSchemeSize ≤ size ∧ size ≤ maxSchemeSize ∧ next = Byte.colon then
          some (size + 1 + (path.takeWhile isUrlRest).length)
        else none
    else none

/-! ### The grammar, apart from how a link is found -/

/-- A scheme: a letter, and one to thirty-one letters, digits, full stops, plus and minus signs. -/
structure IsScheme (scheme : Bytes) : Prop where
  letter : ∃ b ∈ scheme.head?, b.isLetter
  rest : ∀ b ∈ scheme.tail, b.isAlphanumeric ∨ b ∈ utf8 ".+-"
  size : 2 ≤ scheme.length ∧ scheme.length ≤ 32

/-- A URL: a scheme, a colon, and bytes above the space, none of which is an angle bracket. -/
def IsUrl (text : Bytes) : Prop :=
  ∃ scheme rest, text = scheme ++ Byte.colon :: rest ∧ IsScheme scheme ∧
    ∀ b ∈ rest, Byte.space < b ∧ b ≠ Byte.less ∧ b ≠ Byte.greater

end MarkupText.Link
