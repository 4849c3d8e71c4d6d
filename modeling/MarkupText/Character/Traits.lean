import MarkupText.Character.Width

/-!
# Classes of characters

What a line breaker has to know of a character: how wide it is, whether it is white space, and
whether a line break between two such characters vanishes instead of becoming a space.
-/

set_option autoImplicit false

namespace MarkupText.Character

/-- The scripts that put no space between words, and the punctuation that goes with them. -/
def spaceDiscarding : List Interval := [
  ⟨0x2E80, 0x2EFF⟩, ⟨0x2F00, 0x2FDF⟩, ⟨0x2FF0, 0x2FFF⟩, ⟨0x3000, 0x303F⟩, ⟨0x3040, 0x309F⟩,
  ⟨0x30A0, 0x30FF⟩, ⟨0x3130, 0x319F⟩, ⟨0x31C0, 0x31EF⟩, ⟨0x31F0, 0x31FF⟩, ⟨0x3300, 0x33FF⟩,
  ⟨0x3400, 0x4DBF⟩, ⟨0x4E00, 0x9FFF⟩, ⟨0xA000, 0xA48F⟩, ⟨0xA490, 0xA4CF⟩, ⟨0xF900, 0xFAFF⟩,
  ⟨0xFE10, 0xFE1F⟩, ⟨0xFE30, 0xFE4F⟩, ⟨0xFE50, 0xFE6F⟩, ⟨0xFF00, 0xFFEF⟩, ⟨0x1B000, 0x1B0FF⟩,
  ⟨0x1B100, 0x1B12F⟩, ⟨0x1B130, 0x1B16F⟩, ⟨0x20000, 0x2A6DF⟩, ⟨0x2A700, 0x2B73F⟩,
  ⟨0x2B740, 0x2B81F⟩, ⟨0x2B820, 0x2CEAF⟩, ⟨0x2CEB0, 0x2EBEF⟩, ⟨0x2F800, 0x2FA1F⟩,
  ⟨0x30000, 0x3134F⟩]

/-- White space, the line and paragraph separators included. -/
def whiteSpace : List Interval := [
  ⟨0x9, 0xD⟩, ⟨0x20, 0x20⟩, ⟨0x85, 0x85⟩, ⟨0xA0, 0xA0⟩, ⟨0x1680, 0x1680⟩, ⟨0x2000, 0x200A⟩,
  ⟨0x2028, 0x2029⟩, ⟨0x202F, 0x202F⟩, ⟨0x205F, 0x205F⟩, ⟨0x3000, 0x3000⟩]

/-- Whether a line break beside a character can vanish. -/
def discardsSpace (number : Nat) : Bool := within spaceDiscarding number

/-- Whether a character is white space. -/
def isSpace (number : Nat) : Bool := within whiteSpace number

/-- What is known of a character. -/
structure Traits where
  width : Width
  isWide : Bool
  discardsSpace : Bool
  isSpace : Bool
  deriving DecidableEq, Repr

/-- What is known of the character with a number, if a character has it. -/
def traits? (number : Nat) : Option Traits :=
  if number.isValidChar then
    some ⟨width number, isWide number, discardsSpace number, isSpace number⟩
  else none

/-- The numbers from `first` on, `count` of them, at which the traits differ from those given as
`before`, each with its own traits. -/
def changes (before : Option Traits) (first : Nat) : (count : Nat) → List (Nat × Option Traits)
  | 0 => []
  | count + 1 =>
    let here := traits? first
    if here = before then changes before (first + 1) count
    else (first, here) :: changes here (first + 1) count

/-- Runs of equal traits among the numbers from `first` to `last`: where each begins, and the
traits in it. -/
def runs (first last : Nat) : List (Nat × Option Traits) :=
  if last < first then []
  else (first, traits? first) :: changes (traits? first) (first + 1) (last - first)

end MarkupText.Character
