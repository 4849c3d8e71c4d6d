import MarkupText.Escape
import MarkupText.Reference.Table
import MarkupText.Search
import MarkupText.Utf8

/-!
# Character references

A character by its number, `&#` with one to seven decimal digits or `&#x` with any number of
hexadecimal digits, or by its name, `&` with a name from the table; and a semicolon. `resolve` takes
markup to the text it stands for: backslash escapes, numeric references and named references, in
this order, each pass over the result of the one before it.
-/

set_option autoImplicit false

namespace MarkupText.Reference

/-- The longest run of bytes of a class at the front of a text, provided that there is at least
one and that a semicolon stands behind the last. -/
def terminatedRun? (accepts : Byte → Bool) (text : Bytes) : Option Bytes :=
  let run := text.takeWhile accepts
  if run.isEmpty then none
  else if (text.drop run.length).head? = some Byte.semicolon then some run
  else none

end MarkupText.Reference

/-! ### References by number -/

namespace MarkupText.Reference.Numeric

/-- The largest number that is kept while digits are read; every larger one names no character
either. -/
def cap : Nat := 0xFFFFFFFF

/-- The number that digits spell, or the cap if they spell a larger one. The number at hand never
grows beyond a word, whatever the count of digits. -/
def number (radix : Nat) (digits : Bytes) : Nat :=
  digits.foldl (fun value digit => min cap (value * radix + digit.digitValue)) 0

/-- The most digits that a decimal reference may have. -/
def maxDecimalDigits : Nat := 7

/-- Reads the part of a reference behind `&#`: the character and the number of bytes read. -/
def digits? (text : Bytes) : Option (Char × Nat) :=
  match text with
  | [] => none
  | mark :: rest =>
    if mark = 0x78 ∨ mark = 0x58 then do
      let digits ← terminatedRun? Byte.isHexDigit rest
      return (Utf8.characterOf (number 16 digits), digits.length + 2)
    else do
      let digits ← terminatedRun? Byte.isDigit text
      if digits.length ≤ maxDecimalDigits then
        return (Utf8.characterOf (number 10 digits), digits.length + 1)
      else none

/-- Reads a reference at the front of the text `b :: rest`: the character and the number of bytes
behind `b` that belong to it. -/
def match? (b : Byte) (rest : Bytes) : Option (Char × Nat) :=
  match rest with
  | [] => none
  | sign :: text =>
    if b = Byte.ampersand ∧ sign = Byte.hash then
      (digits? text).map fun (c, size) => (c, size + 1)
    else none

/-- Puts the character in the place of a reference. -/
def rule : Rule := fun b rest =>
  match match? b rest with
  | some (c, more) => .replace more (Utf8.encode c)
  | none => .keep 0

/-- A text with its numeric references resolved. -/
def resolve (text : Bytes) : Buffer := rule.replaceAll text

end MarkupText.Reference.Numeric

/-!
### References by name

Names are told apart byte for byte, so a name in another case is another name.
-/

namespace MarkupText.Reference.Names

/-- A name and the text that it stands for. -/
structure Entry where
  name : Bytes
  characters : Bytes
  deriving DecidableEq, Repr

/-- The entry that a row of the table describes. -/
def Entry.ofRow (row : Row) : Entry where
  name := utf8 row.1
  characters := Utf8.encodeAll (row.2.map Char.ofNat)

/-- The entries in the order of their names. -/
def entries : Array Entry := (rows.map Entry.ofRow).toArray

/-- The text that a name stands for, the name given without ampersand and semicolon. -/
def lookup? (name : Bytes) : Option Bytes :=
  (search entries fun entry => compare entry.name name).map Entry.characters

end MarkupText.Reference.Names

namespace MarkupText.Reference.Named

/-- Reads a reference at the front of the text `b :: rest`: the text that it stands for and the
number of bytes behind `b` that belong to it. -/
def match? (b : Byte) (rest : Bytes) : Option (Bytes × Nat) :=
  if b = Byte.ampersand then do
    let name ← terminatedRun? Byte.isAlphanumeric rest
    let characters ← Names.lookup? name
    return (characters, name.length + 1)
  else none

/-- Puts the text that it stands for in the place of a reference. -/
def rule : Rule := fun b rest =>
  match match? b rest with
  | some (characters, more) => .replace more characters
  | none => .keep 0

/-- A text with its named references resolved. -/
def resolve (text : Bytes) : Buffer := rule.replaceAll text

end MarkupText.Reference.Named

/-! ### From markup to the text it stands for -/

namespace MarkupText.Reference

/-- The text that a piece of markup stands for. -/
def resolve (text : Bytes) : Buffer :=
  ((Backslash.unescape text).andThen Numeric.resolve).andThen Named.resolve

end MarkupText.Reference
