/-!
# Bytes

Text is handled as the bytes it is stored in, whether or not they are well-formed UTF-8. Here are
the byte strings, the bytes that markup gives a meaning, the ASCII classes that the scanners test,
and the length that a lead byte announces for its sequence.
-/

set_option autoImplicit false

namespace MarkupText

/-- One unit of stored text. -/
abbrev Byte := UInt8

/-- A stored text, well-formed or not. -/
abbrev Bytes := List Byte

/-- The stored form of a text. -/
def utf8 (text : String) : Bytes := text.toByteArray.data.toList

namespace Byte

/-! ### Bytes with a meaning in markup -/

abbrev nul : Byte := 0x00
abbrev tab : Byte := 0x09
abbrev lineFeed : Byte := 0x0A
abbrev verticalTab : Byte := 0x0B
abbrev formFeed : Byte := 0x0C
abbrev carriageReturn : Byte := 0x0D
abbrev space : Byte := 0x20
abbrev quote : Byte := 0x22
abbrev hash : Byte := 0x23
abbrev percent : Byte := 0x25
abbrev ampersand : Byte := 0x26
abbrev hyphen : Byte := 0x2D
abbrev dot : Byte := 0x2E
abbrev colon : Byte := 0x3A
abbrev semicolon : Byte := 0x3B
abbrev less : Byte := 0x3C
abbrev greater : Byte := 0x3E
abbrev atSign : Byte := 0x40
abbrev backslash : Byte := 0x5C

/-! ### Classes -/

/-- The closed range of bytes from `first` to `last`. -/
def within (first last b : Byte) : Bool := first ≤ b && b ≤ last

/-- ASCII as a whole. -/
def isAscii (b : Byte) : Bool := b < 0x80

/-- The capital letters of ASCII. -/
def isUpper (b : Byte) : Bool := within 0x41 0x5A b

/-- The small letters of ASCII. -/
def isLower (b : Byte) : Bool := within 0x61 0x7A b

/-- The letters of ASCII. -/
def isLetter (b : Byte) : Bool := isUpper b || isLower b

/-- The decimal digits of ASCII. -/
def isDigit (b : Byte) : Bool := within 0x30 0x39 b

/-- The hexadecimal digits, in either case. -/
def isHexDigit (b : Byte) : Bool := isDigit b || within 0x41 0x46 b || within 0x61 0x66 b

/-- The letters and digits of ASCII. -/
def isAlphanumeric (b : Byte) : Bool := isLetter b || isDigit b

/-- The printable bytes of ASCII that are neither a space nor a letter nor a digit. -/
def isPunctuation (b : Byte) : Bool :=
  within 0x21 0x2F b || within 0x3A 0x40 b || within 0x5B 0x60 b || within 0x7B 0x7E b

/-- The bytes that separate words: space, tab and the two line endings. -/
def isSpace (b : Byte) : Bool := b = space || b = tab || b = lineFeed || b = carriageReturn

/-- The marks that may stand in a URL as they are. -/
def urlMarks : Bytes := utf8 ";/?:@&=+$,-_.!~*'()#"

/-- The bytes that may stand in a URL as they are. -/
def isUrlSafe (b : Byte) : Bool := isAlphanumeric b || urlMarks.contains b

/-- The marks that may stand before the at sign of an email address. -/
def emailMarks : Bytes := utf8 "!#$%&'*+-./=?^_`\x7b|\x7d~"

/-- The bytes that may stand before the at sign of an email address. -/
def isEmailLocal (b : Byte) : Bool := isAlphanumeric b || emailMarks.contains b

/-- The bytes that continue a sequence of UTF-8 and never lead one. -/
def isContinuation (b : Byte) : Bool := within 0x80 0xBF b

/-- The number of bytes in a sequence that starts with this one, going by the lead byte alone;
`none` for a byte that cannot lead a sequence. -/
def sequenceLength? (b : Byte) : Option Nat :=
  if b ≤ 0x7F then some 1
  else if within 0xC2 0xDF b then some 2
  else if within 0xE0 0xEF b then some 3
  else if within 0xF0 0xF7 b then some 4
  else none

/-! ### Letters and digits -/

/-- The small letter of a capital one; any other byte is its own small form. -/
def toLower (b : Byte) : Byte := if isUpper b then b + 0x20 else b

/-- The value of a hexadecimal digit. -/
def digitValue (b : Byte) : Nat :=
  if isDigit b then b.toNat - 0x30
  else if isUpper b then b.toNat - 0x41 + 10
  else b.toNat - 0x61 + 10

/-- The two hexadecimal digits of a byte, the higher one first, out of a list of sixteen. -/
def hexPair (digits : Bytes) (b : Byte) : Bytes :=
  [digits.getD (b.toNat / 16) 0, digits.getD (b.toNat % 16) 0]

/-- The hexadecimal digits with capital letters. -/
def upperHex : Bytes := utf8 "0123456789ABCDEF"

/-- The hexadecimal digits with small letters. -/
def lowerHex : Bytes := utf8 "0123456789abcdef"

end Byte

end MarkupText
