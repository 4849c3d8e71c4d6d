import MarkupText.Buffer.Basic
import MarkupText.Utf8

/-!
# Buffers shown to a reader

The content of a buffer between quotes, with what cannot be shown escaped, and the kind of buffer
in front of it.
-/

set_option autoImplicit false

namespace MarkupText.Buffer

/-- A byte by its number. -/
def shownByte (b : Byte) : Bytes := utf8 "\\x" ++ Byte.hexPair Byte.lowerHex b

/-- A character as it stands between quotes. -/
def shownCharacter (c : Char) : Bytes :=
  match c with
  | '\x00' => utf8 "\\0"
  | '\t' => utf8 "\\t"
  | '\r' => utf8 "\\r"
  | '\n' => utf8 "\\n"
  | '\'' => utf8 "\\'"
  | '"' => utf8 "\\\""
  | '\\' => utf8 "\\\\"
  | c =>
    if c.toNat < 0x20 ∨ c.toNat = 0x7F then shownByte c.toNat.toUInt8 else Utf8.encode c

/-- A text as it stands between quotes: character by character, and byte by byte where it is
broken. -/
def shownText : Bytes → Bytes
  | [] => []
  | b :: rest =>
    match Utf8.front b rest with
    | .character c size => shownCharacter c ++ shownText (rest.drop (size - 1))
    | .broken size =>
      (b :: rest.take (size - 1)).flatMap shownByte ++ shownText (rest.drop (size - 1))
  termination_by text => text.length

/-- A buffer as it is shown. -/
def shown (buffer : Buffer) : Bytes :=
  let kind := if buffer.isCopied then utf8 "Owned" else utf8 "Borrowed"
  kind ++ utf8 "(\"" ++ shownText buffer.bytes ++ utf8 "\")"

end MarkupText.Buffer
