import MarkupText.Reference.Basic

/-!
# Percent-escaping of URLs

Bytes that may stand in a URL and escapes that are already there stay. Anything else that can lead
a sequence of UTF-8 is escaped together with the rest of its sequence. A byte that cannot lead a
sequence is left as it is and reported.
-/

set_option autoImplicit false

namespace MarkupText.Percent

/-- The bytes that need no escape in any part of a URL. -/
def isUnreserved (b : Byte) : Bool := b.isAlphanumeric || (utf8 "-_.~").contains b

/-- A percent sign and two hexadecimal digits. -/
def octet (b : Byte) : Bytes := Byte.percent :: Byte.hexPair Byte.upperHex b

/-- A byte inside a sequence that is escaped. -/
def escapeByte (b : Byte) : Bytes := if isUnreserved b then [b] else octet b

/-- Whether two hexadecimal digits stand at the front of a text. -/
def startsWithHexPair : Bytes → Bool
  | high :: low :: _ => high.isHexDigit && low.isHexDigit
  | _ => false

/-- The bytes that complete a sequence of the given length, its first byte not counted; none at
all where the text ends before. -/
def completion (length : Nat) (rest : Bytes) : Bytes :=
  let following := rest.take (length - 1)
  if following.length = length - 1 then following else []

/-- Passes what may stay and escapes sequences byte by byte. -/
def rule : Rule := fun b rest =>
  if b.isUrlSafe then .keep 0
  else if b = Byte.percent ∧ startsWithHexPair rest then .keep 2
  else match b.sequenceLength? with
    | none => .keep 0
    | some length =>
      let following := completion length rest
      .replace following.length ((b :: following).flatMap escapeByte)

/-- A text with everything escaped that cannot stand in a URL. -/
def escapeText (text : Bytes) : Buffer := rule.replaceAll text

/-- A byte that was met where a sequence had to start and cannot start one. -/
structure Stray where
  offset : Nat
  byte : Byte
  deriving DecidableEq, Repr

/-- The strays that escaping a text leaves in it, from left to right. -/
def strays (text : Bytes) : List Stray :=
  (rule.stops 0 text).filterMap fun (offset, byte) =>
    if byte.sequenceLength?.isNone then some ⟨offset, byte⟩ else none

/-- The text of a link destination that is to be escaped: with `resolves`, what the destination
stands for as markup. -/
def destination (resolves : Bool) (text : Bytes) : Buffer :=
  if resolves then Reference.resolve text else .shared text

/-- A link destination as it has to be written in a URL. -/
def escape (resolves : Bool) (text : Bytes) : Buffer :=
  (destination resolves text).andThen escapeText

/-! ### The bytes that a percent-escaped text denotes -/

/-- Reads a percent sign with two hexadecimal digits behind it as the byte with that number, and
any other byte as itself. -/
def decode : Bytes → Bytes
  | [] => []
  | [b] => [b]
  | [b, c] => [b, c]
  | b :: high :: low :: rest =>
    if b = Byte.percent ∧ high.isHexDigit ∧ low.isHexDigit then
      (high.digitValue * 16 + low.digitValue).toUInt8 :: decode rest
    else b :: decode (high :: low :: rest)

end MarkupText.Percent
