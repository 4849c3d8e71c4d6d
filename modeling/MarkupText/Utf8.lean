import MarkupText.Byte

/-!
# Characters in UTF-8

`encode` writes a character, `front` reads the one at the front of a text. Reading is strict:
overlong forms, surrogates and values above U+10FFFF are broken, and what is broken is as long as
the longest part of it that could still have started a character.
-/

set_option autoImplicit false

namespace MarkupText.Utf8

/-- The bytes of a character. -/
def encode (c : Char) : Bytes := String.utf8EncodeChar c

/-- The bytes of a run of characters. -/
def encodeAll (cs : List Char) : Bytes := cs.flatMap encode

/-- The texts that are characters from end to end. -/
def WellFormed (text : Bytes) : Prop := ∃ cs : List Char, text = encodeAll cs

/-- The character that stands for what is no character. -/
def replacement : Char := Char.ofNat 0xFFFD

/-- The character with this number, or the replacement where the number is zero or no character
has it. -/
def characterOf (number : Nat) : Char :=
  if number ≠ 0 ∧ number.isValidChar then Char.ofNat number else replacement

/-- What a lead byte announces: its own part of the character's number, and for each byte to
follow the range that byte has to come from. -/
structure Lead where
  bits : Nat
  following : List (Byte × Byte)

/-- Any byte that continues a sequence. -/
def anyContinuation : Byte × Byte := (0x80, 0xBF)

/-- The announcement of a lead byte. The range of the second byte is narrow where the full one
would let in overlong forms (after E0 and F0), surrogates (after ED) or numbers that are too large
(after F4). -/
def lead? (b : Byte) : Option Lead :=
  if b ≤ 0x7F then some ⟨b.toNat, []⟩
  else if Byte.within 0xC2 0xDF b then some ⟨b.toNat - 0xC0, [anyContinuation]⟩
  else if b = 0xE0 then some ⟨0x0, [(0xA0, 0xBF), anyContinuation]⟩
  else if b = 0xED then some ⟨0xD, [(0x80, 0x9F), anyContinuation]⟩
  else if Byte.within 0xE1 0xEF b then
    some ⟨b.toNat - 0xE0, [anyContinuation, anyContinuation]⟩
  else if b = 0xF0 then some ⟨0x0, [(0x90, 0xBF), anyContinuation, anyContinuation]⟩
  else if b = 0xF4 then some ⟨0x4, [(0x80, 0x8F), anyContinuation, anyContinuation]⟩
  else if Byte.within 0xF1 0xF3 b then
    some ⟨b.toNat - 0xF0, [anyContinuation, anyContinuation, anyContinuation]⟩
  else none

/-- What stands at the front of a text, with the number of bytes it takes up. -/
inductive Front
  | character (c : Char) (size : Nat)
  | broken (size : Nat)
  deriving DecidableEq, Repr

/-- Reads the bytes that a lead byte announced, each of which brings six more bits, and stops at
the first one that is missing or out of its range. -/
def follow (number size : Nat) : List (Byte × Byte) → Bytes → Front
  | [], _ => .character (Char.ofNat number) size
  | _ :: _, [] => .broken size
  | (first, last) :: ranges, b :: rest =>
    if Byte.within first last b then follow (number * 64 + b.toNat % 64) (size + 1) ranges rest
    else .broken size

/-- Reads the character at the front of the text `b :: rest`. -/
def front (b : Byte) (rest : Bytes) : Front :=
  match lead? b with
  | some lead => follow lead.bits 1 lead.following rest
  | none => .broken 1

/-- The character at the front of a text, if one stands there. -/
def character? : Bytes → Option Char
  | [] => none
  | b :: rest =>
    match front b rest with
    | .character c _ => some c
    | .broken _ => none

/-- The index at which the sequence around a position starts: the nearest byte that can lead one,
at most three bytes back, or the position itself where there is no such byte. -/
def sequenceStart (text : Bytes) (position : Nat) : Nat :=
  let leads := fun i => match text[i]? with
    | some b => !b.isContinuation
    | none => false
  ([position, position - 1, position - 2, position - 3].find? leads).getD position

/-- The character whose sequence starts around a position, or the replacement where none does. -/
def characterAt (text : Bytes) (position : Nat) : Char :=
  if position < text.length then
    (character? (text.drop (sequenceStart text position))).getD replacement
  else replacement

end MarkupText.Utf8
