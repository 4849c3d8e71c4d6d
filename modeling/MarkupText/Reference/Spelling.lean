import MarkupText.Reference.Basic

/-!
# What references stand for

All texts that are a character reference, each with the text that it stands for, and how a text
reads when references of both kinds are resolved at once.
-/

set_option autoImplicit false

namespace MarkupText.Reference

/-- The number that digits spell, however large. -/
def value (radix : Nat) (digits : Bytes) : Nat :=
  digits.foldl (fun value digit => value * radix + digit.digitValue) 0

/-- The spellings by number: up to seven decimal digits, or hexadecimal digits behind a letter x
of either case. -/
inductive SpelledByNumber : Bytes → Bytes → Prop
  | decimal (digits : Bytes) :
      digits ≠ [] → digits.length ≤ 7 → (∀ b ∈ digits, b.isDigit) →
      SpelledByNumber (utf8 "&#" ++ digits ++ utf8 ";")
        (Utf8.encode (Utf8.characterOf (value 10 digits)))
  | hexadecimal (mark : Byte) (digits : Bytes) :
      mark = 0x78 ∨ mark = 0x58 → digits ≠ [] → (∀ b ∈ digits, b.isHexDigit) →
      SpelledByNumber (utf8 "&#" ++ mark :: digits ++ utf8 ";")
        (Utf8.encode (Utf8.characterOf (value 16 digits)))

/-- The spellings by name, as the rows of the table have them. -/
inductive SpelledByName : Bytes → Bytes → Prop
  | row (name : String) (numbers : List Nat) :
      (name, numbers) ∈ Names.rows →
      SpelledByName (utf8 "&" ++ utf8 name ++ utf8 ";")
        (Utf8.encodeAll (numbers.map Char.ofNat))

/-- A text with its references resolved in a single scan that never reads what it has written: at
each byte it tries a numeric reference first and a named one second. -/
def resolveOnce : Bytes → Bytes
  | [] => []
  | b :: rest =>
    match Numeric.match? b rest with
    | some (c, more) => Utf8.encode c ++ resolveOnce (rest.drop more)
    | none =>
      match Named.match? b rest with
      | some (characters, more) => characters ++ resolveOnce (rest.drop more)
      | none => b :: resolveOnce rest
  termination_by text => text.length

end MarkupText.Reference
