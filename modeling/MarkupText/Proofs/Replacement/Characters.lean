import MarkupText.Proofs.Replacement.Change
import MarkupText.Proofs.Utf8.WellFormed

/-!
# Rules and characters

A rule works on bytes. Where it covers whole characters and writes something with a property at
each of them, what it makes of a well-formed text has that property (`ByCharacters.output`). A rule
that passes bytes one at a time and replaces nothing but ASCII is of this kind, and with it a text
stays well-formed (`AsciiOnly.wellFormed`).
-/

set_option autoImplicit false

namespace MarkupText.Rule

open Utf8

variable {rule : Rule} {P : Bytes → Prop}

/-- A rule that covers whole characters and puts something with a property in the place of those
that it replaces. At ASCII it covers nothing but ASCII, and any other character by itself. -/
structure ByCharacters (rule : Rule) (P : Bytes → Prop) : Prop where
  keeps : ∀ b rest more, b.isAscii → rule b rest = .keep more → ∀ c ∈ rest.take more, c.isAscii
  replaces : ∀ b rest more written, b.isAscii → rule b rest = .replace more written →
    (∀ c ∈ rest.take more, c.isAscii) ∧ P written
  high : ∀ c rest, (∀ b ∈ encode c, ¬ b.isAscii) →
    ∃ written, rule.output (encode c ++ rest) = written ++ rule.output rest ∧ P written

/-- At ASCII such a rule goes on at a character, since a cut behind ASCII is one between
characters. -/
theorem ByCharacters.output_cons (by_characters : rule.ByCharacters P)
    (plain : ∀ span, (∀ b ∈ span, b.isAscii) → P span) {b : Byte} {rest : Bytes}
    (ascii : b.isAscii) (h : WellFormed rest) :
    ∃ written more, rule.output (b :: rest) = written ++ rule.output (rest.drop more) ∧
      P written ∧ WellFormed (rest.drop more) := by
  have cut : ∀ more, (∀ c ∈ rest.take more, c.isAscii) → WellFormed (rest.drop more) :=
    fun more skipped => .right_of_ascii skipped (by rwa [List.take_append_drop])
  cases decided : rule b rest with
  | keep more =>
    have skipped := by_characters.keeps b rest more ascii decided
    have kept : ∀ c ∈ b :: rest.take more, c.isAscii := List.forall_mem_cons.2 ⟨ascii, skipped⟩
    exact ⟨_, more, output_of_keep decided, plain _ kept, cut more skipped⟩
  | replace more written =>
    obtain ⟨skipped, holds⟩ := by_characters.replaces b rest more written ascii decided
    exact ⟨written, more, output_of_replace decided, holds, cut more skipped⟩

/-- A property of ASCII, and of what is written one behind the other, holds of the whole output
where it holds of all that is written. -/
theorem ByCharacters.output (by_characters : rule.ByCharacters P)
    (plain : ∀ span, (∀ b ∈ span, b.isAscii) → P span)
    (append : ∀ front rest, P front → P rest → P (front ++ rest)) {text : Bytes}
    (h : WellFormed text) : P (rule.output text) := by
  induction size : text.length using Nat.strongRecOn generalizing text with
  | ind n ih =>
    obtain ⟨cs, rfl⟩ := h
    cases cs with
    | nil =>
      rw [encodeAll_nil, output_nil]
      exact plain [] (List.forall_mem_nil _)
    | cons c cs =>
      have behind := wellFormed_encodeAll cs
      rw [encodeAll_cons] at size ⊢
      rcases encode_ascii_or_high c with ⟨b, encoded, ascii, -⟩ | ⟨-, high⟩
      · rw [encoded, List.singleton_append] at size ⊢
        obtain ⟨written, more, step, holds, ahead⟩ := by_characters.output_cons plain ascii behind
        have later : ((encodeAll cs).drop more).length < n := by
          rw [List.length_cons] at size
          rw [List.length_drop]
          omega
        rw [step]
        exact append _ _ holds (ih _ later ahead rfl)
      · obtain ⟨written, step, holds⟩ := by_characters.high c (encodeAll cs) high
        have later : (encodeAll cs).length < n := by
          have pos := List.length_pos_iff.2 (encode_ne_nil c)
          rw [List.length_append] at size
          omega
        rw [step]
        exact append _ _ holds (ih _ later behind rfl)

theorem ByCharacters.wellFormed (by_characters : rule.ByCharacters WellFormed) {text : Bytes}
    (h : WellFormed text) : WellFormed (rule.output text) :=
  by_characters.output (fun _ => wellFormed_of_ascii) (fun _ _ => .append) h

/-! ### Rules that replace ASCII only -/

/-- Rules that pass bytes one at a time and replace nothing but ASCII, and that by characters. -/
structure AsciiOnly (rule : Rule) : Prop where
  passes : rule.PassesBytes
  replaces : ∀ b rest more written, rule b rest = .replace more written →
    b.isAscii ∧ (∀ c ∈ rest.take more, c.isAscii) ∧ WellFormed written

theorem AsciiOnly.keeps (ascii : rule.AsciiOnly) {b : Byte} (high : ¬ b.isAscii) (rest : Bytes) :
    rule b rest = .keep 0 := by
  cases decided : rule b rest with
  | keep more => rw [ascii.passes b rest more decided]
  | replace more written => exact absurd (ascii.replaces b rest more written decided).1 high

theorem AsciiOnly.byCharacters (ascii : rule.AsciiOnly) : rule.ByCharacters WellFormed where
  keeps := by
    intro b rest more _ keep
    rw [ascii.passes b rest more keep]
    exact List.forall_mem_nil _
  replaces := by
    intro b rest more written _ replace
    exact (ascii.replaces b rest more written replace).2
  high := by
    intro c rest high
    have passed := output_append_of_keeps (fun b mem => ascii.keeps (high b mem)) rest
    exact ⟨encode c, passed, wellFormed_encode c⟩

theorem AsciiOnly.wellFormed (ascii : rule.AsciiOnly) {text : Bytes} (h : WellFormed text) :
    WellFormed (rule.output text) :=
  ascii.byCharacters.wellFormed h

end MarkupText.Rule
