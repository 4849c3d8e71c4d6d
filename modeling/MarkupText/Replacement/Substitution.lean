import MarkupText.Byte

/-!
# Substitution, said without a scanner

A set of factors, each with what stands for it, determines how a text reads once every factor is
replaced: from left to right, each factor as it is met, and what was put in is not read again. Where
no two factors begin at the same place and each has one meaning (`Unambiguous`), nothing is left
open by this (`Substituted.unique`).
-/

set_option autoImplicit false

namespace MarkupText

/-- The text `out` is the text before it with every factor replaced. A byte is taken over only
where no factor begins. -/
inductive Substituted (stands : Bytes → Bytes → Prop) : Bytes → Bytes → Prop
  | nil : Substituted stands [] []
  | factor {factor meaning rest out : Bytes} :
      stands factor meaning → Substituted stands rest out →
      Substituted stands (factor ++ rest) (meaning ++ out)
  | byte {b : Byte} {rest out : Bytes} :
      (∀ factor meaning, stands factor meaning → ¬ factor <+: b :: rest) →
      Substituted stands rest out → Substituted stands (b :: rest) (b :: out)

/-- Whether a factor stands somewhere in a text. -/
def HasFactor (stands : Bytes → Bytes → Prop) (text : Bytes) : Prop :=
  ∃ factor meaning, stands factor meaning ∧ factor <:+: text

/-! ### What comes of a substitution -/

variable {stands : Bytes → Bytes → Prop}

/-- Factors that are told apart by the text at which they begin, each with one meaning. -/
structure Unambiguous (stands : Bytes → Bytes → Prop) : Prop where
  nonempty : ∀ meaning, ¬ stands [] meaning
  single : ∀ {factor meaning other another rest behind : Bytes}, stands factor meaning →
    stands other another → factor ++ rest = other ++ behind → factor = other ∧ meaning = another

namespace Substituted

theorem of_nil (unambiguous : Unambiguous stands) {out : Bytes} (h : Substituted stands [] out) :
    out = [] := by
  generalize whole : ([] : Bytes) = text at h
  cases h with
  | nil => rfl
  | factor known _ =>
    obtain ⟨rfl, -⟩ := List.append_eq_nil_iff.1 whole.symm
    exact absurd known (unambiguous.nonempty _)
  | byte _ _ => cases whole

/-- A factor at the front is replaced as a whole. -/
theorem of_factor (unambiguous : Unambiguous stands) {factor meaning rest out : Bytes}
    (known : stands factor meaning) (h : Substituted stands (factor ++ rest) out) :
    ∃ later, out = meaning ++ later ∧ Substituted stands rest later := by
  generalize whole : factor ++ rest = text at h
  cases h with
  | nil =>
    obtain ⟨rfl, -⟩ := List.append_eq_nil_iff.1 whole
    exact absurd known (unambiguous.nonempty _)
  | factor other h =>
    obtain ⟨rfl, rfl⟩ := unambiguous.single known other whole
    obtain rfl := List.append_cancel_left whole
    exact ⟨_, rfl, h⟩
  | byte none _ => exact absurd ⟨rest, whole⟩ (none _ _ known)

/-- A byte at which no factor begins is taken over. -/
theorem of_byte {b : Byte} {rest out : Bytes}
    (none : ∀ factor meaning, stands factor meaning → ¬ factor <+: b :: rest)
    (h : Substituted stands (b :: rest) out) :
    ∃ later, out = b :: later ∧ Substituted stands rest later := by
  generalize whole : b :: rest = text at h
  cases h with
  | nil => cases whole
  | factor known _ => exact absurd ⟨_, whole.symm⟩ (none _ _ known)
  | byte _ h =>
    cases whole
    exact ⟨_, rfl, h⟩

/-- A text reads in one way only once its factors are replaced. -/
theorem unique (unambiguous : Unambiguous stands) {text out other : Bytes}
    (h : Substituted stands text out) (another : Substituted stands text other) : out = other := by
  induction h generalizing other with
  | nil => exact (of_nil unambiguous another).symm
  | factor known _ ih =>
    obtain ⟨later, rfl, behind⟩ := of_factor unambiguous known another
    rw [ih behind]
  | byte none _ ih =>
    obtain ⟨later, rfl, behind⟩ := of_byte none another
    rw [ih behind]

end Substituted

end MarkupText
