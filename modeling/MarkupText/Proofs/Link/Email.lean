import MarkupText.Proofs.Link.Domain

/-!
# Email addresses as found and as defined

An at sign cannot stand in a local part, so there is one way to read the front of an address, and
the longest address has the longest domain. The finder gives its length (`emailSize?_longest`).
-/

set_option autoImplicit false

namespace MarkupText.Link

variable {text localPart domain label further : Bytes}

theorem not_isEmailLocal_atSign : ¬ Byte.atSign.isEmailLocal := by decide

theorem isEmail_eq_marked :
    IsEmail = Marked Byte.isEmailLocal Byte.atSign (· ≠ []) IsDomain := by
  funext text
  simp only [IsEmail, Marked, IsDomain, eq_iff_iff]
  constructor
  · rintro ⟨localPart, label, further, rfl, nonempty, inside, first, others⟩
    exact ⟨localPart, label ++ further, by simp, nonempty, inside, label, further, rfl, first,
      others⟩
  · rintro ⟨localPart, _, rfl, nonempty, inside, label, further, rfl, first, others⟩
    exact ⟨localPart, label, further, by simp, nonempty, inside, first, others⟩

theorem isLongest_email (nonempty : localPart ≠ []) (inside : ∀ b ∈ localPart, b.isEmailLocal)
    (h : IsLongest IsDomain text domain) :
    IsLongest IsEmail (localPart ++ Byte.atSign :: text)
      (localPart ++ Byte.atSign :: domain) := by
  rw [isEmail_eq_marked]
  exact h.marked not_isEmailLocal_atSign nonempty inside

/-! ### The finder -/

theorem emailSize?_append (nonempty : localPart ≠ [])
    (inside : ∀ b ∈ localPart, b.isEmailLocal) (domain : Bytes) :
    emailSize? (localPart ++ Byte.atSign :: domain) = (label? domain).map fun label =>
      localPart.length + 1 + label.length + furtherLabelsSize (domain.drop label.length) := by
  have read := takeWhile_append_of_ends inside (ends_cons not_isEmailLocal_atSign domain)
  have accepted : ¬ (localPart.isEmpty ∨ Byte.atSign ≠ Byte.atSign) := by simpa using nonempty
  simp only [emailSize?, read, List.drop_left, if_neg accepted]
  cases label? domain <;> rfl

theorem exists_localPart_of_emailSize? {size : Nat} (found : emailSize? text = some size) :
    ∃ localPart domain, text = localPart ++ Byte.atSign :: domain ∧ localPart ≠ [] ∧
      ∀ b ∈ localPart, b.isEmailLocal := by
  simp only [emailSize?] at found
  split at found
  · cases found
  · rename_i b domain behind
    split_ifs at found with refused
    obtain ⟨nonempty, sign⟩ := not_or.1 refused
    refine ⟨text.takeWhile Byte.isEmailLocal, domain, ?_, by simpa using nonempty,
      fun b mem => List.mem_takeWhile_imp mem⟩
    rw [← not_not.1 sign, ← behind]
    exact (List.prefix_iff_eq_append.1 (List.takeWhile_prefix _)).symm

theorem finds_emailSize? (text : Bytes) : Finds IsEmail text (emailSize? text) := by
  cases found : emailSize? text with
  | none =>
    -- Whatever stands behind an address, the finder reads a first label of its domain.
    intro front begins email
    rw [isEmail_eq_marked] at email
    obtain ⟨localPart, _, rfl, nonempty, inside, label, further, rfl, first, -⟩ := email
    obtain ⟨rest, rfl⟩ := begins
    rw [List.append_assoc, List.cons_append, emailSize?_append nonempty inside,
      Option.map_eq_none_iff, List.append_assoc] at found
    exact label?_ne_none (List.prefix_append label _) first found
  | some size =>
    obtain ⟨localPart, rest, rfl, nonempty, inside⟩ := exists_localPart_of_emailSize? found
    rw [emailSize?_append nonempty inside, Option.map_eq_some_iff] at found
    obtain ⟨label, read, rfl⟩ := found
    obtain ⟨further, others, size⟩ := isLongest_furtherLabels (rest.drop label.length)
    have domain := isLongest_domain (isLongest_of_label? read) others
    refine ⟨_, isLongest_email nonempty inside domain, ?_⟩
    simp only [List.length_append, List.length_cons, size]
    omega

/-- The finder gives the length of the longest email address at the front of a text, and nothing
only where none stands there. -/
theorem emailSize?_longest (text : Bytes) :
    (emailSize? text = none ↔ ∀ front, front <+: text → ¬ IsEmail front) ∧
      ∀ size, emailSize? text = some size ↔
        ∃ front, IsLongest IsEmail text front ∧ front.length = size :=
  ⟨(finds_emailSize? text).eq_none_iff, fun _ => (finds_emailSize? text).eq_some_iff⟩

end MarkupText.Link
