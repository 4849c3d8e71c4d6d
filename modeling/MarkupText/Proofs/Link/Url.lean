import MarkupText.Link.Url
import MarkupText.Proofs.Link.Longest

/-!
# URLs as found and as defined

The finder reads all the bytes that a scheme can have, and only then looks at their number and at
the colon. A colon is no byte of a scheme, so a shorter scheme could not be followed by one
(`urlSize?_of_isScheme`). What follows the colon ends where the class of its bytes does. So the
finder tells how far the longest URL reaches (`urlSize?_longest`).
-/

set_option autoImplicit false

namespace MarkupText.Link

variable {text scheme path : Bytes}

theorem isSchemeByte_of_isLetter {b : Byte} (letter : b.isLetter) : isSchemeByte b := by
  rw [isSchemeByte, Byte.isAlphanumeric, letter, Bool.true_or, Bool.true_or]

theorem not_isSchemeByte_colon : ¬ isSchemeByte Byte.colon := by decide

theorem isSchemeByte_iff {b : Byte} :
    isSchemeByte b ↔ b.isAlphanumeric ∨ b ∈ utf8 ".+-" := by
  have marks : b ∈ utf8 "+-." ↔ b ∈ utf8 ".+-" := List.Perm.mem_iff (by decide)
  rw [isSchemeByte, Bool.or_eq_true, List.contains_iff_mem, marks]

theorem isUrlRest_iff {b : Byte} :
    isUrlRest b ↔ Byte.space < b ∧ b ≠ Byte.less ∧ b ≠ Byte.greater := by
  simp only [isUrlRest, Bool.and_eq_true, decide_eq_true_eq, and_assoc]

/-- A letter and the bytes of the class behind it are a scheme if there are as many as there may
be. -/
theorem isScheme_cons_iff {b : Byte} {run : Bytes} (letter : b.isLetter)
    (inside : ∀ c ∈ run, isSchemeByte c) :
    IsScheme (b :: run) ↔ minSchemeSize ≤ run.length + 1 ∧ run.length + 1 ≤ maxSchemeSize :=
  ⟨fun h => h.size, fun size => ⟨⟨b, rfl, letter⟩, fun c mem => isSchemeByte_iff.1 (inside c mem),
    size⟩⟩

theorem IsScheme.exists_cons (h : IsScheme scheme) :
    ∃ b run, scheme = b :: run ∧ b.isLetter ∧ ∀ c ∈ run, isSchemeByte c := by
  obtain ⟨b, first, letter⟩ := h.letter
  obtain ⟨run, rfl⟩ := List.head?_eq_some_iff.1 first
  exact ⟨b, run, rfl, letter, fun c mem => isSchemeByte_iff.2 (h.rest c mem)⟩

theorem IsScheme.isSchemeByte (h : IsScheme scheme) : ∀ b ∈ scheme, isSchemeByte b := by
  obtain ⟨b, run, rfl, letter, inside⟩ := h.exists_cons
  exact List.forall_mem_cons.2 ⟨isSchemeByte_of_isLetter letter, inside⟩

theorem isUrl_eq_marked : IsUrl =
    Marked isSchemeByte Byte.colon IsScheme fun rest => ∀ b ∈ rest, isUrlRest b := by
  funext text
  simp only [IsUrl, Marked, isUrlRest_iff, eq_iff_iff]
  constructor
  · rintro ⟨scheme, rest, whole, start, inside⟩
    exact ⟨scheme, rest, whole, start, start.isSchemeByte, inside⟩
  · rintro ⟨scheme, rest, whole, start, -, inside⟩
    exact ⟨scheme, rest, whole, start, inside⟩

theorem isLongest_url (h : IsScheme scheme) (path : Bytes) :
    IsLongest IsUrl (scheme ++ Byte.colon :: path)
      (scheme ++ Byte.colon :: path.takeWhile isUrlRest) := by
  rw [isUrl_eq_marked]
  exact (isLongest_takeWhile isUrlRest path).marked not_isSchemeByte_colon h h.isSchemeByte

/-! ### The finder -/

theorem urlSize?_of_isScheme (h : IsScheme scheme) (path : Bytes) :
    urlSize? (scheme ++ Byte.colon :: path) =
      some (scheme ++ Byte.colon :: path.takeWhile isUrlRest).length := by
  obtain ⟨b, run, rfl, letter, inside⟩ := h.exists_cons
  have read := takeWhile_append_of_ends inside (ends_cons not_isSchemeByte_colon path)
  obtain ⟨least, most⟩ := (isScheme_cons_iff letter inside).1 h
  rw [List.cons_append, urlSize?, if_pos letter]
  simp only [read, List.drop_left, List.length_append, List.length_cons]
  rw [if_pos ⟨least, most, trivial⟩]
  congr 1
  omega

theorem exists_scheme_of_urlSize? {size : Nat} (found : urlSize? text = some size) :
    ∃ scheme path, text = scheme ++ Byte.colon :: path ∧ IsScheme scheme := by
  cases text with
  | nil => cases found
  | cons b rest =>
    rw [urlSize?] at found
    split_ifs at found with letter
    simp only at found
    split at found
    · cases found
    · rename_i mark path behind
      split_ifs at found with size
      obtain ⟨least, most, rfl⟩ := size
      refine ⟨b :: rest.takeWhile isSchemeByte, path, ?_, ?_⟩
      · rw [List.cons_append, ← behind]
        exact congrArg (b :: ·) (List.prefix_iff_eq_append.1 (List.takeWhile_prefix _)).symm
      · exact (isScheme_cons_iff letter fun c mem => List.mem_takeWhile_imp mem).2 ⟨least, most⟩

theorem finds_urlSize? (text : Bytes) : Finds IsUrl text (urlSize? text) := by
  cases found : urlSize? text with
  | none =>
    -- Whatever stands behind a URL, the finder reads its scheme and its colon.
    rintro _ ⟨tail, rfl⟩ ⟨scheme, rest, rfl, start, -⟩
    rw [List.append_assoc, List.cons_append, urlSize?_of_isScheme start] at found
    cases found
  | some size =>
    obtain ⟨scheme, path, rfl, start⟩ := exists_scheme_of_urlSize? found
    rw [urlSize?_of_isScheme start] at found
    exact ⟨_, isLongest_url start path, Option.some.inj found⟩

/-- The finder gives the length of the longest URL at the front of a text, and nothing only where
none stands there. -/
theorem urlSize?_longest (text : Bytes) :
    (urlSize? text = none ↔ ∀ front, front <+: text → ¬ IsUrl front) ∧
      ∀ size, urlSize? text = some size ↔
        ∃ front, IsLongest IsUrl text front ∧ front.length = size :=
  ⟨(finds_urlSize? text).eq_none_iff, fun _ => (finds_urlSize? text).eq_some_iff⟩

end MarkupText.Link
