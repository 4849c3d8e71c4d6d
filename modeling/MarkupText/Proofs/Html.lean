import MarkupText.Escape
import MarkupText.Proofs.Backslash
import MarkupText.Proofs.Reference.Names
import MarkupText.Proofs.Reference.Rules

/-!
# Text in HTML and back

Text that is written in HTML has no marks of its own left in it, and every ampersand in it begins
one of four references (`begins_reference`). The named references give the text back
(`named_output_written`), no numeric one arises, and taking away backslashes can be done before
writing as well as after (`backslash_output_written`). So resolving what was written does to a text
what taking away its backslashes does (`escape_inert`).
-/

set_option autoImplicit false

namespace MarkupText.Html

/-- What stands in HTML for a byte. -/
def written (b : Byte) : Bytes := (reference? b).getD [b]

/-- The references that writing puts in. -/
def references : List Bytes := [utf8 "&quot;", utf8 "&amp;", utf8 "&lt;", utf8 "&gt;"]

/-- The bytes that are written as references, with their names. -/
def marks : List (Byte × String) :=
  [(Byte.quote, "quot"), (Byte.ampersand, "amp"), (Byte.less, "lt"), (Byte.greater, "gt")]

/-- A byte that is written as a reference, with the name in that reference. -/
structure Marked (b : Byte) (name : Bytes) : Prop where
  written_eq : written b = Byte.ampersand :: (name ++ [Byte.semicolon])
  reference : written b ∈ references
  letters : ∀ c ∈ name, c.isLetter
  nonempty : name ≠ []
  punctuation : b.isPunctuation
  found : Reference.Names.lookup? name = some [b]

theorem marks_in_rows : ∀ mark ∈ marks, (mark.2, [mark.1.toNat]) ∈ Reference.Names.rows := by
  intro mark mem
  have small : (mark.2, [mark.1.toNat]) ∈ Reference.Names.smallA ∨
      (mark.2, [mark.1.toNat]) ∈ Reference.Names.smallG ∨
      (mark.2, [mark.1.toNat]) ∈ Reference.Names.smallL ∨
      (mark.2, [mark.1.toNat]) ∈ Reference.Names.smallQ := by
    revert mark
    decide +kernel
  unfold Reference.Names.rows
  rcases small with h | h | h | h <;> simp only [List.mem_append, h, true_or, or_true]

theorem marked_of_mem {mark : Byte × String} (mem : mark ∈ marks) :
    Marked mark.1 (utf8 mark.2) := by
  have shapes : ∀ mark ∈ marks,
      written mark.1 = Byte.ampersand :: (utf8 mark.2 ++ [Byte.semicolon]) ∧
      written mark.1 ∈ references ∧ (∀ c ∈ utf8 mark.2, c.isLetter) ∧ utf8 mark.2 ≠ [] ∧
      mark.1.isPunctuation ∧ Utf8.encodeAll ([mark.1.toNat].map Char.ofNat) = [mark.1] := by
    decide +kernel
  obtain ⟨written_eq, reference, letters, nonempty, punctuation, encoded⟩ := shapes mark mem
  have found := Reference.Names.lookup?_of_mem (marks_in_rows mark mem)
  rw [encoded] at found
  exact ⟨written_eq, reference, letters, nonempty, punctuation, found⟩

/-- A byte stands for itself in HTML or is one of those that are marked. -/
theorem plain_or_marked (b : Byte) :
    (written b = [b] ∧ b ≠ Byte.quote ∧ b ≠ Byte.ampersand ∧ b ≠ Byte.less ∧ b ≠ Byte.greater) ∨
      ∃ name, Marked b name := by
  by_cases named : b ∈ marks.map Prod.fst
  · obtain ⟨mark, mem, rfl⟩ := List.mem_map.1 named
    exact .inr ⟨_, marked_of_mem mem⟩
  · simp only [marks, List.map_cons, List.map_nil, List.mem_cons, List.not_mem_nil, or_false,
      not_or] at named
    obtain ⟨quote, ampersand, less, greater⟩ := named
    refine .inl ⟨?_, quote, ampersand, less, greater⟩
    rw [written, reference?, if_neg quote, if_neg ampersand, if_neg less, if_neg greater]
    rfl

theorem output_eq (text : Bytes) : rule.output text = text.flatMap written := by
  induction text with
  | nil => exact Rule.output_nil
  | cons b rest ih =>
    rw [List.flatMap_cons, ← ih, written]
    cases known : reference? b with
    | none =>
      have keep : rule b rest = .keep 0 := by simp only [rule, known]
      exact Rule.output_of_keep keep
    | some reference =>
      have replace : rule b rest = .replace 0 reference := by simp only [rule, known]
      exact Rule.output_of_replace replace

theorem bytes_escape (text : Bytes) : (escape text).bytes = text.flatMap written :=
  (Rule.bytes_replaceAll text).trans (output_eq text)

/-! ### What is in it -/

theorem Marked.not_mem {b c : Byte} {name : Bytes} (h : Marked b name) (letter : ¬ c.isLetter)
    (ne : c ≠ Byte.semicolon) : c ∉ name ++ [Byte.semicolon] := by
  intro mem
  rcases List.mem_append.1 mem with inside | last
  · exact letter (h.letters c inside)
  · exact ne (List.mem_singleton.1 last)

/-- Nothing is left that opens or closes a tag or a quoted value. -/
theorem inert_of_mem_written {text : Bytes} {b : Byte} (mem : b ∈ text.flatMap written) :
    b ≠ Byte.less ∧ b ≠ Byte.greater ∧ b ≠ Byte.quote := by
  obtain ⟨c, -, mem⟩ := List.mem_flatMap.1 mem
  obtain ⟨plain, quote, -, less, greater⟩ | ⟨name, marked⟩ := plain_or_marked c
  · rw [plain, List.mem_singleton] at mem
    subst mem
    exact ⟨less, greater, quote⟩
  · rw [marked.written_eq] at mem
    have absent : ∀ mark : Byte, ¬ mark.isLetter → mark ≠ Byte.semicolon →
        mark ≠ Byte.ampersand → b ≠ mark := by
      rintro mark letter semicolon ampersand rfl
      rcases List.mem_cons.1 mem with first | behind
      · exact ampersand first
      · exact marked.not_mem letter semicolon behind
    exact ⟨absent _ (by decide) (by decide) (by decide),
      absent _ (by decide) (by decide) (by decide), absent _ (by decide) (by decide) (by decide)⟩

theorem suffix_of_suffix_append {b : Byte} {rest span text : Bytes} (h : b ∉ span)
    (suffix : b :: rest <:+ span ++ text) : b :: rest <:+ text := by
  induction span with
  | nil => exact suffix
  | cons c span ih =>
    obtain ⟨ne, others⟩ := not_or.1 (mt List.mem_cons.2 h)
    rcases List.suffix_cons_iff.1 suffix with whole | behind
    · exact absurd (List.cons.inj whole).1 ne
    · exact ih others behind

/-- Behind every ampersand stand a name and a semicolon. -/
theorem name_of_suffix {text rest : Bytes}
    (suffix : Byte.ampersand :: rest <:+ text.flatMap written) :
    ∃ b name behind, Marked b name ∧ rest = name ++ Byte.semicolon :: behind := by
  induction text with
  | nil => cases List.suffix_nil.1 suffix
  | cons b text ih =>
    rw [List.flatMap_cons] at suffix
    obtain ⟨plain, -, ne, -⟩ | ⟨name, marked⟩ := plain_or_marked b
    · rw [plain] at suffix
      exact ih (suffix_of_suffix_append (mt List.mem_singleton.1 ne.symm) suffix)
    · rw [marked.written_eq, List.cons_append] at suffix
      rcases List.suffix_cons_iff.1 suffix with whole | behind
      · refine ⟨b, name, text.flatMap written, marked, ?_⟩
        rw [(List.cons.inj whole).2, List.append_assoc, List.singleton_append]
      · exact ih (suffix_of_suffix_append (marked.not_mem (by decide) (by decide)) behind)

/-- Every ampersand begins one of the references. -/
theorem begins_reference {text rest : Bytes}
    (suffix : Byte.ampersand :: rest <:+ text.flatMap written) :
    ∃ reference ∈ references, reference <+: Byte.ampersand :: rest := by
  obtain ⟨b, name, behind, marked, rfl⟩ := name_of_suffix suffix
  refine ⟨written b, marked.reference, behind, ?_⟩
  rw [marked.written_eq, List.cons_append, List.append_assoc, List.singleton_append]

/-! ### What the passes make of it -/

/-- No reference by number begins where one by name does. -/
theorem numeric_not_replaces (text : Bytes) :
    Reference.Numeric.rule.replaces (text.flatMap written) = false := by
  refine Rule.not_replaces_of_keeps fun b rest suffix => ⟨0, Reference.Numeric.rule_keep ?_⟩
  rintro rfl
  obtain ⟨b, name, behind, marked, rfl⟩ := name_of_suffix suffix
  match name, marked.nonempty with
  | c :: name, _ =>
    intro hash
    have letter := marked.letters c List.mem_cons_self
    rw [Option.some.inj hash] at letter
    exact absurd letter (by decide)

theorem named_output_written (text : Bytes) :
    Reference.Named.rule.output (text.flatMap written) = text := by
  induction text with
  | nil => exact Rule.output_nil
  | cons b text ih =>
    rw [List.flatMap_cons]
    obtain ⟨plain, -, ne, -⟩ | ⟨name, marked⟩ := plain_or_marked b
    · rw [plain, List.singleton_append,
        Rule.output_of_keep (Reference.Named.rule_keep ne _), List.take_zero, List.drop_zero, ih]
      rfl
    · have alphanumeric : ∀ c ∈ name, c.isAlphanumeric := fun c mem => by
        rw [Byte.isAlphanumeric, marked.letters c mem, Bool.true_or]
      have replaced := Reference.Named.rule_found marked.nonempty alphanumeric marked.found
        (text.flatMap written)
      rw [marked.written_eq, List.cons_append, List.append_assoc, List.singleton_append,
        Rule.output_of_replace replaced, List.append_cons, List.drop_left' (by simp), ih]
      rfl

theorem not_mem_written {b : Byte} (ne : b ≠ Byte.backslash) : Byte.backslash ∉ written b := by
  obtain ⟨plain, -⟩ | ⟨name, marked⟩ := plain_or_marked b
  · rw [plain]
    exact mt List.mem_singleton.1 ne.symm
  · rw [marked.written_eq]
    exact List.not_mem_cons_of_ne_of_not_mem (by decide) (marked.not_mem (by decide) (by decide))

/-- Punctuation is written with punctuation in front, and nothing else is. -/
theorem written_front (b : Byte) :
    ∃ first behind, written b = first :: behind ∧ (first.isPunctuation ↔ b.isPunctuation) ∧
      Byte.backslash ∉ behind := by
  obtain ⟨plain, -⟩ | ⟨name, marked⟩ := plain_or_marked b
  · exact ⟨b, [], plain, Iff.rfl, List.not_mem_nil⟩
  · refine ⟨Byte.ampersand, name ++ [Byte.semicolon], marked.written_eq, ?_, ?_⟩
    · exact ⟨fun _ => marked.punctuation, fun _ => by decide⟩
    · exact marked.not_mem (by decide) (by decide)

theorem written_backslash : written Byte.backslash = [Byte.backslash] := by decide

/-- A backslash that escapes nothing escapes nothing in HTML either. -/
theorem backslash_keep_written {rest : Bytes}
    (free : ∀ next, rest.head? = some next → ¬ next.isPunctuation) :
    Backslash.rule Byte.backslash (rest.flatMap written) = .keep 0 := by
  apply Backslash.rule_keep
  intro _ front read
  cases rest with
  | nil => cases read
  | cons next rest =>
    obtain ⟨first, behind, eq, punctuation, -⟩ := written_front next
    rw [List.flatMap_cons, eq, List.cons_append, List.head?_cons] at read
    rw [← Option.some.inj read, punctuation]
    exact free next rfl

/-- An escaped byte may come to be a reference, of which the backslash then escapes the
ampersand. -/
theorem backslash_escape_written {next : Byte} (escaped : next.isPunctuation) (rest : Bytes) :
    Backslash.rule.output (Byte.backslash :: (written next ++ rest)) =
      written next ++ Backslash.rule.output rest := by
  obtain ⟨first, behind, eq, punctuation, absent⟩ := written_front next
  have replaced := Backslash.rule_escape (punctuation.2 escaped) (behind ++ rest)
  rw [eq, List.cons_append, Rule.output_of_replace replaced, List.drop_succ_cons, List.drop_zero,
    Backslash.output_append absent]
  rfl

/-- Backslashes escape the same bytes before and after writing. -/
theorem backslash_output_written (text : Bytes) :
    Backslash.rule.output (text.flatMap written) =
      (Backslash.rule.output text).flatMap written := by
  induction text using Rule.pieces.induct Backslash.rule with
  | case1 => rw [Rule.output_nil, List.flatMap_nil, Rule.output_nil]
  | case2 b rest more h ih =>
    rw [Rule.output_of_keep h]
    cases Backslash.rule_decides h with
    | keep free =>
      rw [List.drop_zero] at ih
      rw [List.take_zero, List.drop_zero, List.singleton_append, List.flatMap_cons,
        List.flatMap_cons, ← ih]
      by_cases backslash : b = Byte.backslash
      · subst backslash
        have keep := backslash_keep_written (free rfl)
        rw [written_backslash, List.singleton_append, Rule.output_of_keep keep, List.take_zero,
          List.drop_zero, List.singleton_append]
      · exact Backslash.output_append (not_mem_written backslash) _
  | case3 b rest more replaced h ih =>
    rw [Rule.output_of_replace h]
    cases Backslash.rule_decides h with
    | @escape next rest escaped =>
      rw [List.drop_succ_cons, List.drop_zero] at ih ⊢
      rw [List.flatMap_append, List.flatMap_singleton, ← ih]
      exact backslash_escape_written escaped (rest.flatMap written)

/-! ### What comes back -/

/-- Text in HTML has no marks of its own, its references are the ones that writing puts in, and
resolving them gives the text back, without the backslashes that escape something. -/
theorem escape_inert (text : Bytes) :
    let out := (escape text).bytes
    ((∀ b ∈ out, b ≠ Byte.less ∧ b ≠ Byte.greater ∧ b ≠ Byte.quote) ∧
      ∀ rest, Byte.ampersand :: rest <:+ out →
        ∃ reference ∈ references, reference <+: Byte.ampersand :: rest) ∧
    (Reference.Numeric.resolve out = .shared out ∧
      (Reference.Named.resolve out).bytes = text) ∧
    (Reference.resolve out).bytes = (Backslash.unescape text).bytes ∧
    (Byte.backslash ∉ text → (Reference.resolve out).bytes = text) := by
  intro out
  have eq : out = text.flatMap written := bytes_escape text
  have resolved : (Reference.resolve out).bytes = (Backslash.unescape text).bytes := by
    have numeric := Rule.output_of_not_replaces (numeric_not_replaces (Backslash.rule.output text))
    rw [eq, Reference.bytes_resolve, backslash_output_written, numeric, named_output_written,
      Backslash.unescape, Rule.bytes_replaceAll]
  refine ⟨⟨?_, ?_⟩, ⟨?_, ?_⟩, resolved, fun absent => ?_⟩
  · rw [eq]
    exact fun b => inert_of_mem_written
  · rw [eq]
    exact fun rest => begins_reference
  · rw [eq]
    exact Rule.replaceAll_of_not_replaces (numeric_not_replaces text)
  · rw [eq]
    exact (Rule.bytes_replaceAll _).trans (named_output_written text)
  · rw [resolved, Backslash.unescape, Rule.bytes_replaceAll, Backslash.output_of_not_mem absent]

/-- A text that has what looks like a reference and what looks like a tag. -/
theorem escape_inert_reference :
    let text := utf8 "&#65;<b>"
    let out := (escape text).bytes
    (Byte.semicolon ∈ out ∧ Byte.ampersand :: utf8 "gt;" <:+ out ∧ Byte.backslash ∉ text) ∧
      (Byte.semicolon ≠ Byte.less ∧ Byte.semicolon ≠ Byte.greater ∧
        Byte.semicolon ≠ Byte.quote) ∧
      (∃ reference ∈ references, reference <+: Byte.ampersand :: utf8 "gt;") ∧
      (Reference.resolve out).bytes = text := by
  intro text out
  have bytes : out = utf8 "&amp;#65;&lt;b&gt;" := (bytes_escape _).trans (by decide)
  have mem : Byte.semicolon ∈ out := by
    rw [bytes]
    decide
  have suffix : Byte.ampersand :: utf8 "gt;" <:+ out := by
    rw [bytes]
    decide
  have absent : Byte.backslash ∉ text := by decide
  obtain ⟨⟨inert, begins⟩, -, -, back⟩ := escape_inert text
  exact ⟨⟨mem, suffix, absent⟩, inert _ mem, begins _ suffix, back absent⟩

end MarkupText.Html
