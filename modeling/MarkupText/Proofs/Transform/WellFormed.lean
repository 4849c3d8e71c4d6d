import MarkupText.Escape
import MarkupText.Fold.Basic
import MarkupText.Space
import MarkupText.Proofs.Backslash
import MarkupText.Proofs.Byte
import MarkupText.Proofs.Fold.Plain
import MarkupText.Proofs.Percent.Escaped
import MarkupText.Proofs.Reference.Spelling
import MarkupText.Proofs.Replacement.Characters
import MarkupText.Proofs.Space.Collapse
import MarkupText.Proofs.Space.Trim

/-!
# Well-formed texts stay well-formed

The transforms work on bytes and cut their text between bytes. Still each of them makes a
well-formed text of a well-formed one, and escaping a URL makes ASCII of it
(`wellFormed_transforms`). Most rules replace nothing but ASCII (`Rule.AsciiOnly`). Those of
folding, of showing white space and of escaping do replace other characters, and each of them takes
such a character as a whole (`Rule.ByCharacters`).
-/

set_option autoImplicit false

namespace MarkupText

open Utf8

/-! ### Rules that replace ASCII only -/

theorem Html.asciiOnly : rule.AsciiOnly := by
  constructor
  · intro b rest more keep
    unfold rule at keep
    split at keep <;> cases keep
    rfl
  · intro b rest more written replace
    unfold rule reference? at replace
    split_ifs at replace with quote ampersand less greater
    all_goals
      cases replace
      subst b
      exact ⟨by decide, List.forall_mem_nil _, wellFormed_of_ascii (List.all_eq_true.1 rfl)⟩

theorem Backslash.asciiOnly : rule.AsciiOnly := by
  refine ⟨passesBytes, fun b rest more written replace => ?_⟩
  cases rule_decides replace with
  | @escape next _ punctuation =>
    have ascii : ∀ c ∈ [next], c.isAscii :=
      List.forall_mem_singleton.2 (Byte.isAscii_of_isPunctuation punctuation)
    exact ⟨by decide, ascii, wellFormed_of_ascii ascii⟩

theorem Reference.Numeric.asciiOnly : rule.AsciiOnly := by
  refine Reference.asciiOnly rule_decides (fun _ _ => SpelledByNumber.ascii) ?_
  rintro _ _ (_ | _) <;> exact wellFormed_encode _

theorem Reference.Named.asciiOnly : rule.AsciiOnly := by
  refine Reference.asciiOnly rule_decides (fun _ _ => SpelledByName.ascii) ?_
  rintro _ _ ⟨⟩
  exact wellFormed_encodeAll _

theorem Space.asciiOnly_collapseRule {separator : Byte} (ascii : separator.isAscii) :
    (collapseRule separator).AsciiOnly := by
  refine ⟨passesBytes_collapseRule separator, fun b rest more written replace => ?_⟩
  cases collapses replace with
  | run space inside =>
    rw [List.take_left]
    exact ⟨isAscii_of_isSpace space, fun c mem => isAscii_of_isSpace (inside c mem),
      wellFormed_of_ascii (List.forall_mem_singleton.2 ascii)⟩

/-! ### Folding -/

theorem Fold.byCharacters : rule.ByCharacters WellFormed where
  keeps := by
    intro b rest more ascii keep
    rw [rule, if_pos ascii] at keep
    split_ifs at keep
    cases keep
    exact List.forall_mem_nil _
  replaces := by
    intro b rest more written ascii replace
    obtain ⟨c, size, folded, read, -, rfl, rfl⟩ := rule_replace replace
    have alone := front_encode (encode_of_isAscii ascii) rest
    rw [List.nil_append, read] at alone
    cases alone
    exact ⟨List.forall_mem_nil _, wellFormed_encodeAll folded⟩
  high := by
    intro c rest _
    exact ⟨encodeAll (foldChar c), output_encode c rest, wellFormed_encodeAll _⟩

/-! ### Showing white space -/

namespace Space

theorem isAscii_of_name? {b : Byte} {name : Bytes} (h : name? b = some name) :
    ∀ c ∈ name, c.isAscii := by
  unfold name? at h
  split_ifs at h <;> cases h <;> exact List.all_eq_true.1 rfl

theorem name?_eq_none {b : Byte} (high : ¬ b.isAscii) : name? b = none := by
  have ne : ∀ {c : Byte}, c.isAscii → b ≠ c := fun ascii same => high (same ▸ ascii)
  rw [name?, if_neg (ne rfl), if_neg (ne rfl), if_neg (ne rfl), if_neg (ne rfl),
    if_neg (ne rfl), if_neg (ne rfl)]

/-- A character whose bytes begin as those of the replacement character is that character. -/
theorem eq_of_isPrefixOf {c : Char} {rest : Bytes}
    (h : (encode replacement).isPrefixOf (encode c ++ rest)) : c = replacement := by
  obtain ⟨behind, same⟩ := List.isPrefixOf_iff_prefix.1 h
  obtain ⟨b, following, encoded, -⟩ := encode_eq c
  obtain ⟨d, others, written, -⟩ := encode_eq replacement
  rw [encoded, written, List.cons_append, List.cons_append] at same
  obtain ⟨rfl, later⟩ := List.cons.inj same
  have read := front_encode encoded rest
  rw [← later, front_encode written] at read
  exact (Front.character.inj read).1.symm

theorem visibleRule_eq (b : Byte) (rest : Bytes) (high : ¬ b.isAscii) :
    visibleRule b rest = if (encode replacement).isPrefixOf (b :: rest) then
      .replace 2 (utf8 "[U+FFFD]") else .keep 0 := by
  rw [visibleRule, name?_eq_none high]

/-- No byte that continues a sequence is the first one of the replacement character. -/
theorem visibleRule_of_isContinuation {b : Byte} (high : ¬ b.isAscii) (continues : b.isContinuation)
    (rest : Bytes) : visibleRule b rest = .keep 0 := by
  have other : b ≠ 0xEF := by
    rintro rfl
    cases continues
  rw [visibleRule_eq b rest high, if_neg]
  intro begins
  obtain ⟨_, same⟩ := List.isPrefixOf_iff_prefix.1 begins
  exact other (List.cons.inj same).1.symm

theorem byCharacters_visibleRule : visibleRule.ByCharacters WellFormed where
  keeps := by
    intro b rest more _ keep
    unfold visibleRule at keep
    split at keep
    · cases keep
    · split_ifs at keep
      cases keep
      exact List.forall_mem_nil _
  replaces := by
    intro b rest more written ascii replace
    unfold visibleRule at replace
    split at replace
    · next name known =>
      cases replace
      exact ⟨List.forall_mem_nil _, wellFormed_of_ascii (isAscii_of_name? known)⟩
    · split_ifs at replace with begins
      obtain ⟨_, same⟩ := List.isPrefixOf_iff_prefix.1 begins
      obtain ⟨rfl, -⟩ := List.cons.inj same
      exact absurd ascii (by decide)
  high := by
    intro c rest high
    obtain ⟨b, following, encoded, -, continues⟩ := encode_eq c
    obtain ⟨first, others⟩ := List.forall_mem_cons.1 (encoded ▸ high)
    have decided := visibleRule_eq b (following ++ rest) first
    rw [← List.cons_append, ← encoded] at decided
    by_cases begins : (encode replacement).isPrefixOf (encode c ++ rest)
    · obtain rfl := eq_of_isPrefixOf begins
      have size : following.length = 2 := Nat.succ.inj (congrArg List.length encoded).symm
      rw [if_pos begins] at decided
      refine ⟨utf8 "[U+FFFD]", ?_, wellFormed_of_ascii (List.all_eq_true.1 rfl)⟩
      rw [encoded, List.cons_append, Rule.output_of_replace decided, List.drop_left' size]
    · refine ⟨encode c, ?_, wellFormed_encode c⟩
      rw [if_neg begins] at decided
      have passed := Rule.output_append_of_keeps
        (fun d mem => visibleRule_of_isContinuation (others d mem) (continues d mem)) rest
      rw [encoded, List.cons_append, Rule.output_of_keep decided, List.take_zero, List.drop_zero,
        passed]
      rfl

end Space

/-! ### Escaping -/

namespace Percent

/-- A character that is not ASCII is escaped as a whole, since it is as long as its first byte
announces. -/
theorem rule_encode {c : Char} {b : Byte} {following : Bytes}
    (encoded : encode c = b :: following) (high : ¬ b.isAscii) (rest : Bytes) :
    rule b (following ++ rest) =
      .replace following.length ((b :: following).flatMap escapeByte) := by
  obtain ⟨lead, behind, shape, announces, -⟩ := encode_eq c
  rw [encoded] at shape
  obtain ⟨rfl, rfl⟩ := List.cons.inj shape
  have reserved : ¬ b.isUrlSafe := fun safe => high (Byte.isAscii_of_isUrlSafe safe)
  have other : ¬ (b = Byte.percent ∧ startsWithHexPair (following ++ rest)) := by
    rintro ⟨rfl, -⟩
    exact high (by decide)
  have whole : completion (following.length + 1) (following ++ rest) = following := by
    rw [completion, Nat.add_sub_cancel, List.take_left, if_pos rfl]
  rw [rule, if_neg reserved, if_neg other, announces]
  simp only [whole]

theorem byCharacters : rule.ByCharacters fun text => ∀ b ∈ text, b.isAscii where
  keeps := by
    intro b rest more ascii keep
    cases rule_decides keep with
    | safe => exact List.forall_mem_nil _
    | octet isHigh isLow =>
      simp only [List.take_succ_cons, List.take_zero, List.forall_mem_cons]
      exact ⟨Byte.isAscii_of_isHexDigit isHigh, Byte.isAscii_of_isHexDigit isLow,
        List.forall_mem_nil _⟩
    | stray => exact List.forall_mem_nil _
  replaces := by
    intro b rest more written ascii replace
    cases rule_decides replace with
    | @sequence _ following rest length _ _ announced short =>
      rw [Byte.sequenceLength_of_isAscii ascii] at announced
      cases announced
      obtain rfl : following = [] := List.length_eq_zero_iff.1 (Nat.lt_one_iff.1 short)
      exact ⟨List.forall_mem_nil _, isAscii_flatMap_escapeByte _⟩
  high := by
    intro c rest high
    obtain ⟨b, following, encoded, -⟩ := encode_eq c
    have decided := rule_encode encoded (high b (encoded ▸ List.mem_cons_self)) rest
    refine ⟨_, ?_, isAscii_flatMap_escapeByte (b :: following)⟩
    rw [encoded, List.cons_append, Rule.output_of_replace decided, List.drop_left]

theorem isAscii_output {text : Bytes} (h : WellFormed text) : ∀ b ∈ rule.output text, b.isAscii :=
  byCharacters.output (fun _ ascii => ascii)
    (fun _ _ ascii others => List.forall_mem_append.2 ⟨ascii, others⟩) h

end Percent

/-! ### Trimming -/

namespace Space

variable {text : Bytes}

theorem wellFormed_trimLeft (h : WellFormed text) : WellFormed (trimLeft text) := by
  obtain ⟨front, cut, inside⟩ := trimLeftOf_cut trimmed text
  rw [cut] at h
  exact h.right_of_ascii fun b mem => isAscii_of_mem_trimmed (inside b mem)

theorem wellFormed_trimRight (h : WellFormed text) : WellFormed (trimRight text) := by
  obtain ⟨behind, cut, inside⟩ := trimRightOf_cut trimmed text
  rw [cut] at h
  exact h.left_of_ascii fun b mem => isAscii_of_mem_trimmed (inside b mem)

end Space

/-! ### Transforms that are not a single pass -/

theorem Reference.wellFormed_resolve {text : Bytes} (h : WellFormed text) :
    WellFormed (resolve text).bytes := by
  unfold resolve Numeric.resolve Named.resolve Backslash.unescape
  rw [Rule.bytes_andThen_replaceAll, Rule.bytes_andThen_replaceAll, Rule.bytes_replaceAll]
  have unescaped := Backslash.asciiOnly.wellFormed h
  have numbers := Numeric.asciiOnly.wellFormed unescaped
  exact Named.asciiOnly.wellFormed numbers

theorem Link.Label.wellFormed_key {label : Bytes} (h : WellFormed label) :
    WellFormed (key label) := by
  unfold key Fold.fold Space.collapse
  rw [Rule.bytes_replaceAll, Rule.bytes_replaceAll]
  have trimmed := Space.wellFormed_trimRight (Space.wellFormed_trimLeft h)
  have folded := Fold.byCharacters.wellFormed trimmed
  exact (Space.asciiOnly_collapseRule (by decide)).wellFormed folded

theorem Percent.isAscii_escape (resolves : Bool) {text : Bytes} (h : WellFormed text) :
    ∀ b ∈ (escape resolves text).bytes, b.isAscii := by
  rw [bytes_escape]
  apply isAscii_output
  cases resolves with
  | false => exact h
  | true => exact Reference.wellFormed_resolve h

/-- Every transform of a well-formed text gives a well-formed one, and a URL comes out as ASCII. -/
theorem wellFormed_transforms {text : Bytes} (h : WellFormed text) :
    WellFormed (Html.escape text).bytes ∧
    WellFormed (Backslash.unescape text).bytes ∧
    WellFormed (Reference.Numeric.resolve text).bytes ∧
    WellFormed (Reference.Named.resolve text).bytes ∧
    WellFormed (Reference.resolve text).bytes ∧
    WellFormed (Fold.fold text).bytes ∧
    WellFormed (Link.Label.key text) ∧
    (∀ separator : Byte, separator < 0x80 → WellFormed (Space.collapse separator text).bytes) ∧
    WellFormed (Space.trimLeft text) ∧
    WellFormed (Space.trimRight text) ∧
    WellFormed (Space.visible text) ∧
    ∀ resolves, ∀ b ∈ (Percent.escape resolves text).bytes, b < 0x80 := by
  unfold Html.escape Backslash.unescape Reference.Numeric.resolve Reference.Named.resolve Fold.fold
    Space.collapse Space.visible
  simp only [Rule.bytes_replaceAll]
  refine ⟨Html.asciiOnly.wellFormed h, Backslash.asciiOnly.wellFormed h,
    Reference.Numeric.asciiOnly.wellFormed h, Reference.Named.asciiOnly.wellFormed h,
    Reference.wellFormed_resolve h, Fold.byCharacters.wellFormed h, Link.Label.wellFormed_key h,
    fun separator ascii => ?_, Space.wellFormed_trimLeft h, Space.wellFormed_trimRight h,
    Space.byCharacters_visibleRule.wellFormed h, fun resolves b mem => ?_⟩
  · exact (Space.asciiOnly_collapseRule (decide_eq_true ascii)).wellFormed h
  · exact of_decide_eq_true (Percent.isAscii_escape resolves h b mem)

/-- Characters of one, two and three bytes, with references to others, a replacement character and
white space at both ends. -/
theorem wellFormed_transforms_mixed :
    let text := utf8 "\tÖ&euml;\\*&#8364; \uFFFD\n"
    WellFormed text ∧ WellFormed (Link.Label.key text) ∧
      WellFormed (Space.collapse Byte.hyphen text).bytes ∧ WellFormed (Space.visible text) ∧
      0x46 ∈ (Percent.escape true text).bytes ∧ (0x46 : Byte) < 0x80 := by
  intro text
  have wellFormed : WellFormed text :=
    ⟨"\tÖ&euml;\\*&#8364; \uFFFD\n".toList, by decide +kernel⟩
  obtain ⟨-, -, -, -, -, -, key, collapse, -, -, visible, ascii⟩ := wellFormed_transforms wellFormed
  have digit : 0x46 ∈ (Percent.escape true text).bytes := by decide +kernel
  exact ⟨wellFormed, key, collapse Byte.hyphen (by decide), visible, digit, ascii true _ digit⟩

end MarkupText
