import MarkupText.Reference.Spelling
import MarkupText.Proofs.Reference.Numeral
import MarkupText.Proofs.Utf8.Front

/-!
# Two passes in one

The pass for named references reads what the pass for numeric ones has written. That makes a
difference only where a numeric reference stands for a character that can be a part of a named one
(`joinsNames`). In a text without such references (`Apart`) what the second pass finds was there
from the start (`of_output_eq_append`), and the two passes are a single one that never looks at its
own output (`passes_eq_resolveOnce`).
-/

set_option autoImplicit false

namespace MarkupText.Reference

/-- Whether a character can be a part of a named reference. -/
def joinsNames (c : Char) : Bool := c.isAlphanum || c == '&' || c == ';'

/-- Whether no numeric reference in a text stands for a part of a named one. -/
def Apart (text : Bytes) : Prop :=
  ∀ factor c, SpelledByNumber factor (Utf8.encode c) → factor <:+: text → ¬ joinsNames c

/-- A byte of a named reference. -/
def isPart (b : Byte) : Bool := b.isAlphanumeric || b == Byte.ampersand || b == Byte.semicolon

theorem isAscii_of_isPart {b : Byte} (h : isPart b) : b.isAscii := by
  simp only [isPart, Bool.or_eq_true, beq_iff_eq] at h
  rcases h with (inside | rfl) | rfl
  · exact Byte.isAscii_of_isAlphanumeric inside
  · rfl
  · rfl

/-- Only such characters have bytes of named references in them. -/
theorem not_isPart_of_mem_encode {c : Char} (h : ¬ joinsNames c) :
    ∀ b ∈ Utf8.encode c, ¬ isPart b := by
  intro b mem part
  rcases Utf8.encode_ascii_or_high c with ⟨d, encoded, -, number⟩ | ⟨-, high⟩
  · have joins : ∀ b : Byte, isPart b → joinsNames (Char.ofNat b.toNat) := by decide +kernel
    rw [encoded, List.mem_singleton] at mem
    have back := joins b part
    rw [mem, number, Char.ofNat_toNat] at back
    exact h back
  · exact high b mem (isAscii_of_isPart part)

theorem isPart_of_mem_spelled {factor meaning : Bytes} (h : SpelledByName factor meaning) :
    ∀ b ∈ factor, isPart b := by
  have front : ∀ b ∈ utf8 "&", isPart b := List.all_eq_true.1 rfl
  have last : ∀ b ∈ utf8 ";", isPart b := List.all_eq_true.1 rfl
  cases h with
  | row name numbers mem =>
    have inside : ∀ b ∈ utf8 name, isPart b := by
      intro b within
      rw [isPart, (Names.sound_of_mem mem).alphanumeric b within]
      rfl
    simp only [List.forall_mem_append]
    exact ⟨⟨front, inside⟩, last⟩

/-! ### Texts without parts of names -/

/-- The character of the numeric reference at the front of a text. -/
def numbered? : Bytes → Option Char
  | [] => none
  | b :: rest => (Numeric.match? b rest).map Prod.fst

theorem numbered?_of_spelled {factor : Bytes} {c : Char}
    (h : SpelledByNumber factor (Utf8.encode c)) (rest : Bytes) :
    numbered? (factor ++ rest) = some c := by
  obtain ⟨more, d, rfl, same, found⟩ := Numeric.digits?_complete h
  rw [Utf8.encode_injective same]
  simp [numbered?, Numeric.match?, found]

theorem spelled_of_numbered? {text : Bytes} {c : Char} (h : numbered? text = some c) :
    ∃ factor, SpelledByNumber factor (Utf8.encode c) ∧ factor <+: text := by
  cases text with
  | nil => cases h
  | cons b rest =>
    obtain ⟨⟨d, more⟩, matched, rfl⟩ := Option.map_eq_some_iff.1 h
    obtain ⟨factor, behind, rfl, -, spelled⟩ :=
      spelled_of_replace Numeric.rule_decides (Numeric.rule_of_match matched)
    exact ⟨b :: factor, spelled, List.prefix_append (b :: factor) behind⟩

theorem Apart.suffix {text rest : Bytes} (apart : Apart text) (h : rest <:+ text) : Apart rest :=
  fun factor c spelled inside => apart factor c spelled (inside.trans h.isInfix)

theorem Apart.not_joinsNames {text : Bytes} {c : Char} (apart : Apart text)
    (h : numbered? text = some c) : ¬ joinsNames c := by
  obtain ⟨factor, spelled, front⟩ := spelled_of_numbered? h
  exact apart factor c spelled front.isInfix

theorem apart_iff {text : Bytes} :
    Apart text ↔ text.tails.all fun rest => (numbered? rest).all fun c => !joinsNames c := by
  simp only [List.all_eq_true, List.mem_tails, Option.all_eq_true, Bool.not_eq_true']
  constructor
  · intro apart rest suffix c numbered
    exact Bool.eq_false_iff.2 ((apart.suffix suffix).not_joinsNames numbered)
  · rintro none factor c spelled ⟨before, behind, rfl⟩
    have suffix : factor ++ behind <:+ before ++ factor ++ behind := by
      rw [List.append_assoc]
      exact List.suffix_append before _
    exact Bool.eq_false_iff.1 (none _ suffix c (numbered?_of_spelled spelled behind))

instance (text : Bytes) : Decidable (Apart text) := decidable_of_iff _ apart_iff.symm

/-! ### What the first pass leaves -/

/-- A part of a name that stands at the front once numeric references are resolved stood there
before. -/
theorem of_output_eq_cons {text rest : Bytes} {b : Byte} (apart : Apart text) (part : isPart b)
    (h : Numeric.rule.output text = b :: rest) :
    ∃ behind, text = b :: behind ∧ Numeric.rule.output behind = rest := by
  cases text with
  | nil =>
    rw [Rule.output_nil] at h
    cases h
  | cons d behind =>
    cases matched : Numeric.match? d behind with
    | none =>
      rw [Rule.output_of_keep (Numeric.rule_of_no_match matched)] at h
      obtain ⟨rfl, later⟩ := List.cons.inj h
      exact ⟨behind, rfl, later⟩
    | some found =>
      obtain ⟨c, more⟩ := found
      have other := apart.not_joinsNames (congrArg (Option.map Prod.fst) matched)
      obtain ⟨first, others, encoded⟩ := List.exists_cons_of_ne_nil (Utf8.encode_ne_nil c)
      rw [Rule.output_of_replace (Numeric.rule_of_match matched), encoded, List.cons_append] at h
      have mem : b ∈ Utf8.encode c := by
        rw [encoded, (List.cons.inj h).1]
        exact List.mem_cons_self
      exact absurd part (not_isPart_of_mem_encode other b mem)

theorem of_output_eq_append {text parts rest : Bytes} (apart : Apart text)
    (inside : ∀ b ∈ parts, isPart b) (h : Numeric.rule.output text = parts ++ rest) :
    ∃ behind, text = parts ++ behind ∧ Numeric.rule.output behind = rest := by
  induction parts generalizing text with
  | nil => exact ⟨text, rfl, h⟩
  | cons b parts ih =>
    obtain ⟨first, others⟩ := List.forall_mem_cons.1 inside
    obtain ⟨behind, rfl, later⟩ := of_output_eq_cons apart first h
    obtain ⟨ahead, rfl, output⟩ := ih (apart.suffix (List.suffix_cons b behind)) others later
    exact ⟨ahead, rfl, output⟩

/-! ### What the second pass makes of it -/

/-- What a numeric reference stands for is passed. -/
theorem output_encode_append {c : Char} (h : ¬ joinsNames c) (text : Bytes) :
    Named.rule.output (Utf8.encode c ++ text) = Utf8.encode c ++ Named.rule.output text := by
  apply Rule.output_append_of_keeps
  intro b mem rest
  apply Named.rule_keep
  rintro rfl
  exact not_isPart_of_mem_encode h _ mem (by decide)

/-- A named reference passes the first pass and is found by the second one. -/
theorem output_named_append {b : Byte} {more meaning : Bytes}
    (known : SpelledByName (b :: more) meaning) (rest : Bytes)
    (keep : Numeric.rule b (more ++ rest) = .keep 0) :
    Named.rule.output (Numeric.rule.output (b :: (more ++ rest))) =
      meaning ++ Named.rule.output (Numeric.rule.output rest) := by
  obtain ⟨_, shape, absent⟩ := Named.delimited.front known
  obtain ⟨rfl, rfl⟩ := List.cons.inj shape
  have passed : Numeric.rule.output (more ++ rest) = more ++ Numeric.rule.output rest := by
    apply Rule.output_append_of_keeps
    intro d mem behind
    apply Numeric.rule_keep
    rintro rfl
    exact absurd mem absent
  have found := rule_of_spelled Named.delimited Named.rule_decides known (Numeric.rule.output rest)
  rw [Rule.output_of_keep keep, List.take_zero, List.drop_zero, passed, List.singleton_append,
    Rule.output_of_replace found, List.drop_left]

/-- Where no named reference begins, none comes to begin. -/
theorem rule_keep_output {b : Byte} {rest : Bytes} (apart : Apart rest)
    (keep : Named.rule b rest = .keep 0) :
    Named.rule b (Numeric.rule.output rest) = .keep 0 := by
  apply rule_of_not_prefix Named.rule_decides
  intro factor meaning known begins
  obtain ⟨more, rfl, -⟩ := Named.delimited.front known
  obtain ⟨rfl, behind, cut⟩ := List.cons_prefix_cons.1 begins
  have parts := (List.forall_mem_cons.1 (isPart_of_mem_spelled known)).2
  obtain ⟨ahead, rfl, -⟩ := of_output_eq_append apart parts cut.symm
  rw [rule_of_spelled Named.delimited Named.rule_decides known] at keep
  cases keep

theorem output_output_eq_resolveOnce {text : Bytes} (apart : Apart text) :
    Named.rule.output (Numeric.rule.output text) = resolveOnce text := by
  induction text using resolveOnce.induct with
  | case1 => simp [resolveOnce]
  | case2 b rest c more matched ih =>
    have other := apart.not_joinsNames (congrArg (Option.map Prod.fst) matched)
    have suffix := (List.drop_suffix more rest).trans (List.suffix_cons b rest)
    rw [Rule.output_of_replace (Numeric.rule_of_match matched), output_encode_append other,
      ih (apart.suffix suffix)]
    simp only [resolveOnce, matched]
  | case3 b rest unnumbered characters more matched ih =>
    obtain ⟨factor, behind, rfl, rfl, known⟩ :=
      spelled_of_replace Named.rule_decides (Named.rule_of_match matched)
    have suffix := (List.suffix_append factor behind).trans (List.suffix_cons b _)
    rw [List.drop_left] at ih
    rw [output_named_append known behind (Numeric.rule_of_no_match unnumbered),
      ih (apart.suffix suffix)]
    simp only [resolveOnce, unnumbered, matched, List.drop_left]
  | case4 b rest unnumbered unnamed ih =>
    have ahead := apart.suffix (List.suffix_cons b rest)
    have keep := rule_keep_output ahead (Named.rule_of_no_match unnamed)
    rw [Rule.output_of_keep (Numeric.rule_of_no_match unnumbered), List.take_zero, List.drop_zero,
      List.singleton_append, Rule.output_of_keep keep, List.take_zero, List.drop_zero, ih ahead]
    simp only [resolveOnce, unnumbered, unnamed, List.singleton_append]

/-- What a single pass makes of a text is the text with the references of both kinds replaced. -/
theorem substituted_resolveOnce (text : Bytes) :
    Substituted
      (fun factor meaning => SpelledByNumber factor meaning ∨ SpelledByName factor meaning)
      text (resolveOnce text) := by
  induction text using resolveOnce.induct with
  | case1 =>
    rw [resolveOnce]
    exact .nil
  | case2 b rest c more matched ih =>
    obtain ⟨factor, behind, rfl, rfl, known⟩ :=
      spelled_of_replace Numeric.rule_decides (Numeric.rule_of_match matched)
    simp only [resolveOnce, matched]
    rw [List.drop_left] at ih ⊢
    exact .factor (.inl known) ih
  | case3 b rest unnumbered characters more matched ih =>
    obtain ⟨factor, behind, rfl, rfl, known⟩ :=
      spelled_of_replace Named.rule_decides (Named.rule_of_match matched)
    simp only [resolveOnce, unnumbered, matched]
    rw [List.drop_left] at ih ⊢
    exact .factor (.inr known) ih
  | case4 b rest unnumbered unnamed ih =>
    have number := Numeric.rule_decides (Numeric.rule_of_no_match unnumbered)
    have name := Named.rule_decides (Named.rule_of_no_match unnamed)
    simp only [resolveOnce, unnumbered, unnamed]
    apply Substituted.byte _ ih
    intro factor meaning known
    exact known.elim number.not_prefix name.not_prefix

/-- Where no numeric reference stands for a part of a named one, the two passes give what a single
one gives, and that is the text with every reference of either kind replaced. Elsewhere they can
differ: the second pass also reads the ampersand that the first one makes of `&#38;lt;`. -/
theorem passes_eq_resolveOnce {text : Bytes} (apart : Apart text) :
    (Named.resolve (Numeric.resolve text).bytes).bytes = resolveOnce text ∧
      Substituted
        (fun factor meaning => SpelledByNumber factor meaning ∨ SpelledByName factor meaning)
        text (resolveOnce text) := by
  refine ⟨?_, substituted_resolveOnce text⟩
  rw [Named.resolve, Numeric.resolve, Rule.bytes_replaceAll, Rule.bytes_replaceAll]
  exact output_output_eq_resolveOnce apart

/-- Numeric references inside of what looks like a named one, before a named one, and in front of
what looks like the rest of a numeric one. -/
theorem passes_eq_resolveOnce_mixed :
    let text := utf8 "&a&#9731;mp;&#60;&lt;&&#35;65;"
    Apart text ∧ (Named.resolve (Numeric.resolve text).bytes).bytes = resolveOnce text ∧
      resolveOnce text = utf8 "&a☃mp;<<&#65;" := by
  have apart : Apart (utf8 "&a&#9731;mp;&#60;&lt;&&#35;65;") := by decide +kernel
  have numbers : Numeric.rule.output (utf8 "&a&#9731;mp;&#60;&lt;&&#35;65;") =
      utf8 "&a☃mp;<" ++ (utf8 "&" ++ utf8 "lt" ++ utf8 ";") ++ utf8 "&#65;" := by decide +kernel
  have mem : ("lt", [0x3C]) ∈ Names.rows := by
    have small : ("lt", [0x3C]) ∈ Names.smallL := by decide
    unfold Names.rows
    simp only [List.mem_append, small, true_or, or_true]
  refine ⟨apart, (passes_eq_resolveOnce apart).1, ?_⟩
  rw [← output_output_eq_resolveOnce apart, numbers,
    output_append_spelled Named.delimited Named.rule_decides (.row "lt" [0x3C] mem)]
  decide +kernel

end MarkupText.Reference
