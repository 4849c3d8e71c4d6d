import Mathlib.Data.FinEnum
import MarkupText.Percent
import MarkupText.Proofs.Byte
import MarkupText.Proofs.Replacement.Pass

/-!
# What percent-escaping leaves

`Decides` lists the decisions of the escaping rule, and all else about it is read off there. What
comes out is made of three kinds of tokens: bytes that may stand in a URL, escapes, and bytes that
can lead no sequence (`escaped_output`). The rule passes each of them, so an escaped text is not
changed by escaping it again (`settled_escape`).
-/

set_option autoImplicit false

namespace MarkupText.Percent

/-! ### The rule, case by case -/

/-- What the rule decides at the front of a text. -/
inductive Decides : Byte → Bytes → Decision → Prop
  | safe {b : Byte} {rest : Bytes} : b.isUrlSafe → Decides b rest (.keep 0)
  | octet {high low : Byte} {rest : Bytes} :
      high.isHexDigit → low.isHexDigit → Decides Byte.percent (high :: low :: rest) (.keep 2)
  | stray {b : Byte} {rest : Bytes} : b.sequenceLength? = none → Decides b rest (.keep 0)
  | sequence {b : Byte} {following rest : Bytes} {length : Nat} :
      ¬ b.isUrlSafe → (b = Byte.percent → ¬ startsWithHexPair (following ++ rest)) →
      b.sequenceLength? = some length → following.length < length →
      Decides b (following ++ rest)
        (.replace following.length ((b :: following).flatMap escapeByte))

theorem sequenceLength_pos {b : Byte} {length : Nat} (h : b.sequenceLength? = some length) :
    0 < length := by
  unfold Byte.sequenceLength? at h
  split_ifs at h <;> cases h <;> decide

/-- What completes a sequence stands at the front of the text behind its lead byte. -/
theorem completion_prefix (length : Nat) (rest : Bytes) : completion length rest <+: rest := by
  unfold completion
  simp only
  split_ifs
  · exact List.take_prefix _ _
  · exact List.nil_prefix

theorem length_completion_lt {length : Nat} (pos : 0 < length) (rest : Bytes) :
    (completion length rest).length < length := by
  unfold completion
  simp only
  split_ifs with whole
  · rw [whole]
    exact Nat.sub_lt pos Nat.one_pos
  · exact pos

theorem startsWithHexPair_iff {text : Bytes} :
    startsWithHexPair text ↔
      ∃ high low rest, text = high :: low :: rest ∧ high.isHexDigit ∧ low.isHexDigit := by
  unfold startsWithHexPair
  split <;> simp_all

theorem rule_decides {b : Byte} {rest : Bytes} {decision : Decision} (h : rule b rest = decision) :
    Decides b rest decision := by
  subst h
  unfold rule
  split_ifs with safe escape
  · exact .safe safe
  · obtain ⟨rfl, pair⟩ := escape
    obtain ⟨high, low, rest, rfl, isHigh, isLow⟩ := startsWithHexPair_iff.1 pair
    exact .octet isHigh isLow
  · cases announced : b.sequenceLength? with
    | none => exact .stray announced
    | some length =>
      show Decides b rest (.replace (completion length rest).length
        ((b :: completion length rest).flatMap escapeByte))
      obtain ⟨behind, cut⟩ := completion_prefix length rest
      have short := length_completion_lt (sequenceLength_pos announced) rest
      generalize completion length rest = following at *
      subst cut
      exact .sequence safe (fun sign pair => escape ⟨sign, pair⟩) announced short

/-! ### Octets -/

/-- The digits of a byte are hexadecimal ones and spell its number. -/
theorem octet_eq (b : Byte) :
    ∃ high low, octet b = [Byte.percent, high, low] ∧ high.isHexDigit ∧ low.isHexDigit ∧
      high.digitValue * 16 + low.digitValue = b.toNat := by
  have digit : ∀ n < 16, (Byte.upperHex.getD n 0).isHexDigit ∧
      (Byte.upperHex.getD n 0).digitValue = n := by decide
  obtain ⟨isHigh, high⟩ := digit (b.toNat / 16) (by have := b.toNat_lt; omega)
  obtain ⟨isLow, low⟩ := digit (b.toNat % 16) (Nat.mod_lt _ (by decide))
  refine ⟨_, _, rfl, isHigh, isLow, ?_⟩
  rw [high, low]
  exact Nat.div_add_mod' _ _

theorem isUrlSafe_of_isUnreserved {b : Byte} (h : isUnreserved b) : b.isUrlSafe := by
  simp only [isUnreserved, Byte.isUrlSafe, Bool.or_eq_true] at h ⊢
  refine h.imp_right fun mark => ?_
  have marks : (utf8 "-_.~").all Byte.urlMarks.contains := rfl
  exact List.all_eq_true.1 marks b (List.contains_iff_mem.1 mark)

theorem isAscii_escapeByte (b : Byte) : ∀ c ∈ escapeByte b, c.isAscii := by
  unfold escapeByte
  split_ifs with unreserved
  · have safe := isUrlSafe_of_isUnreserved unreserved
    exact List.forall_mem_singleton.2 (Byte.isAscii_of_isUrlSafe safe)
  · obtain ⟨high, low, digits, isHigh, isLow, -⟩ := octet_eq b
    simp only [digits, List.forall_mem_cons]
    exact ⟨by decide, Byte.isAscii_of_isHexDigit isHigh, Byte.isAscii_of_isHexDigit isLow,
      List.forall_mem_nil _⟩

theorem isAscii_flatMap_escapeByte (span : Bytes) :
    ∀ c ∈ span.flatMap escapeByte, c.isAscii := by
  intro c mem
  obtain ⟨b, -, inside⟩ := List.mem_flatMap.1 mem
  exact isAscii_escapeByte b c inside

/-! ### Escaped texts -/

/-- The texts in which nothing is left to escape. -/
inductive Escaped : Bytes → Prop
  | nil : Escaped []
  | safe {b : Byte} {rest : Bytes} : b.isUrlSafe → Escaped rest → Escaped (b :: rest)
  | octet {high low : Byte} {rest : Bytes} :
      high.isHexDigit → low.isHexDigit → Escaped rest →
      Escaped (Byte.percent :: high :: low :: rest)
  | stray {b : Byte} {rest : Bytes} :
      b.sequenceLength? = none → Escaped rest → Escaped (b :: rest)

theorem Escaped.append {front rest : Bytes} (h : Escaped front) (hrest : Escaped rest) :
    Escaped (front ++ rest) := by
  induction h with
  | nil => exact hrest
  | safe safe _ ih => exact .safe safe ih
  | octet isHigh isLow _ ih => exact .octet isHigh isLow ih
  | stray stray _ ih => exact .stray stray ih

theorem escaped_escapeByte (b : Byte) : Escaped (escapeByte b) := by
  unfold escapeByte
  split_ifs with unreserved
  · exact .safe (isUrlSafe_of_isUnreserved unreserved) .nil
  · obtain ⟨high, low, digits, isHigh, isLow, -⟩ := octet_eq b
    rw [digits]
    exact .octet isHigh isLow .nil

theorem escaped_flatMap_escapeByte (span : Bytes) : Escaped (span.flatMap escapeByte) := by
  induction span with
  | nil => exact .nil
  | cons b rest ih =>
    rw [List.flatMap_cons]
    exact (escaped_escapeByte b).append ih

/-- Whatever the text, what comes out is made of tokens that stay. -/
theorem escaped_output (text : Bytes) : Escaped (rule.output text) := by
  induction text using Rule.pieces.induct rule with
  | case1 =>
    rw [Rule.output_nil]
    exact .nil
  | case2 b rest more h ih =>
    rw [Rule.output_of_keep h]
    cases rule_decides h with
    | safe safe => exact .safe safe ih
    | octet isHigh isLow => exact .octet isHigh isLow ih
    | stray stray => exact .stray stray ih
  | case3 b rest more written h ih =>
    rw [Rule.output_of_replace h]
    cases rule_decides h with
    | sequence => exact (escaped_flatMap_escapeByte _).append ih

theorem rule_safe {b : Byte} (safe : b.isUrlSafe) (rest : Bytes) : rule b rest = .keep 0 := by
  rw [rule, if_pos safe]

theorem rule_octet {high low : Byte} (isHigh : high.isHexDigit) (isLow : low.isHexDigit)
    (rest : Bytes) : rule Byte.percent (high :: low :: rest) = .keep 2 := by
  have pair : startsWithHexPair (high :: low :: rest) :=
    startsWithHexPair_iff.2 ⟨high, low, rest, rfl, isHigh, isLow⟩
  rw [rule, if_neg Byte.not_isUrlSafe_percent, if_pos ⟨rfl, pair⟩]

theorem rule_stray {b : Byte} (stray : b.sequenceLength? = none) (rest : Bytes) :
    rule b rest = .keep 0 := by
  generalize decided : rule b rest = decision
  cases rule_decides decided with
  | safe => rfl
  | octet => cases stray
  | stray => rfl
  | sequence _ _ announced => simp [announced] at stray

/-- The rule passes the tokens of an escaped text one by one. -/
theorem Escaped.not_replaces {text : Bytes} (h : Escaped text) : rule.replaces text = false := by
  induction h with
  | nil => exact Rule.replaces_nil
  | safe safe _ ih => rw [Rule.replaces_of_keep (rule_safe safe _)]; exact ih
  | octet isHigh isLow _ ih => rw [Rule.replaces_of_keep (rule_octet isHigh isLow _)]; exact ih
  | stray stray _ ih => rw [Rule.replaces_of_keep (rule_stray stray _)]; exact ih

/-- Whether the byte at an index of a text may stay: one that may stand in a URL, the percent sign
of an escape, or one that can lead no sequence. -/
def Stays (text : Bytes) (index : Nat) (b : Byte) : Prop :=
  b.isUrlSafe ∨
    (b = Byte.percent ∧ ∃ high low, text[index + 1]? = some high ∧ text[index + 2]? = some low ∧
      high.isHexDigit ∧ low.isHexDigit) ∨
    b.sequenceLength? = none

theorem Stays.cons {text : Bytes} {index : Nat} {b : Byte} (h : Stays text index b) (c : Byte) :
    Stays (c :: text) (index + 1) b := h

theorem Escaped.stays {text : Bytes} (h : Escaped text) :
    ∀ index b, text[index]? = some b → Stays text index b := by
  induction h with
  | nil => intro index b read; cases read
  | safe safe _ ih =>
    rintro (_ | index) b read
    · cases read
      exact .inl safe
    · exact (ih index b read).cons _
  | @octet high low rest isHigh isLow _ ih =>
    rintro (_ | _ | _ | index) b read
    · cases read
      exact .inr (.inl ⟨rfl, high, low, rfl, rfl, isHigh, isLow⟩)
    · cases read
      exact .inl (Byte.isUrlSafe_of_isHexDigit isHigh)
    · cases read
      exact .inl (Byte.isUrlSafe_of_isHexDigit isLow)
    · exact (((ih index b read).cons low).cons high).cons Byte.percent
  | stray stray _ ih =>
    rintro (_ | index) b read
    · cases read
      exact .inr (.inr stray)
    · exact (ih index b read).cons _

/-- The marks that end a URL or the attribute that holds it, or that no URL may hold. -/
def delimiters : Bytes := utf8 "\"<>[\\]^`\x7b|\x7d"

theorem Stays.harmless {text : Bytes} {index : Nat} {b : Byte} (h : Stays text index b) :
    Byte.space < b ∧ b ≠ 0x7F ∧ b ∉ delimiters := by
  have cases : ∀ c : Byte, c.isUrlSafe ∨ c = Byte.percent ∨ c.sequenceLength? = none →
      Byte.space < c ∧ c ≠ 0x7F ∧ c ∉ delimiters := by decide +kernel
  exact cases b (h.imp_right (Or.imp_left And.left))

theorem bytes_escape (resolves : Bool) (text : Bytes) :
    (escape resolves text).bytes = rule.output (destination resolves text).bytes :=
  Rule.bytes_andThen_replaceAll _

/-- Every byte of an escaped destination stays where it is for a reason of its own, so none of them
is a control, a space or a delimiter, and escaping what came out changes nothing and copies
nothing. -/
theorem settled_escape (resolves : Bool) (text : Bytes) :
    let out := (escape resolves text).bytes
    (∀ index b, out[index]? = some b → Stays out index b) ∧
    (∀ b ∈ out, Byte.space < b ∧ b ≠ 0x7F ∧ b ∉ delimiters) ∧
    escape false out = .shared out := by
  intro out
  have escaped : Escaped out := by
    rw [show out = _ from bytes_escape resolves text]
    exact escaped_output _
  refine ⟨escaped.stays, fun b mem => ?_, Rule.replaceAll_of_not_replaces escaped.not_replaces⟩
  obtain ⟨index, read⟩ := List.mem_iff_getElem?.1 mem
  exact (escaped.stays index b read).harmless

/-- A broken sequence with a percent sign in it, a reference to a space and a byte that leads no
sequence, all in one text. -/
theorem settled_escape_broken :
    let out := (escape true (0xE2 :: utf8 "%A&#32;" ++ [0x80])).bytes
    out[3]? = some Byte.percent ∧ Stays out 3 Byte.percent ∧
      0x80 ∈ out ∧ (0x80 : Byte) ∉ delimiters ∧ escape false out = .shared out := by
  have settled := settled_escape true (0xE2 :: utf8 "%A&#32;" ++ [0x80])
  have sign : (escape true (0xE2 :: utf8 "%A&#32;" ++ [0x80])).bytes[3]? = some Byte.percent := by
    decide +kernel
  have stray : 0x80 ∈ (escape true (0xE2 :: utf8 "%A&#32;" ++ [0x80])).bytes := by
    decide +kernel
  exact ⟨sign, settled.1 3 _ sign, stray, (settled.2.1 _ stray).2.2, settled.2.2⟩

end MarkupText.Percent
