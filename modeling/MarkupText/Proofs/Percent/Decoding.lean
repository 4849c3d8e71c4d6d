import MarkupText.Percent
import MarkupText.Proofs.Percent.Escaped
import MarkupText.Proofs.Utf8.Encode

/-!
# What an escaped text denotes

Escaping works on sequences and decoding on single bytes. The two stay in step as long as no
percent sign stands where a lead byte announces a continuation (`SignsApart`), and then a text and
its escaped form denote the same bytes (`decode_escape`).
-/

set_option autoImplicit false

namespace MarkupText.Percent

/-! ### Decoding token by token -/

theorem decode_cons {b : Byte} {rest : Bytes} (h : b = Byte.percent → ¬ startsWithHexPair rest) :
    decode (b :: rest) = b :: decode rest := by
  match rest with
  | [] => rfl
  | [_] => rfl
  | high :: low :: rest =>
    rw [decode, if_neg]
    rintro ⟨sign, isHigh, isLow⟩
    exact h sign (startsWithHexPair_iff.2 ⟨high, low, rest, rfl, isHigh, isLow⟩)

theorem decode_octet {high low : Byte} (isHigh : high.isHexDigit) (isLow : low.isHexDigit)
    (rest : Bytes) :
    decode (Byte.percent :: high :: low :: rest) =
      (high.digitValue * 16 + low.digitValue).toUInt8 :: decode rest := by
  rw [decode, if_pos ⟨rfl, isHigh, isLow⟩]

theorem decode_append {span : Bytes} (h : Byte.percent ∉ span) (rest : Bytes) :
    decode (span ++ rest) = span ++ decode rest := by
  induction span with
  | nil => rfl
  | cons b span ih =>
    obtain ⟨ne, others⟩ := not_or.1 (mt List.mem_cons.2 h)
    rw [List.cons_append, decode_cons fun sign => absurd sign.symm ne, ih others, List.cons_append]

/-- A byte is read back however it was written. -/
theorem decode_escapeByte (b : Byte) (rest : Bytes) :
    decode (escapeByte b ++ rest) = b :: decode rest := by
  unfold escapeByte
  split_ifs with unreserved
  · refine decode_cons fun sign => ?_
    subst sign
    exact absurd unreserved (by decide)
  · obtain ⟨high, low, digits, isHigh, isLow, value⟩ := octet_eq b
    rw [digits, List.cons_append, List.cons_append, List.cons_append, List.nil_append,
      decode_octet isHigh isLow, value, Nat.toUInt8, UInt8.ofNat_toNat]

theorem decode_flatMap_escapeByte (span rest : Bytes) :
    decode (span.flatMap escapeByte ++ rest) = span ++ decode rest := by
  induction span with
  | nil => rfl
  | cons b span ih =>
    rw [List.flatMap_cons, List.append_assoc, decode_escapeByte, ih, List.cons_append]

/-! ### Percent signs and sequences -/

/-- Whether no percent sign stands among the bytes that a lead byte announces. -/
def SignsApart (text : Bytes) : Prop :=
  ∀ index b length, text[index]? = some b → b.sequenceLength? = some length →
    ∀ more, 0 < more → more < length → text[index + more]? ≠ some Byte.percent

theorem SignsApart.right {front rest : Bytes} (h : SignsApart (front ++ rest)) :
    SignsApart rest := by
  intro index b length read announced more pos short
  have at_rest : ∀ i, (front ++ rest)[front.length + i]? = rest[i]? := fun i => by
    rw [List.getElem?_append_right (Nat.le_add_right _ _), Nat.add_sub_cancel_left]
  rw [← at_rest, ← Nat.add_assoc]
  exact h (front.length + index) b length ((at_rest index).trans read) announced more pos short

theorem SignsApart.suffix {text rest : Bytes} (h : SignsApart text) (suffix : rest <:+ text) :
    SignsApart rest := by
  obtain ⟨front, rfl⟩ := suffix
  exact h.right

/-- What is escaped together with a lead byte holds no percent sign. -/
theorem SignsApart.not_mem {b : Byte} {following rest : Bytes} {length : Nat}
    (h : SignsApart (b :: (following ++ rest))) (announced : b.sequenceLength? = some length)
    (short : following.length < length) : Byte.percent ∉ following := by
  intro mem
  obtain ⟨index, bound, read⟩ := List.mem_iff_getElem.1 mem
  refine h 0 b length rfl announced (index + 1) (Nat.succ_pos _) (by omega) ?_
  rw [Nat.zero_add, List.getElem?_cons_succ, List.getElem?_append_left bound,
    List.getElem?_eq_getElem bound, read]

/-- A text without percent signs has none in a sequence. -/
theorem signsApart_of_not_mem {text : Bytes} (h : Byte.percent ∉ text) : SignsApart text :=
  fun _ _ _ _ _ _ _ _ read => h (List.mem_of_getElem? read)

/-- The characters of a well-formed text are the sequences in it, so all that a lead byte announces
are continuation bytes. -/
theorem signsApart_encodeAll (cs : List Char) : SignsApart (Utf8.encodeAll cs) := by
  induction cs with
  | nil => exact signsApart_of_not_mem List.not_mem_nil
  | cons c cs ih =>
    obtain ⟨lead, following, encoded, announces, continues⟩ := Utf8.encode_eq c
    rw [Utf8.encodeAll, List.flatMap_cons, encoded, ← Utf8.encodeAll]
    intro index b length read announced more pos short
    rcases index with _ | index
    · -- the lead byte of the first character
      cases read
      rw [announces] at announced
      cases announced
      intro sign
      rw [Nat.zero_add, ← Nat.sub_add_cancel pos, List.cons_append, List.getElem?_cons_succ,
        List.getElem?_append_left (by omega)] at sign
      exact absurd (continues _ (List.mem_of_getElem? sign)) (by decide)
    · rw [List.cons_append, List.getElem?_cons_succ] at read
      rw [List.cons_append, Nat.add_right_comm, List.getElem?_cons_succ]
      rcases Nat.lt_or_ge index following.length with inside | behind
      · -- a continuation byte, which announces nothing
        rw [List.getElem?_append_left inside] at read
        have none := Utf8.sequenceLength_of_isContinuation (continues b (List.mem_of_getElem? read))
        rw [none] at announced
        cases announced
      · rw [List.getElem?_append_right behind] at read
        rw [List.getElem?_append_right (by omega), Nat.sub_add_comm behind]
        exact ih _ b length read announced more pos short

theorem signsApart_of_wellFormed {text : Bytes} (h : Utf8.WellFormed text) : SignsApart text := by
  obtain ⟨cs, rfl⟩ := h
  exact signsApart_encodeAll cs

/-! ### Escaping and decoding -/

theorem decode_output {text : Bytes} (apart : SignsApart text) :
    decode (rule.output text) = decode text := by
  induction text using Rule.pieces.induct rule with
  | case1 => rw [Rule.output_nil]
  | case2 b rest more h ih =>
    rw [Rule.output_of_keep h]
    have ahead := ih (apart.suffix ((List.drop_suffix more rest).trans (List.suffix_cons b rest)))
    cases rule_decides h with
    | safe safe =>
      have ne : b ≠ Byte.percent := by
        rintro rfl
        exact absurd safe Byte.not_isUrlSafe_percent
      rw [decode_cons fun sign => absurd sign ne]
      exact (decode_cons fun sign => absurd sign ne).trans (congrArg (b :: ·) ahead)
    | @octet high low rest isHigh isLow =>
      rw [decode_octet isHigh isLow]
      exact (decode_octet isHigh isLow _).trans (congrArg (_ :: ·) ahead)
    | stray stray =>
      have ne : b ≠ Byte.percent := by
        rintro rfl
        cases stray
      rw [decode_cons fun sign => absurd sign ne]
      exact (decode_cons fun sign => absurd sign ne).trans (congrArg (b :: ·) ahead)
  | case3 b rest more written h ih =>
    rw [Rule.output_of_replace h]
    have ahead := ih (apart.suffix ((List.drop_suffix more rest).trans (List.suffix_cons b rest)))
    cases rule_decides h with
    | @sequence b following rest length _ alone announced short =>
      rw [List.drop_left] at ahead ⊢
      rw [decode_flatMap_escapeByte, ahead, decode_cons alone,
        decode_append (apart.not_mem announced short), List.cons_append]

/-- Escaping a text whose percent signs stand apart from its sequences does not change what it
denotes. All well-formed texts are of this kind, and so are all texts without percent signs. -/
theorem decode_escape (text : Bytes) :
    (SignsApart text → decode (escape false text).bytes = decode text) ∧
    (Utf8.WellFormed text → SignsApart text) ∧
    (Byte.percent ∉ text → SignsApart text) := by
  refine ⟨fun apart => ?_, signsApart_of_wellFormed, signsApart_of_not_mem⟩
  rw [bytes_escape]
  exact decode_output apart

/-- A well-formed text with signs of every kind, and a broken one without any. -/
theorem decode_escape_mixed :
    let text := utf8 "ö%zz%C3%B6 100%"
    let broken : Bytes := [0xE2, 0x41, 0x20, 0xF0, 0x80]
    decode (escape false text).bytes = decode text ∧
      decode (escape false broken).bytes = decode broken := by
  intro text broken
  have wellFormed : Utf8.WellFormed text :=
    ⟨"ö%zz%C3%B6 100%".toList, by decide +kernel⟩
  have noSign : Byte.percent ∉ broken := by decide
  have first := decode_escape text
  have second := decode_escape broken
  exact ⟨first.1 (first.2.1 wellFormed), second.1 (second.2.2 noSign)⟩

end MarkupText.Percent
