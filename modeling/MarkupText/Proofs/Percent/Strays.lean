import MarkupText.Transform
import MarkupText.Proofs.Percent.Escaped
import MarkupText.Proofs.Replacement.Pass

/-!
# What the reports of escaping tell

A byte that can lead no sequence is escaped where a lead byte before it takes it along, and is left
as it is and reported where it is met in front. Since all else that is put out is ASCII, the bytes
that are reported and those of the result that are not ASCII are the same in the same order
(`map_byte_stops`, `events_escapeUrl`).
-/

set_option autoImplicit false

namespace MarkupText.Percent

/-! ### Where reports come from -/

/-- The report on a place at which the rule was asked, if there is one. -/
def stray? (stop : Nat × Byte) : Option Stray :=
  if stop.2.sequenceLength?.isNone then some ⟨stop.1, stop.2⟩ else none

theorem strays_eq (text : Bytes) : strays text = (rule.stops 0 text).filterMap stray? := rfl

theorem stray?_eq_some_iff {stop : Nat × Byte} {stray : Stray} :
    stray? stop = some stray ↔
      stop = (stray.offset, stray.byte) ∧ stray.byte.sequenceLength? = none := by
  unfold stray?
  constructor
  · intro found
    split_ifs at found with none
    cases found
    exact ⟨rfl, Option.isNone_iff_eq_none.1 none⟩
  · rintro ⟨rfl, none⟩
    rw [if_pos (Option.isNone_iff_eq_none.2 none)]

theorem stray?_of_announced {length : Nat} {b : Byte} (h : b.sequenceLength? = some length)
    (offset : Nat) : stray? (offset, b) = none := by
  rw [stray?, if_neg]
  simp [h]

/-- Whatever is reported stands in the text where the report says, and leads no sequence. -/
theorem read_of_mem_strays {text : Bytes} {stray : Stray} (mem : stray ∈ strays text) :
    text[stray.offset]? = some stray.byte ∧ stray.byte.sequenceLength? = none := by
  rw [strays_eq] at mem
  obtain ⟨stop, asked, found⟩ := List.mem_filterMap.1 mem
  obtain ⟨rfl, none⟩ := stray?_eq_some_iff.1 found
  obtain ⟨index, same, read⟩ := Rule.read_of_mem_stops asked
  rw [same, Nat.zero_add]
  exact ⟨read, none⟩

theorem pairwise_offset_strays (text : Bytes) :
    ((strays text).map Stray.offset).Pairwise (· < ·) := by
  rw [strays_eq, List.pairwise_map, List.pairwise_filterMap]
  refine (Rule.pairwise_stops 0 text).imp fun before stray found later behind => ?_
  obtain ⟨rfl, -⟩ := stray?_eq_some_iff.1 found
  obtain ⟨rfl, -⟩ := stray?_eq_some_iff.1 behind
  exact before

/-! ### Which bytes are reported -/

/-- The bytes of a text that are not ASCII. -/
def highBytes (text : Bytes) : Bytes := text.filter fun b => !b.isAscii

theorem highBytes_append (front rest : Bytes) :
    highBytes (front ++ rest) = highBytes front ++ highBytes rest := List.filter_append ..

theorem highBytes_eq_nil_iff {text : Bytes} : highBytes text = [] ↔ ∀ b ∈ text, b.isAscii := by
  simp [highBytes]

theorem highBytes_cons_of_not_isAscii {b : Byte} (high : ¬ b.isAscii) (rest : Bytes) :
    highBytes (b :: rest) = b :: highBytes rest := by
  simp [highBytes, high]

theorem not_isAscii_of_stray {b : Byte} (h : b.sequenceLength? = none) : ¬ b.isAscii := by
  intro ascii
  rw [Byte.sequenceLength_of_isAscii ascii] at h
  cases h

/-- Reports and bytes that are not ASCII stay the same behind a place at which nothing is reported
and ASCII alone is put out. -/
theorem map_byte_cons {offset : Nat} {b : Byte} {later : List (Nat × Byte)} {written rest : Bytes}
    (unreported : stray? (offset, b) = none) (ascii : ∀ c ∈ written, c.isAscii)
    (behind : (later.filterMap stray?).map Stray.byte = highBytes rest) :
    (((offset, b) :: later).filterMap stray?).map Stray.byte = highBytes (written ++ rest) := by
  rw [List.filterMap_cons_none unreported, highBytes_append, highBytes_eq_nil_iff.2 ascii, behind,
    List.nil_append]

/-- What is reported from one place on are the bytes that are not ASCII in what is put out from
there on. -/
theorem map_byte_stops (offset : Nat) (text : Bytes) :
    ((rule.stops offset text).filterMap stray?).map Stray.byte = highBytes (rule.output text) := by
  induction text using Rule.pieces.induct rule generalizing offset with
  | case1 =>
    rw [Rule.stops_nil, Rule.output_nil]
    rfl
  | case2 b rest more keep ih =>
    rw [Rule.stops_of_keep keep, Rule.output_of_keep keep]
    cases rule_decides keep with
    | safe safe =>
      have ascii := Byte.isAscii_of_isUrlSafe safe
      have announced := Byte.sequenceLength_of_isAscii ascii
      exact map_byte_cons (stray?_of_announced announced offset)
        (List.forall_mem_singleton.2 ascii) (ih _)
    | octet isHigh isLow =>
      refine map_byte_cons rfl ?_ (ih _)
      simp only [List.take_succ_cons, List.take_zero, List.forall_mem_cons]
      exact ⟨rfl, Byte.isAscii_of_isHexDigit isHigh, Byte.isAscii_of_isHexDigit isLow,
        List.forall_mem_nil _⟩
    | stray stray =>
      -- the one place at which something is reported, and also the one where no ASCII is put out
      have reported : stray? (offset, b) = some ⟨offset, b⟩ := stray?_eq_some_iff.2 ⟨rfl, stray⟩
      rw [List.filterMap_cons_some reported, List.map_cons, ih, List.take_zero, List.cons_append,
        highBytes_cons_of_not_isAscii (not_isAscii_of_stray stray), List.nil_append]
  | case3 b rest more written replace ih =>
    rw [Rule.stops_of_replace replace, Rule.output_of_replace replace]
    cases rule_decides replace with
    | sequence _ _ announced _ =>
      exact map_byte_cons (stray?_of_announced announced offset) (isAscii_flatMap_escapeByte _)
        (ih _)

theorem map_byte_strays (text : Bytes) :
    (strays text).map Stray.byte = highBytes (rule.output text) := map_byte_stops 0 text

/-- What is reported of escaping a destination are the bytes that were left in it although no URL
may hold them, from left to right, each with the place at which it stands in the text that was
escaped. So the result is ASCII exactly if nothing is reported. -/
theorem events_escapeUrl (resolves : Bool) (text : Bytes) :
    let source := (destination resolves text).bytes
    let out := (escape resolves text).bytes
    let events := (Transform.escapeUrl resolves).events text
    ∃ kept : List Stray, events = kept.map .strayKept ∧
      (kept.map Stray.offset).Pairwise (· < ·) ∧
      (∀ stray ∈ kept,
        source[stray.offset]? = some stray.byte ∧ stray.byte.sequenceLength? = none) ∧
      kept.map Stray.byte = highBytes out ∧
      ((∀ b ∈ out, b.isAscii) ↔ events = []) := by
  intro source out events
  have bytes : (strays source).map Stray.byte = highBytes out := by
    rw [map_byte_strays, show out = rule.output source from bytes_escape resolves text]
  refine ⟨strays source, rfl, pairwise_offset_strays source, fun stray => read_of_mem_strays,
    bytes, ?_⟩
  calc (∀ b ∈ out, b.isAscii) ↔ highBytes out = [] := highBytes_eq_nil_iff.symm
    _ ↔ strays source = [] := by rw [← bytes, List.map_eq_nil_iff]
    _ ↔ events = [] := List.map_eq_nil_iff.symm

end MarkupText.Percent
