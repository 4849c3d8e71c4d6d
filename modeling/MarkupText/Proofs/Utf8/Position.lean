import MarkupText.Proofs.Utf8.Reading

/-!
# The character at a position

Looking for the character at a position goes back to the nearest byte that is no continuation, at
most three bytes, and reads there. So what is reported stands there and has nothing but continuation
bytes behind its first one up to the position (`Reaches`). Every character that covers the position
is found in this way (`characterAt_append`). But the length of what was read is not looked at. So a
character is also reported at continuation bytes that stray behind its end (`Trails`), and there
alone something is reported that does not cover the position (`covers_iff_not_trails`).
-/

set_option autoImplicit false

namespace MarkupText.Utf8

variable {text : Bytes} {start position : Nat} {c d : Char}

/-! ### What stands where -/

/-- Whether a character stands in a text from an index on. -/
def StandsAt (c : Char) (text : Bytes) (start : Nat) : Prop := encode c <+: text.drop start

/-- Whether a text has a continuation byte at an index. -/
def ContinuesAt (text : Bytes) (index : Nat) : Prop := ∃ b, text[index]? = some b ∧ b.isContinuation

/-- Whether one of the bytes of a character is the one at a position. -/
def Covers (c : Char) (text : Bytes) (position : Nat) : Prop :=
  ∃ start, StandsAt c text start ∧ start ≤ position ∧ position < start + (encode c).length

/-- Whether a character ends before a position, with nothing but continuation bytes from its end up
to the position, which is at most three bytes behind its first one. -/
def Trails (c : Char) (text : Bytes) (position : Nat) : Prop :=
  ∃ start, StandsAt c text start ∧ start + (encode c).length ≤ position ∧ position ≤ start + 3 ∧
    ∀ index, start + (encode c).length ≤ index → index ≤ position → ContinuesAt text index

theorem StandsAt.getElem? (h : StandsAt c text start) {more : Nat}
    (inside : more < (encode c).length) : text[start + more]? = (encode c)[more]? := by
  obtain ⟨behind, cut⟩ := h
  rw [← List.getElem?_drop, ← cut, List.getElem?_append_left inside]

/-- The first byte of a character is no continuation byte. -/
theorem StandsAt.lead (h : StandsAt c text start) :
    ∃ b, text[start]? = some b ∧ ¬ b.isContinuation := by
  obtain ⟨lead, following, encoded, announces, -⟩ := encode_eq c
  have read := h.getElem? (List.length_pos_iff.2 (encode_ne_nil c))
  rw [Nat.add_zero, encoded] at read
  refine ⟨lead, read, fun continues => ?_⟩
  rw [sequenceLength_of_isContinuation continues] at announces
  cases announces

/-- All other bytes of a character are. -/
theorem StandsAt.continuesAt (h : StandsAt c text start) {index : Nat} (behind : start < index)
    (inside : index < start + (encode c).length) : ContinuesAt text index := by
  obtain ⟨lead, following, encoded, -, continues⟩ := encode_eq c
  obtain ⟨more, rfl⟩ := Nat.exists_eq_add_of_lt behind
  rw [Nat.add_assoc] at inside ⊢
  have read := h.getElem? (Nat.lt_of_add_lt_add_left inside)
  rw [encoded, List.getElem?_cons_succ] at read
  have bound : more < following.length := by
    rw [encoded, List.length_cons] at inside
    omega
  rw [List.getElem?_eq_getElem bound] at read
  exact ⟨_, read, continues _ (List.getElem_mem bound)⟩

/-! ### Looking back -/

/-- Whether the byte at an index can be the first one of a sequence. -/
def leadsAt (text : Bytes) (index : Nat) : Bool := text[index]?.any fun b => !b.isContinuation

theorem leadsAt_eq_false_iff {index : Nat} (inside : index < text.length) :
    leadsAt text index = false ↔ ContinuesAt text index := by
  simp [leadsAt, ContinuesAt, List.getElem?_eq_getElem inside]

theorem ContinuesAt.lt_length {index : Nat} (h : ContinuesAt text index) : index < text.length := by
  obtain ⟨b, read, -⟩ := h
  exact (List.getElem?_eq_some_iff.1 read).1

/-- Of the position and the three indices before it, the nearest that leads is taken. -/
theorem sequenceStart_eq (text : Bytes) (position : Nat) :
    sequenceStart text position =
      position - ((List.range 4).find? fun back => leadsAt text (position - back)).getD 0 := by
  have leads : sequenceStart text position =
      (((List.range 4).map (position - ·)).find? (leadsAt text)).getD position := by
    refine congrArg (fun leads => (List.find? leads _).getD position) (funext fun index => ?_)
    rw [leadsAt]
    cases text[index]? <;> rfl
  rw [leads, List.find?_map]
  show (Option.map _ ((List.range 4).find? fun back => leadsAt text (position - back))).getD _ = _
  cases (List.range 4).find? fun back => leadsAt text (position - back) <;> rfl

/-- A character that is met when looking back from a position. -/
structure Reaches (c : Char) (text : Bytes) (start position : Nat) : Prop where
  stands : StandsAt c text start
  le : start ≤ position
  near : position ≤ start + 3
  continues : ∀ index, start < index → index ≤ position → ContinuesAt text index

theorem Reaches.lt_length (h : Reaches c text start position) : position < text.length := by
  rcases Nat.lt_or_eq_of_le h.le with behind | rfl
  · exact (h.continues position behind (Nat.le_refl _)).lt_length
  · obtain ⟨b, read, -⟩ := h.stands.lead
    exact (List.getElem?_eq_some_iff.1 read).1

theorem Reaches.sequenceStart_eq (h : Reaches c text start position) :
    sequenceStart text position = start := by
  obtain ⟨back, rfl⟩ := Nat.exists_eq_add_of_le h.le
  have near := h.near
  have found :
      (List.range 4).find? (fun less => leadsAt text (start + back - less)) = some back := by
    rw [List.find?_range_eq_some]
    refine ⟨?_, List.mem_range.2 (by omega), fun less between => ?_⟩
    · obtain ⟨b, read, leads⟩ := h.stands.lead
      rw [Nat.add_sub_cancel, leadsAt, read]
      simpa using leads
    · have continues := h.continues (start + back - less) (by omega) (by omega)
      rw [(leadsAt_eq_false_iff continues.lt_length).2 continues]
      rfl
  rw [Utf8.sequenceStart_eq, found, Option.getD_some, Nat.add_sub_cancel]

/-- What is met when looking back is what is reported. -/
theorem Reaches.characterAt_eq (h : Reaches c text start position) :
    characterAt text position = c := by
  rw [characterAt, if_pos h.lt_length, h.sequenceStart_eq, character?_eq_some_iff.2 h.stands,
    Option.getD_some]

/-- Between the place where a sequence is looked for and the position nothing leads one. -/
theorem sequenceStart_near (inside : position < text.length) :
    sequenceStart text position ≤ position ∧ position ≤ sequenceStart text position + 3 ∧
      ∀ index, sequenceStart text position < index → index ≤ position →
        ContinuesAt text index := by
  rw [sequenceStart_eq]
  cases found : (List.range 4).find? fun back => leadsAt text (position - back) with
  | none => exact ⟨by simp, by simp, fun index behind le => absurd le (by simpa using behind)⟩
  | some back =>
    obtain ⟨-, few, nearest⟩ := List.find?_range_eq_some.1 found
    rw [List.mem_range] at few
    rw [Option.getD_some]
    refine ⟨Nat.sub_le _ _, by omega, fun index behind le => ?_⟩
    have passed := nearest (position - index) (by omega)
    rw [show position - (position - index) = index by omega] at passed
    exact (leadsAt_eq_false_iff (by omega)).1 (by simpa using passed)

/-- What is reported is met when looking back. -/
theorem reaches_of_characterAt (found : characterAt text position = c) (known : c ≠ replacement) :
    Reaches c text (sequenceStart text position) position := by
  unfold characterAt at found
  split_ifs at found with inside
  · obtain ⟨le, near, continues⟩ := sequenceStart_near inside
    cases read : character? (text.drop (sequenceStart text position)) with
    | none =>
      rw [read] at found
      exact absurd found.symm known
    | some d =>
      rw [read] at found
      cases found
      exact ⟨character?_eq_some_iff.1 read, le, near, continues⟩
  · exact absurd found.symm known

/-! ### Covering and trailing -/

theorem StandsAt.reaches (h : StandsAt c text start) (le : start ≤ position)
    (inside : position < start + (encode c).length) : Reaches c text start position := by
  have most := length_encode_le c
  exact ⟨h, le, by omega, fun index behind le => h.continuesAt behind (by omega)⟩

theorem StandsAt.reaches_behind (h : StandsAt c text start)
    (behind : start + (encode c).length ≤ position) (near : position ≤ start + 3)
    (strays : ∀ index, start + (encode c).length ≤ index → index ≤ position →
      ContinuesAt text index) : Reaches c text start position := by
  refine ⟨h, by omega, near, fun index later le => ?_⟩
  rcases Nat.lt_or_ge index (start + (encode c).length) with inside | outside
  · exact h.continuesAt later inside
  · exact strays index outside le

theorem Covers.characterAt_eq (h : Covers c text position) : characterAt text position = c := by
  obtain ⟨start, stands, le, inside⟩ := h
  exact (stands.reaches le inside).characterAt_eq

theorem Trails.characterAt_eq (h : Trails c text position) : characterAt text position = c := by
  obtain ⟨start, stands, behind, near, strays⟩ := h
  exact (stands.reaches_behind behind near strays).characterAt_eq

/-- Where a character is reported, it covers the position or trails off before it. -/
theorem characterAt_eq_iff (known : c ≠ replacement) :
    characterAt text position = c ↔ Covers c text position ∨ Trails c text position := by
  constructor
  · intro found
    obtain ⟨stands, le, near, continues⟩ := reaches_of_characterAt found known
    generalize sequenceStart text position = start at *
    rcases Nat.lt_or_ge position (start + (encode c).length) with inside | behind
    · exact .inl ⟨start, stands, le, inside⟩
    · have pos := List.length_pos_iff.2 (encode_ne_nil c)
      exact .inr ⟨start, stands, behind, near, fun index outside => continues index (by omega)⟩
  · rintro (covers | trails)
    · exact covers.characterAt_eq
    · exact trails.characterAt_eq

/-- No character covers a position before which another one trails off. -/
theorem Trails.not_covers (h : Trails c text position) : ¬ Covers d text position := by
  intro covers
  have same : d = c := covers.characterAt_eq.symm.trans h.characterAt_eq
  subst same
  obtain ⟨start, stands, behind, near, strays⟩ := h
  obtain ⟨first, covering, le, inside⟩ := covers
  have one := (stands.reaches_behind behind near strays).sequenceStart_eq
  have other := (covering.reaches le inside).sequenceStart_eq
  omega

/-- What is reported at a position covers it, unless a character trails off there. -/
theorem covers_iff_not_trails (text : Bytes) (position : Nat) :
    (characterAt text position ≠ replacement →
        Covers (characterAt text position) text position) ↔
      ∀ c, c ≠ replacement → ¬ Trails c text position := by
  constructor
  · intro covers c known trails
    have reported := trails.characterAt_eq
    rw [reported] at covers
    exact trails.not_covers (covers known)
  · intro none known
    rcases (characterAt_eq_iff known).1 rfl with covers | trails
    · exact covers
    · exact absurd trails (none _ known)

/-- A letter is reported at the continuation byte behind it. -/
theorem not_covers_letter :
    let text : Bytes := [0x61, 0x80]
    characterAt text 1 = 'a' ∧ characterAt text 1 ≠ replacement ∧
      ¬ Covers (characterAt text 1) text 1 := by
  intro text
  have stands : StandsAt 'a' text 0 := ⟨[0x80], rfl⟩
  have trails : Trails 'a' text 1 := by
    refine ⟨0, stands, by decide, by decide, fun index behind le => ?_⟩
    obtain rfl : index = 1 := Nat.le_antisymm le behind
    exact ⟨0x80, rfl, by decide⟩
  have reported := trails.characterAt_eq
  exact ⟨reported, by rw [reported]; decide, trails.not_covers⟩

/-- A character is found at each of its bytes, whatever stands around it. -/
theorem characterAt_append (front rest : Bytes) {c : Char} {more : Nat}
    (inside : more < (encode c).length) :
    characterAt (front ++ (encode c ++ rest)) (front.length + more) = c := by
  have stands : StandsAt c (front ++ (encode c ++ rest)) front.length := by
    rw [StandsAt, List.drop_left]
    exact List.prefix_append _ _
  exact (stands.reaches (Nat.le_add_right _ _) (Nat.add_lt_add_left inside _)).characterAt_eq

/-- The last byte of a character that stands between a broken one and a continuation byte. -/
theorem characterAt_append_snowman :
    let front : Bytes := [0xF0, 0x9F]
    2 < (encode '☃').length ∧
      characterAt (front ++ (encode '☃' ++ [0x83])) (front.length + 2) = '☃' := by
  intro front
  have inside : 2 < (encode '☃').length := by
    rw [encode, String.length_utf8EncodeChar]
    decide
  exact ⟨inside, characterAt_append front [0x83] inside⟩

end MarkupText.Utf8
