import MarkupText.Run
import MarkupText.Proofs.Utf8.Encode

/-!
# Reading characters

What was written is read back, whatever stands behind it (`front_encode`). Reading never goes beyond
the continuation bytes that follow the first byte (`front_size`), so what stands behind the bytes
that were read shows only by a continuation byte at its front (`front_congr`).
-/

set_option autoImplicit false

namespace MarkupText.Utf8

/-- The announcement of a lead byte, by its number. -/
theorem lead_ofNat {n : Nat} (h : n < 256) :
    lead? (UInt8.ofNat n) =
      if n ≤ 0x7F then some ⟨n, []⟩
      else if 0xC2 ≤ n ∧ n ≤ 0xDF then some ⟨n - 0xC0, [anyContinuation]⟩
      else if n = 0xE0 then some ⟨0x0, [(0xA0, 0xBF), anyContinuation]⟩
      else if n = 0xED then some ⟨0xD, [(0x80, 0x9F), anyContinuation]⟩
      else if 0xE1 ≤ n ∧ n ≤ 0xEF then some ⟨n - 0xE0, [anyContinuation, anyContinuation]⟩
      else if n = 0xF0 then some ⟨0x0, [(0x90, 0xBF), anyContinuation, anyContinuation]⟩
      else if n = 0xF4 then some ⟨0x4, [(0x80, 0x8F), anyContinuation, anyContinuation]⟩
      else if 0xF1 ≤ n ∧ n ≤ 0xF3 then
        some ⟨n - 0xF0, [anyContinuation, anyContinuation, anyContinuation]⟩
      else none := by
  simp only [lead?, Byte.within_iff, UInt8.le_iff_toNat_le, ← UInt8.toNat_inj,
    toNat_ofNat_of_lt h, UInt8.reduceToNat]

/-- A byte with six more bits is read where its range has room for it. -/
theorem follow_ofNat {number size m : Nat} {first last : Byte} (low : first.toNat ≤ m % 64 + 128)
    (high : m % 64 + 128 ≤ last.toNat) (ranges : List (Byte × Byte)) (rest : Bytes) :
    follow number size ((first, last) :: ranges) (UInt8.ofNat (m % 64 + 128) :: rest) =
      follow (number * 64 + m % 64) (size + 1) ranges rest := by
  have bound : (UInt8.ofNat (m % 64 + 128)).toNat = m % 64 + 128 := toNat_ofNat_of_lt (by omega)
  have inside : Byte.within first last (UInt8.ofNat (m % 64 + 128)) := by
    rw [Byte.within_iff, bound]
    exact ⟨low, high⟩
  rw [follow, if_pos inside, bound, show (m % 64 + 128) % 64 = m % 64 by omega]

theorem follow_continuation (number size m : Nat) (ranges : List (Byte × Byte)) (rest : Bytes) :
    follow number size (anyContinuation :: ranges) (UInt8.ofNat (m % 64 + 128) :: rest) =
      follow (number * 64 + m % 64) (size + 1) ranges rest := by
  refine follow_ofNat ?_ ?_ ranges rest <;> simp only [UInt8.reduceToNat] <;> omega

/-- The second byte of three has room for all that is neither overlong nor a surrogate. -/
theorem lead_three (high middle : Nat) (h : high < 16) (overlong : high = 0 → 32 ≤ middle)
    (surrogate : high = 0xD → middle < 32) (hmiddle : middle < 64) :
    ∃ first last, lead? (UInt8.ofNat (high + 0xE0)) =
        some ⟨high, [(first, last), anyContinuation]⟩ ∧
      first.toNat ≤ middle + 128 ∧ middle + 128 ≤ last.toNat := by
  rw [lead_ofNat (by omega), if_neg (by omega), if_neg (by omega)]
  split_ifs with zero thirteen others
  · obtain rfl : high = 0 := by omega
    refine ⟨_, _, rfl, ?_⟩
    simp only [UInt8.reduceToNat]
    omega
  · obtain rfl : high = 0xD := by omega
    refine ⟨_, _, rfl, ?_⟩
    simp only [UInt8.reduceToNat]
    omega
  · rw [Nat.add_sub_cancel]
    refine ⟨_, _, rfl, ?_⟩
    simp only [UInt8.reduceToNat]
    omega
  all_goals omega

/-- The second byte of four has room for all that is neither overlong nor too large. -/
theorem lead_four (high middle : Nat) (h : high < 5) (overlong : high = 0 → 16 ≤ middle)
    (large : high = 4 → middle < 16) (hmiddle : middle < 64) :
    ∃ first last, lead? (UInt8.ofNat (high + 0xF0)) =
        some ⟨high, [(first, last), anyContinuation, anyContinuation]⟩ ∧
      first.toNat ≤ middle + 128 ∧ middle + 128 ≤ last.toNat := by
  rw [lead_ofNat (by omega), if_neg (by omega), if_neg (by omega), if_neg (by omega),
    if_neg (by omega), if_neg (by omega)]
  split_ifs with zero four others
  · obtain rfl : high = 0 := by omega
    refine ⟨_, _, rfl, ?_⟩
    simp only [UInt8.reduceToNat]
    omega
  · obtain rfl : high = 4 := by omega
    refine ⟨_, _, rfl, ?_⟩
    simp only [UInt8.reduceToNat]
    omega
  · rw [Nat.add_sub_cancel]
    refine ⟨_, _, rfl, ?_⟩
    simp only [UInt8.reduceToNat]
    omega
  all_goals omega

/-- A character that was written is read back. -/
theorem front_encode {c : Char} {b : Byte} {following : Bytes} (h : encode c = b :: following)
    (rest : Bytes) : front b (following ++ rest) = .character c (following.length + 1) := by
  have number : c.val.toNat < 0xD800 ∨ 0xDFFF < c.val.toNat ∧ c.val.toNat < 0x110000 := c.valid
  have back : Char.ofNat c.val.toNat = c := c.ofNat_toNat
  unfold encode String.utf8EncodeChar at h
  simp only at h
  generalize c.val.toNat = v at *
  split_ifs at h with one two three
  · cases h
    simp only [front, lead_ofNat (show v < 256 by omega), if_pos one, follow, back,
      List.length_nil, Nat.zero_add]
  · cases h
    have lead : lead? (UInt8.ofNat (v / 64 % 32 + 192)) = some ⟨v / 64, [anyContinuation]⟩ := by
      rw [lead_ofNat (by omega), if_neg (by omega), if_pos (by omega),
        show v / 64 % 32 + 192 - 0xC0 = v / 64 by omega]
    simp only [front, lead, List.cons_append, List.nil_append]
    rw [follow_continuation, follow, show v / 64 * 64 + v % 64 = v by omega, back]
    rfl
  · cases h
    obtain ⟨first, last, lead, low, high⟩ := lead_three (v / 4096) (v / 64 % 64)
      (by omega) (by omega) (by omega) (by omega)
    rw [show v / 4096 % 16 + 224 = v / 4096 + 0xE0 by omega]
    simp only [front, lead, List.cons_append, List.nil_append]
    rw [follow_ofNat low high, follow_continuation, follow,
      show (v / 4096 * 64 + v / 64 % 64) * 64 + v % 64 = v by omega, back]
    rfl
  · cases h
    obtain ⟨first, last, lead, low, high⟩ := lead_four (v / 262144) (v / 4096 % 64)
      (by omega) (by omega) (by omega) (by omega)
    rw [show v / 262144 % 8 + 240 = v / 262144 + 0xF0 by omega]
    simp only [front, lead, List.cons_append, List.nil_append]
    rw [follow_ofNat low high, follow_continuation, follow_continuation, follow,
      show ((v / 262144 * 64 + v / 4096 % 64) * 64 + v / 64 % 64) * 64 + v % 64 = v by omega, back]
    rfl

/-- Characters are told apart by their bytes. -/
theorem encode_injective {c d : Char} (h : encode c = encode d) : c = d := by
  obtain ⟨lead, following, encoded, -⟩ := encode_eq c
  have first := front_encode encoded []
  rw [front_encode (h ▸ encoded)] at first
  cases first
  rfl

/-! ### Where reading ends -/

/-- The number of bytes that were read. -/
def Front.size : Front → Nat
  | character _ size => size
  | broken size => size

theorem not_isAscii_of_isContinuation {b : Byte} (h : b.isContinuation) : ¬ b.isAscii := by
  rw [Byte.isContinuation, Byte.within_iff] at h
  simp only [UInt8.reduceToNat] at h
  simp only [Byte.isAscii, decide_eq_true_eq, UInt8.lt_iff_toNat_lt, UInt8.reduceToNat]
  omega

theorem ends_of_isAscii {b : Byte} (ascii : b.isAscii) (rest : Bytes) :
    Ends Byte.isContinuation (b :: rest) :=
  ends_cons (fun continues => not_isAscii_of_isContinuation continues ascii) rest

theorem ends_encode (c : Char) (rest : Bytes) : Ends Byte.isContinuation (encode c ++ rest) := by
  obtain ⟨lead, following, encoded, announces, -⟩ := encode_eq c
  rw [encoded, List.cons_append]
  apply ends_cons
  intro continues
  rw [sequenceLength_of_isContinuation continues] at announces
  cases announces

theorem front_of_isContinuation {b : Byte} (h : b.isContinuation) (rest : Bytes) :
    front b rest = .broken 1 := by
  have none : lead? b = none := by
    rw [Byte.isContinuation, Byte.within_iff] at h
    simp only [UInt8.reduceToNat] at h
    rw [← UInt8.ofNat_toNat (x := b), lead_ofNat b.toNat_lt, if_neg (by omega), if_neg (by omega),
      if_neg (by omega), if_neg (by omega), if_neg (by omega), if_neg (by omega),
      if_neg (by omega), if_neg (by omega)]
  rw [front, none]

/-- Whether ranges have nothing but continuation bytes in them. -/
def Continue (ranges : List (Byte × Byte)) : Prop :=
  ∀ range ∈ ranges, ∀ b, Byte.within range.1 range.2 b → b.isContinuation

/-- All that a lead byte announces continues its sequence. -/
theorem continue_of_lead {b : Byte} {lead : Lead} (h : lead? b = some lead) :
    Continue lead.following := by
  unfold lead? at h
  split_ifs at h <;> obtain rfl := Option.some.inj h
  all_goals
    simp only [Continue, anyContinuation, Byte.isContinuation, Byte.within_iff,
      List.forall_mem_cons, UInt8.reduceToNat]
    grind

/-- Reading takes continuation bytes from the front of what follows. -/
theorem follow_size (number size : Nat) {ranges : List (Byte × Byte)} (h : Continue ranges)
    (text : Bytes) :
    ∃ read behind, text = read ++ behind ∧
      (follow number size ranges text).size = size + read.length ∧
      ∀ b ∈ read, b.isContinuation := by
  fun_induction follow number size ranges text with
  | case1 => exact ⟨[], _, rfl, rfl, List.forall_mem_nil _⟩
  | case2 => exact ⟨[], [], rfl, rfl, List.forall_mem_nil _⟩
  | case3 number size first last ranges b rest inside ih =>
    obtain ⟨here, later⟩ := List.forall_mem_cons.1 h
    obtain ⟨read, behind, rfl, count, others⟩ := ih later
    refine ⟨b :: read, behind, rfl, ?_, List.forall_mem_cons.2 ⟨here b inside, others⟩⟩
    rw [count, List.length_cons]
    omega
  | case4 => exact ⟨[], _, rfl, rfl, List.forall_mem_nil _⟩

theorem front_size (b : Byte) (text : Bytes) :
    ∃ read behind, text = read ++ behind ∧ (front b text).size = read.length + 1 ∧
      ∀ c ∈ read, c.isContinuation := by
  unfold front
  split
  · next lead announced =>
    obtain ⟨read, behind, cut, count, others⟩ :=
      follow_size lead.bits 1 (continue_of_lead announced) text
    exact ⟨read, behind, cut, count.trans (Nat.add_comm _ _), others⟩
  · exact ⟨[], text, rfl, rfl, List.forall_mem_nil _⟩

/-- Whether two texts begin with the same continuation byte, or neither of them with one. -/
def BeginAlike (text other : Bytes) : Prop :=
  ∀ b : Byte, b.isContinuation → (text.head? = some b ↔ other.head? = some b)

theorem beginAlike_of_ends {text other : Bytes} (h : Ends Byte.isContinuation text)
    (hother : Ends Byte.isContinuation other) : BeginAlike text other :=
  fun b continues =>
    ⟨fun read => absurd continues (h b read), fun read => absurd continues (hother b read)⟩

/-- Reading stops where the next byte is not in its range. -/
theorem follow_stops {number size : Nat} {range : Byte × Byte} {ranges : List (Byte × Byte)}
    {text : Bytes} (stop : ∀ b, text.head? = some b → ¬ Byte.within range.1 range.2 b) :
    follow number size (range :: ranges) text = .broken size := by
  cases text with
  | nil => rfl
  | cons b rest => rw [follow, if_neg (stop b rfl)]

theorem stop_of_size_le {number size : Nat} {range : Byte × Byte} {ranges : List (Byte × Byte)}
    (h : Continue ranges) {text : Bytes}
    (short : (follow number size (range :: ranges) text).size ≤ size) :
    ∀ b, text.head? = some b → ¬ Byte.within range.1 range.2 b := by
  rintro b read inside
  obtain ⟨rest, rfl⟩ := List.head?_eq_some_iff.1 read
  obtain ⟨taken, -, -, count, -⟩ := follow_size (number * 64 + b.toNat % 64) (size + 1) h rest
  rw [follow, if_pos inside, count] at short
  omega

/-- What stands behind the bytes that were read shows only by a continuation byte at its front. -/
theorem follow_congr (number size : Nat) {ranges : List (Byte × Byte)} (h : Continue ranges)
    {rest other : Bytes} (alike : BeginAlike rest other) (text : Bytes)
    (within : (follow number size ranges (text ++ rest)).size ≤ size + text.length) :
    follow number size ranges (text ++ other) = follow number size ranges (text ++ rest) := by
  induction text generalizing number size ranges with
  | nil =>
    cases ranges with
    | nil => rw [follow, follow]
    | cons range ranges =>
      obtain ⟨here, later⟩ := List.forall_mem_cons.1 h
      have stop := stop_of_size_le later within
      have stopOther : ∀ b, other.head? = some b → ¬ Byte.within range.1 range.2 b :=
        fun b read inside => stop b ((alike b (here b inside)).2 read) inside
      exact (follow_stops stopOther).trans (follow_stops stop).symm
  | cons b text ih =>
    cases ranges with
    | nil => rw [follow, follow]
    | cons range ranges =>
      obtain ⟨here, later⟩ := List.forall_mem_cons.1 h
      rw [List.cons_append, follow] at within
      rw [List.cons_append, List.cons_append, follow, follow]
      split_ifs at within ⊢ with inside
      · apply ih _ _ later
        rw [List.length_cons] at within
        omega
      · rfl

theorem front_congr (b : Byte) {rest other : Bytes} (alike : BeginAlike rest other) (text : Bytes)
    (within : (front b (text ++ rest)).size ≤ text.length + 1) :
    front b (text ++ other) = front b (text ++ rest) := by
  unfold front at within ⊢
  split
  · next lead announced =>
    rw [announced, Nat.add_comm] at within
    exact follow_congr lead.bits 1 (continue_of_lead announced) alike text within
  · rfl

end MarkupText.Utf8
