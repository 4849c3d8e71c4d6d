import MarkupText.Proofs.Filter.Mask

/-!
# A filter and what was added to it

`Represents` ties each part of a filter to the list of all that was ever added: the mask has exactly
the bytes of members near their front, a bucket holds exactly the members of its hash, in order, and
the size counts them all. Adding keeps this (`Represents.add`), and it makes membership in the
filter membership in the list (`Represents.contains_iff`).
-/

set_option autoImplicit false

namespace MarkupText.Filter

/-- The bucket for a byte string, of a number of buckets. -/
def slot (count : Nat) (item : Bytes) : Nat := (hash item).toNat % count

theorem getElem?_take_eq_some_iff {item : Bytes} {size index : Nat} {b : Byte} :
    (item.take size)[index]? = some b ↔ index < size ∧ item[index]? = some b := by
  rw [List.getElem?_take]
  split_ifs with near <;> simp [near]

theorem bucketIndex_eq (filter : Filter) (item : Bytes) :
    filter.bucketIndex item = slot filter.buckets.size item := rfl

theorem refusal?_eq_none_iff {options : Options} :
    options.refusal? = none ↔
      0 < options.buckets ∧ options.prefixThreshold ≤ maxPrefixThreshold := by
  unfold Options.refusal?
  split_ifs with none long
  · simp [none]
  · simp [long]
  · exact ⟨fun _ => ⟨Nat.pos_of_ne_zero none, Nat.le_of_not_lt long⟩, fun _ => rfl⟩

/-- A filter that holds the members of a list, added one after the other. -/
structure Represents (filter : Filter) (history : List Bytes) : Prop where
  usable : filter.options.refusal? = none
  noted : ∀ b index, index < maxPrefixThreshold →
    (filter.mask.Has b index ↔
      index < filter.options.prefixThreshold ∧ ∃ item ∈ history, item[index]? = some b)
  count : filter.buckets.size = filter.options.buckets
  sorted : ∀ bucket (h : bucket < filter.buckets.size),
    filter.buckets[bucket].toList =
      history.filter fun item => slot filter.buckets.size item = bucket
  size : filter.size = history.length

namespace Represents

variable {filter : Filter} {history : List Bytes}

theorem threshold_le (h : filter.Represents history) :
    filter.options.prefixThreshold ≤ maxPrefixThreshold :=
  (refusal?_eq_none_iff.1 h.usable).2

theorem buckets_pos (h : filter.Represents history) : 0 < filter.buckets.size := by
  rw [h.count]
  exact (refusal?_eq_none_iff.1 h.usable).1

theorem slot_lt (h : filter.Represents history) (item : Bytes) :
    slot filter.buckets.size item < filter.buckets.size :=
  Nat.mod_lt _ h.buckets_pos

/-- A filter without members. -/
theorem empty {options : Options} (usable : options.refusal? = none) :
    (Filter.empty options).Represents [] where
  usable := usable
  noted b index _ := by
    have read : (Filter.empty options).mask.get b.toFin = 0 := by
      have bound := b.toFin.isLt
      exact Vector.getElem_replicate bound
    simp [Mask.Has, read]
  count := Array.size_replicate
  sorted bucket h := by simp [Filter.empty]
  size := rfl

/-- Adding a member appends it to what the filter holds. -/
theorem add (h : filter.Represents history) (item : Bytes) :
    (filter.add item).Represents (history ++ [item]) where
  usable := h.usable
  noted b index bound := by
    have short : 0 + (item.take filter.options.prefixThreshold).length ≤ maxPrefixThreshold := by
      have := h.threshold_le
      rw [List.length_take]
      omega
    have near : (∃ i, (item.take filter.options.prefixThreshold)[i]? = some b ∧ 0 + i = index) ↔
        index < filter.options.prefixThreshold ∧ item[index]? = some b := by
      simp only [Nat.zero_add, exists_eq_right, getElem?_take_eq_some_iff]
    show (filter.mask.note 0 (item.take filter.options.prefixThreshold)).Has b index ↔ _
    rw [Mask.has_note short bound, h.noted b index bound, near]
    show _ ↔ index < filter.options.prefixThreshold ∧ _
    simp only [List.mem_append, List.mem_singleton, or_and_right, exists_or, exists_eq_left,
      and_or_left]
  count := by
    rw [Filter.add, Array.size_modify]
    exact h.count
  sorted bucket bound := by
    have bound' : bucket < filter.buckets.size := by
      rwa [Filter.add, Array.size_modify] at bound
    have size : (filter.add item).buckets.size = filter.buckets.size := Array.size_modify
    rw [size, List.filter_append, ← h.sorted bucket bound']
    simp only [Filter.add, Array.getElem_modify, bucketIndex_eq]
    split_ifs with here <;> simp [here]
  size := by
    rw [List.length_append, ← h.size]
    rfl

theorem addAll (h : filter.Represents history) (items : List Bytes) :
    (filter.addAll items).Represents (history ++ items) := by
  induction items generalizing filter history with
  | nil => rwa [List.append_nil]
  | cons item items ih =>
    rw [List.append_cons]
    exact ih (h.add item)

theorem ofList (items : List Bytes) : (Filter.ofList items).Represents items :=
  (empty (by decide)).addAll items

/-- The mask turns no member away. -/
theorem admits (h : filter.Represents history) {item : Bytes} (mem : item ∈ history) :
    filter.mask.admits 0 (item.take filter.options.prefixThreshold) := by
  rw [Mask.admits_iff]
  intro i b read
  obtain ⟨near, read⟩ := getElem?_take_eq_some_iff.1 read
  rw [Nat.zero_add, h.noted b i (Nat.lt_of_lt_of_le near h.threshold_le)]
  exact ⟨near, item, mem, read⟩

/-- A filter contains what was added to it and nothing else. -/
theorem contains_iff (h : filter.Represents history) (item : Bytes) :
    filter.contains item ↔ item ∈ history := by
  have bound := h.slot_lt item
  rw [contains, Bool.and_eq_true, bucketIndex_eq, ← Array.getElem_eq_getD (h := bound),
    Array.contains_iff_mem, ← Array.mem_toList_iff, h.sorted _ bound, List.mem_filter]
  constructor
  · rintro ⟨-, mem, -⟩
    exact mem
  · intro mem
    exact ⟨h.admits mem, mem, by simp⟩

end Represents

end MarkupText.Filter
