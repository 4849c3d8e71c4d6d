import Mathlib.Algebra.BigOperators.Group.List.Basic
import Mathlib.Data.List.Nodup
import MarkupText.Filter.Registry
import MarkupText.Proofs.Filter.Run

/-!
# What a filter is made of

After any run, every part of a filter is told by the options that it was made with and by its
history (`isExact_run`). The options pass through a run by themselves (`options_run`), and the rest
is read off the history that a filter represents (`Represents.isExact`).
-/

set_option autoImplicit false

namespace MarkupText.Filter

/-! ### Options -/

theorem options_addAll (filter : Filter) (items : List Bytes) :
    (filter.addAll items).options = filter.options := by
  induction items generalizing filter with
  | nil => rfl
  | cons item items ih => exact ih (filter.add item)

theorem options_ofList (items : List Bytes) : (Filter.ofList items).options = {} :=
  options_addAll (empty {}) items

/-- The options of the filters there are. -/
def Registry.shapes (registry : Registry) : Shapes := registry.filters.toList.map (·.options)

theorem Registry.shapes_push (registry : Registry) (filter : Filter) :
    (registry.push filter).shapes = registry.shapes ++ [filter.options] := by
  simp [shapes, push]

theorem Registry.shapes_get (registry : Registry) (number : Nat) :
    registry.shapes[number]? = registry.filters[number]?.map (·.options) := by
  simp [shapes]

/-- A step does to the options of the filters what it does to options alone. -/
theorem Registry.shapes_after (registry : Registry) (command : Command) :
    (registry.after command).shapes = registry.shapes.step command := by
  cases command with
  | create options =>
    simp only [after, step, Filter.create, Shapes.step]
    cases options.refusal? with
    | none => exact registry.shapes_push (empty options)
    | some refusal => rfl
  | ofList items =>
    rw [Shapes.step, ← options_ofList items]
    exact registry.shapes_push (Filter.ofList items)
  | copy source =>
    simp only [after, step, get, Shapes.step, shapes_get]
    cases registry.filters[source]? with
    | none => simp
    | some filter => exact registry.shapes_push filter
  | extend source items =>
    simp only [after, step, get, Shapes.step, shapes_get]
    cases registry.filters[source]? with
    | none => simp
    | some filter =>
      have derived := registry.shapes_push (filter.addAll items)
      rwa [options_addAll] at derived
  | add target item =>
    simp only [after, step, get, Shapes.step]
    cases registry.filters[target]? with
    | none => rfl
    | some filter =>
      apply List.ext_getElem?
      intro number
      rw [shapes_get, shapes_get, Array.getElem?_modify]
      split_ifs with here
      · rw [Option.map_map]
        rfl
      · rfl

theorem options_run (registry : Registry) (commands : List Command) :
    (registry.run commands).shapes = Shapes.run registry.shapes commands := by
  rw [Registry.run_eq_foldl, Shapes.run]
  induction commands generalizing registry with
  | nil => rfl
  | cons command commands ih =>
    rw [List.foldl_cons, List.foldl_cons, ih, registry.shapes_after]

/-! ### Buckets -/

/-- Each member of a list is in the bucket of its hash and in no other one. -/
theorem sum_length_filter_slot {count : Nat} (pos : 0 < count) (history : List Bytes) :
    ((List.range count).map fun bucket =>
      (history.filter fun item => slot count item = bucket).length).sum = history.length := by
  induction history with
  | nil => simp
  | cons item history ih =>
    have bound : slot count item < count := Nat.mod_lt _ pos
    have once : (List.range count).count (slot count item) = 1 :=
      List.count_eq_one_of_mem List.nodup_range (List.mem_range.2 bound)
    have split : ∀ bucket, ((item :: history).filter fun item => slot count item = bucket).length =
        (history.filter fun item => slot count item = bucket).length +
          if slot count item = bucket then 1 else 0 := by
      intro bucket
      rw [List.filter_cons]
      split_ifs <;> simp_all
    simp only [split, List.sum_map_add, ih]
    rw [List.sum_map_eq_nsmul_single (slot count item), once]
    · simp
    · intro bucket other _
      exact if_neg other.symm

namespace Represents

variable {filter : Filter} {history : List Bytes}

/-- The buckets together hold as many members as were added. -/
theorem sum_size_buckets (h : filter.Represents history) :
    (filter.buckets.map Array.size).sum = history.length := by
  rw [← sum_length_filter_slot h.buckets_pos history, ← Array.sum_toList]
  congr 1
  apply List.ext_getElem
  · simp
  · intro bucket inBuckets inRange
    have bound : bucket < filter.buckets.size := by simpa using inBuckets
    simp [← h.sorted bucket bound]

end Represents

/-! ### All parts of a filter -/

/-- A filter all of whose parts follow from options and the members that were added to it. -/
structure IsExact (filter : Filter) (options : Options) (history : List Bytes) : Prop where
  options_eq : filter.options = options
  threshold_le : options.prefixThreshold ≤ 8
  bits : ∀ index < options.prefixThreshold, (bit index).toNat = 2 ^ index
  buckets_pos : 1 ≤ options.buckets
  count : filter.buckets.size = options.buckets
  masked : ∀ (b : Byte) (index : Nat), (filter.mask.get b.toFin).toNat.testBit index ↔
    index < options.prefixThreshold ∧ ∃ item ∈ history, item[index]? = some b
  sorted : ∀ bucket (h : bucket < filter.buckets.size), filter.buckets[bucket].toList =
    history.filter fun item => (hash item).toNat % options.buckets = bucket
  total : filter.size = (filter.buckets.map Array.size).sum
  size : filter.size = history.length

/-- No bit of a mask stands for an index that is never noted. -/
theorem testBit_eq_false {index : Nat} (h : maxPrefixThreshold ≤ index) (bits : UInt8) :
    bits.toNat.testBit index = false := by
  apply Nat.testBit_lt_two_pow
  calc bits.toNat < 2 ^ maxPrefixThreshold := bits.toNat_lt
    _ ≤ 2 ^ index := Nat.pow_le_pow_right (by decide) h

theorem Represents.isExact {filter : Filter} {history : List Bytes}
    (h : filter.Represents history) : filter.IsExact filter.options history where
  options_eq := rfl
  threshold_le := h.threshold_le
  bits index near := toNat_bit (Nat.lt_of_lt_of_le near h.threshold_le)
  buckets_pos := (refusal?_eq_none_iff.1 h.usable).1
  count := h.count
  masked b index := by
    by_cases bound : index < maxPrefixThreshold
    · rw [← and_bit_ne_zero_iff bound]
      exact h.noted b index bound
    · have far : ¬ index < filter.options.prefixThreshold := by
        have := h.threshold_le
        omega
      simp [testBit_eq_false (Nat.le_of_not_lt bound), far]
  sorted bucket bound := by
    rw [h.sorted bucket bound, h.count]
    rfl
  total := by rw [h.size, h.sum_size_buckets]
  size := h.size

/-- After every run, each filter is told in all its parts by the options that it was made with and
by its history. -/
theorem isExact_run (commands : List Command) :
    let registry := Registry.run {} commands
    let shapes := Shapes.run [] commands
    let histories := Histories.run [] commands
    registry.filters.size = shapes.length ∧ registry.filters.size = histories.length ∧
    ∀ (number : Nat) (filter : Filter) (options : Options) (history : List Bytes),
      registry.filters[number]? = some filter → shapes[number]? = some options →
      histories[number]? = some history → filter.IsExact options history := by
  intro registry shapes histories
  have tracks : Tracks registry histories := tracks_run tracks_empty commands
  have same : registry.shapes = shapes := options_run {} commands
  refine ⟨?_, tracks.size, ?_⟩
  · rw [← same, Registry.shapes, List.length_map, Array.length_toList]
  · intro number filter options history read readShape readHistory
    rw [← same, Registry.shapes_get, read] at readShape
    obtain rfl : filter.options = options := Option.some.inj readShape
    exact (tracks.each number filter history read readHistory).isExact

/-- Members that are shorter and longer than the threshold, one of them twice, in a filter that was
derived from one with three buckets. -/
theorem isExact_run_derived :
    let commands : List Command := [.create ⟨2, 3⟩, .add 0 (utf8 "p"), .add 0 [],
      .extend 0 [utf8 "pre", utf8 "p"], .add 0 (utf8 "q")]
    ∃ filter, (Registry.run {} commands).filters[1]? = some filter ∧
      filter.IsExact ⟨2, 3⟩ [utf8 "p", [], utf8 "pre", utf8 "p"] := by
  intro commands
  obtain ⟨size, -, exact⟩ := isExact_run commands
  have bound : 1 < (Registry.run {} commands).filters.size := size ▸ (by decide)
  have read := Array.getElem?_eq_getElem bound
  exact ⟨_, read, exact 1 _ _ _ read (by decide) (by decide)⟩

end MarkupText.Filter
