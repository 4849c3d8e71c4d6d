import Mathlib.Data.List.Destutter
import Mathlib.Data.List.Sort
import MarkupText.Search

/-!
# Entries in order

A table to be searched is made from entries that come in any order, and perhaps more than once.
They are brought into the order of their keys, and the first entry stays for each key. So the keys
ascend strictly, whatever the entries (`ascending_indexBy`). Where entries with the same key are the
same, none is lost, and a search finds what is among the entries and nothing else
(`search_indexBy_eq_some_iff`). There is only one table in order with given entries, so it does not
matter how they came (`indexBy_eq`).
-/

set_option autoImplicit false

namespace MarkupText

variable {α κ : Type} {key : α → κ} {entries : List α} {table other : Array α}

/-- The entries in the order of their keys, one for each key. -/
def indexBy [Ord κ] [DecidableEq κ] (key : α → κ) (entries : List α) : Array α :=
  let sorted := entries.mergeSort fun a b => (compare (key a) (key b)).isLE
  (sorted.destutter fun a b => key a ≠ key b).toArray

/-! ### Order -/

section

variable [Ord κ] [Std.TransOrd κ]

/-- Keys ascend if each one is less than the next. -/
theorem ascending_of_isChain {list : List α}
    (h : list.IsChain fun a b => compare (key a) (key b) = .lt) : Ascending key list.toArray := by
  have trans : Trans (fun a b : α => compare (key a) (key b) = .lt)
      (fun a b : α => compare (key a) (key b) = .lt)
      (fun a b : α => compare (key a) (key b) = .lt) := ⟨Std.TransCmp.lt_trans⟩
  exact List.isChain_iff_pairwise.1 h

theorem pairwise_mergeSort_key (key : α → κ) (entries : List α) :
    (entries.mergeSort fun a b => (compare (key a) (key b)).isLE).Pairwise fun a b =>
      (compare (key a) (key b)).isLE := by
  refine List.pairwise_mergeSort (fun a b c => Std.TransCmp.isLE_trans) (fun a b => ?_) entries
  rw [Bool.or_eq_true, Decidable.or_iff_not_imp_left]
  intro greater
  rw [Std.OrientedCmp.lt_of_not_isLE greater]
  rfl

/-- A table in order is told by its entries. -/
theorem Ascending.eq_of_mem_iff (h : Ascending key table) (hother : Ascending key other)
    (same : ∀ entry, entry ∈ table ↔ entry ∈ other) : table = other := by
  have irrefl : Std.Irrefl fun a b : α => compare (key a) (key b) = .lt :=
    ⟨fun a => by simp [Std.ReflOrd.compare_self]⟩
  have antisymm : Std.Antisymm fun a b : α => compare (key a) (key b) = .lt :=
    ⟨fun a b less greater => absurd greater (Std.OrientedCmp.not_lt_of_lt less)⟩
  refine Array.toList_inj.1 (List.Pairwise.eq_of_mem_iff h hother fun entry => ?_)
  rw [← Array.mem_def, ← Array.mem_def, same]

end

/-! ### What stays -/

/-- Whether entries with the same key are the same. -/
def KeyedBy (key : α → κ) (entries : List α) : Prop :=
  ∀ a ∈ entries, ∀ b ∈ entries, key a = key b → a = b

instance [DecidableEq α] [DecidableEq κ] : Decidable (KeyedBy key entries) :=
  inferInstanceAs (Decidable (∀ a ∈ entries, ∀ b ∈ entries, key a = key b → a = b))

section

variable [DecidableEq κ]

/-- Of neighbours with one key, one stays. -/
theorem exists_mem_destutter' (key : α → κ) {first entry : α} {rest : List α}
    (mem : entry ∈ first :: rest) :
    ∃ kept ∈ rest.destutter' (fun a b => key a ≠ key b) first, key kept = key entry := by
  induction rest generalizing first entry with
  | nil =>
    obtain rfl := List.mem_singleton.1 mem
    exact ⟨entry, List.mem_singleton_self entry, rfl⟩
  | cons second rest ih =>
    rw [List.destutter'_cons]
    by_cases differ : key first ≠ key second
    · rw [if_pos differ]
      rcases List.mem_cons.1 mem with rfl | behind
      · exact ⟨entry, List.mem_cons_self, rfl⟩
      · obtain ⟨kept, stays, same⟩ := ih behind
        exact ⟨kept, List.mem_cons_of_mem _ stays, same⟩
    · -- the second goes, and the first stands for it
      rw [if_neg differ]
      rcases List.mem_cons.1 mem with rfl | behind
      · exact ih List.mem_cons_self
      · rcases List.mem_cons.1 behind with rfl | behind
        · have front : first ∈ first :: rest := List.mem_cons_self
          obtain ⟨kept, stays, same⟩ := ih front
          exact ⟨kept, stays, same.trans (not_not.1 differ)⟩
        · exact ih (List.mem_cons_of_mem _ behind)

theorem exists_mem_destutter (key : α → κ) {entry : α} (mem : entry ∈ entries) :
    ∃ kept ∈ entries.destutter fun a b => key a ≠ key b, key kept = key entry := by
  cases entries with
  | nil => cases mem
  | cons first rest => exact exists_mem_destutter' key mem

end

/-! ### Entries in order -/

variable [Ord κ] [Std.TransOrd κ] [Std.LawfulEqOrd κ]

theorem Ascending.keyedBy (h : Ascending key table) : KeyedBy key table.toList := by
  intro a inside b alsoInside same
  obtain ⟨i, hi, rfl⟩ := List.mem_iff_getElem.1 inside
  obtain ⟨j, hj, rfl⟩ := List.mem_iff_getElem.1 alsoInside
  have order : compare i j = .eq := by
    rw [← h.compare_eq hi hj]
    exact (congrArg (compare _) same.symm).trans Std.ReflOrd.compare_self
  rw [Nat.compare_eq_eq] at order
  subst order
  rfl

variable [DecidableEq κ]

/-- Neighbours do not descend, since they were sorted, and those that are left differ. -/
theorem ascending_indexBy (key : α → κ) (entries : List α) :
    Ascending key (indexBy key entries) := by
  have sorted := pairwise_mergeSort_key key entries
  have ordered := (sorted.sublist (List.destutter_sublist (fun a b => key a ≠ key b) _)).isChain
  refine ascending_of_isChain (List.isChain_iff_getElem.2 fun i bound => ?_)
  have differ := (List.isChain_destutter (fun a b => key a ≠ key b) _).getElem i bound
  rcases Ordering.isLE_iff_eq_lt_or_eq_eq.1 (ordered.getElem i bound) with lt | eq
  · exact lt
  · exact absurd (Std.LawfulEqOrd.eq_of_compare eq) differ

omit [Std.TransOrd κ] [Std.LawfulEqOrd κ] in
theorem mem_indexBy (keyed : KeyedBy key entries) {entry : α} :
    entry ∈ indexBy key entries ↔ entry ∈ entries := by
  rw [indexBy, List.mem_toArray]
  constructor
  · intro mem
    exact List.mem_mergeSort.1 ((List.destutter_sublist _ _).subset mem)
  · intro mem
    obtain ⟨kept, stays, same⟩ := exists_mem_destutter key (List.mem_mergeSort.2 mem)
    have inside := List.mem_mergeSort.1 ((List.destutter_sublist _ _).subset stays)
    rwa [← keyed kept inside entry mem same]

/-- A search among entries in order finds those entries and nothing else. -/
theorem search_indexBy_eq_some_iff (keyed : KeyedBy key entries) {wanted : κ} {entry : α} :
    search (indexBy key entries) (fun entry => compare (key entry) wanted) = some entry ↔
      entry ∈ entries ∧ key entry = wanted := by
  rw [search_eq_some_iff (ascending_indexBy key entries), mem_indexBy keyed]

/-- The entries of a table in order give this table, however they come. -/
theorem indexBy_eq (h : Ascending key table) (same : ∀ entry, entry ∈ entries ↔ entry ∈ table) :
    indexBy key entries = table := by
  have keyed : KeyedBy key entries := fun a inside b alsoInside =>
    h.keyedBy a (Array.mem_def.1 ((same a).1 inside)) b (Array.mem_def.1 ((same b).1 alsoInside))
  refine (ascending_indexBy key entries).eq_of_mem_iff h fun entry => ?_
  rw [mem_indexBy keyed, same]

end MarkupText
