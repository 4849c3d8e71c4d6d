/-!
# Search in a sorted array

Looking up an entry by halving. The caller says on which side of an entry the wanted one lies, so
one search serves tables with keys of any kind. In a table whose keys ascend strictly, looking for a
key gives the one entry with this key if there is one, and nothing else (`search_eq_some_iff`).
-/

set_option autoImplicit false

namespace MarkupText

variable {α : Type}

/-- Looks for an entry in the positions from `low` up to `high`; `compare` tells how an entry lies
to the wanted one. -/
def searchBetween (table : Array α) (compare : α → Ordering) (low high : Nat)
    (bound : high ≤ table.size) : Option α :=
  if lt : low < high then
    let middle := low + (high - low) / 2
    have below : middle < high := by omega
    have above : low ≤ middle := by omega
    let entry := table[middle]
    match compare entry with
    | .eq => some entry
    | .lt => searchBetween table compare (middle + 1) high bound
    | .gt => searchBetween table compare low middle (by omega)
  else none
  termination_by high - low

/-- Looks for an entry in a whole table. -/
def search (table : Array α) (compare : α → Ordering) : Option α :=
  searchBetween table compare 0 table.size (Nat.le_refl _)

/-! ### Search finds what is there -/

variable {κ : Type} [Ord κ] [Std.TransOrd κ] [Std.LawfulEqOrd κ] {key : α → κ} {table : Array α}

/-- Whether the keys of a table ascend strictly. -/
def Ascending (key : α → κ) (table : Array α) : Prop :=
  table.toList.Pairwise fun a b => compare (key a) (key b) = .lt

omit [Std.TransOrd κ] [Std.LawfulEqOrd κ] in
theorem Ascending.compare_eq_lt (h : Ascending key table) {i j : Nat} (lt : i < j)
    (bound : j < table.size) : compare (key table[i]) (key table[j]) = .lt :=
  List.pairwise_iff_getElem.1 h i j (Nat.lt_trans lt bound) bound lt

/-- Where the key at an index is the wanted one, the keys before it are less and the keys behind it
are greater. -/
theorem Ascending.compare_eq (h : Ascending key table) {i j : Nat} (hi : i < table.size)
    (hj : j < table.size) : compare (key table[i]) (key table[j]) = compare i j := by
  rcases Nat.lt_trichotomy i j with lt | rfl | gt
  · rw [h.compare_eq_lt lt hj, Nat.compare_eq_lt.2 lt]
  · exact Std.ReflOrd.compare_self.trans Std.ReflOrd.compare_self.symm
  · rw [Std.OrientedCmp.gt_of_lt (h.compare_eq_lt gt hi), Nat.compare_eq_gt.2 gt]

omit [Std.TransOrd κ] in
theorem searchBetween_sound {wanted : κ} {low high : Nat} {bound : high ≤ table.size} {entry : α}
    (h : searchBetween table (fun entry => compare (key entry) wanted) low high bound =
      some entry) :
    entry ∈ table ∧ key entry = wanted := by
  fun_induction searchBetween table (fun entry => compare (key entry) wanted) low high bound with
  | case1 low high bound lt middle below above found same =>
    obtain rfl : found = entry := Option.some.inj h
    exact ⟨Array.getElem_mem _, Std.LawfulEqOrd.eq_of_compare same⟩
  | case2 low high bound lt middle below above found less ih => exact ih h
  | case3 low high bound lt middle below above found greater ih => exact ih h
  | case4 => cases h

theorem searchBetween_complete (h : Ascending key table) {low high index : Nat}
    {bound : high ≤ table.size} (hindex : index < table.size) (from_low : low ≤ index)
    (to_high : index < high) :
    searchBetween table (fun entry => compare (key entry) (key table[index])) low high bound =
      some table[index] := by
  fun_induction searchBetween table (fun entry => compare (key entry) (key table[index])) low high
    bound with
  | case1 low high bound lt middle below above found same =>
    rw [h.compare_eq _ hindex, Nat.compare_eq_eq] at same
    subst same
    rfl
  | case2 low high bound lt middle below above found less ih =>
    rw [h.compare_eq _ hindex, Nat.compare_eq_lt] at less
    exact ih less to_high
  | case3 low high bound lt middle below above found greater ih =>
    rw [h.compare_eq _ hindex, Nat.compare_eq_gt] at greater
    exact ih from_low greater
  | case4 low high bound empty => exact absurd (Nat.lt_of_le_of_lt from_low to_high) empty

/-- Looking for a key gives an entry exactly if the entry is in the table and has that key. -/
theorem search_eq_some_iff (h : Ascending key table) {wanted : κ} {entry : α} :
    search table (fun entry => compare (key entry) wanted) = some entry ↔
      entry ∈ table ∧ key entry = wanted := by
  refine ⟨searchBetween_sound, ?_⟩
  rintro ⟨mem, rfl⟩
  obtain ⟨index, bound, rfl⟩ := Array.mem_iff_getElem.1 mem
  exact searchBetween_complete h bound (Nat.zero_le _) bound

end MarkupText
