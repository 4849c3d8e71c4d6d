import Mathlib.Algebra.BigOperators.Fin
import Mathlib.Data.Int.ModEq
import Mathlib.Tactic.Ring
import MarkupText.Proofs.Filter.Run

/-!
# The hash as a polynomial

A step of the hash is one multiplication by thirty-three and one addition in words that wrap around
(`toNat_hashStep`). A whole byte string is therefore a polynomial in thirty-three with the bytes as
its coefficients, reduced once at the end (`toNat_foldl_hashStep`). What a byte string adds to the
hash of another one in front of it depends on its own hash and length alone, and every filter that a
run makes has a bucket for every hash (`hash_eq_polynomial`).
-/

set_option autoImplicit false

namespace MarkupText.Filter

/-- The polynomial in thirty-three whose coefficients are the bytes of a string, the last one for
the power zero. -/
def polynomial (item : Bytes) : Nat :=
  ∑ i : Fin item.length, item[i].toNat * 33 ^ (item.length - 1 - i)

theorem polynomial_nil : polynomial [] = 0 := rfl

theorem polynomial_cons (b : Byte) (rest : Bytes) :
    polynomial (b :: rest) = b.toNat * 33 ^ rest.length + polynomial rest := by
  have power (i : Fin rest.length) : rest.length - (i + 1) = rest.length - 1 - i := by omega
  refine (Fin.sum_univ_succ _).trans ?_
  simp [polynomial, power]

/-- The shift drops what is beyond the word, and so does the product. -/
theorem toNat_hashStep (start : UInt64) (b : Byte) :
    (hashStep start b).toNat = (start.toNat * 33 + b.toNat) % 2 ^ 64 := by
  rw [hashStep, UInt64.toNat_add, UInt64.toNat_add, UInt64.toNat_shiftLeft, UInt8.toNat_toUInt64,
    Nat.shiftLeft_eq]
  have amount : (5 : UInt64).toNat % 64 = 5 := rfl
  rw [amount]
  omega

theorem toNat_foldl_hashStep (start : UInt64) (item : Bytes) :
    (item.foldl hashStep start).toNat =
      (start.toNat * 33 ^ item.length + polynomial item) % 2 ^ 64 := by
  -- for every start, since each byte changes the start for those behind it
  induction item generalizing start with
  | nil => simp [polynomial_nil]
  | cons b rest ih =>
    have next : (start.toNat * 33 + b.toNat) % 2 ^ 64 ≡ start.toNat * 33 + b.toNat [MOD 2 ^ 64] :=
      Nat.mod_modEq _ _
    calc ((b :: rest).foldl hashStep start).toNat
      _ = ((start.toNat * 33 + b.toNat) % 2 ^ 64 * 33 ^ rest.length + polynomial rest) %
          2 ^ 64 := by
        rw [List.foldl_cons, ih, toNat_hashStep]
      _ = ((start.toNat * 33 + b.toNat) * 33 ^ rest.length + polynomial rest) % 2 ^ 64 :=
        (next.mul_right _).add_right _
      _ = (start.toNat * 33 ^ (b :: rest).length + polynomial (b :: rest)) % 2 ^ 64 := by
        rw [polynomial_cons, List.length_cons]
        congr 1
        ring

/-! ### The hash of a whole byte string -/

theorem toNat_hash (item : Bytes) :
    (hash item).toNat = (5381 * 33 ^ item.length + polynomial item) % 2 ^ 64 :=
  toNat_foldl_hashStep hashSeed item

theorem toNat_hash_append (front rest : Bytes) :
    (hash (front ++ rest)).toNat =
      ((hash front).toNat * 33 ^ rest.length + polynomial rest) % 2 ^ 64 := by
  rw [hash, List.foldl_append]
  exact toNat_foldl_hashStep (hash front) rest

/-- In the integers, the seed of the second string can be taken away again. -/
theorem toNat_hash_append_eq_sub (front rest : Bytes) :
    ((hash (front ++ rest)).toNat : ℤ) =
      ((hash front).toNat * 33 ^ rest.length + (hash rest).toNat - 5381 * 33 ^ rest.length) %
        2 ^ 64 := by
  have own : ((hash rest).toNat : ℤ) ≡ 5381 * 33 ^ rest.length + polynomial rest [ZMOD 2 ^ 64] := by
    rw [toNat_hash]
    push_cast
    exact Int.mod_modEq _ _
  have seedless : (hash rest).toNat - 5381 * 33 ^ rest.length ≡ polynomial rest [ZMOD 2 ^ 64] := by
    simpa using own.sub_right (5381 * 33 ^ rest.length)
  rw [toNat_hash_append, add_sub_assoc]
  push_cast
  exact seedless.symm.add_left _

/-! ### Buckets -/

/-- Every filter that a run makes holds some history. -/
theorem exists_represents_of_run {commands : List Command} {number : Nat} {filter : Filter}
    (read : (Registry.run {} commands).filters[number]? = some filter) :
    ∃ history, filter.Represents history := by
  have tracks := tracks_run tracks_empty commands
  have bound : number < (Histories.run [] commands).length := by
    rw [← tracks.size]
    exact (Array.getElem?_eq_some_iff.1 read).1
  exact ⟨_, tracks.each number filter _ read (List.getElem?_eq_getElem bound)⟩

/-- The hash is a polynomial reduced to a word, and the hash of two strings follows from those of
each. The bucket for a string is the remainder of its hash by the number of buckets, and a filter
that a run made has that bucket. -/
theorem hash_eq_polynomial :
    (∀ item : Bytes,
      (hash item).toNat = (5381 * 33 ^ item.length +
        ∑ i : Fin item.length, item[i].toNat * 33 ^ (item.length - 1 - i)) % 2 ^ 64) ∧
    (∀ front rest : Bytes,
      ((hash (front ++ rest)).toNat : ℤ) =
        ((hash front).toNat * 33 ^ rest.length + (hash rest).toNat - 5381 * 33 ^ rest.length) %
          2 ^ 64) ∧
    ∀ (commands : List Command) (number : Nat) (filter : Filter),
      (Registry.run {} commands).filters[number]? = some filter →
        filter.buckets.size = filter.options.buckets ∧ ∀ item : Bytes,
          filter.bucketIndex item = (hash item).toNat % filter.options.buckets ∧
            filter.bucketIndex item < filter.options.buckets := by
  refine ⟨toNat_hash, toNat_hash_append_eq_sub, ?_⟩
  intro commands number filter read
  obtain ⟨history, represents⟩ := exists_represents_of_run read
  refine ⟨represents.count, fun item => ?_⟩
  rw [bucketIndex_eq, ← represents.count]
  exact ⟨rfl, represents.slot_lt item⟩

/-- Twelve bytes, over which the hash wraps around, in a filter with seven buckets. -/
theorem hash_eq_polynomial_wrapped :
    2 ^ 64 < 5381 * 33 ^ 12 ∧ (hash (utf8 "hypertextual")).toNat = 15242905419750106548 ∧
      ∃ filter, (Registry.run {} [.create ⟨1, 7⟩]).filters[0]? = some filter ∧
        filter.buckets.size = 7 ∧ filter.bucketIndex (utf8 "hypertextual") = 2 := by
  obtain ⟨value, -, bucket⟩ := hash_eq_polynomial
  have whole : (hash (utf8 "hypertextual")).toNat = 15242905419750106548 :=
    (value _).trans (by decide +kernel)
  have read : (Registry.run {} [.create ⟨1, 7⟩]).filters[0]? = some (Filter.empty ⟨1, 7⟩) := rfl
  obtain ⟨count, slots⟩ := bucket _ 0 _ read
  obtain ⟨index, -⟩ := slots (utf8 "hypertextual")
  rw [whole] at index
  exact ⟨by decide, whole, _, read, count, index⟩

end MarkupText.Filter
