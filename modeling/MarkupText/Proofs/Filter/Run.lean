import MarkupText.Filter.Registry
import MarkupText.Proofs.Filter.Represents

/-!
# Runs of a registry

A registry and the histories of its filters take the same steps side by side. Each step keeps every
filter in line with its history (`Tracks.after`), and so does every run (`tracks_run`). What the
filters of a registry contain is therefore what the steps say, whatever the shape of the filters and
however additions and derivations follow one another (`contains_iff_mem_run`).
-/

set_option autoImplicit false

namespace MarkupText.Filter

/-- The registry after a step, the same registry if the step cannot be taken. -/
def Registry.after (registry : Registry) (command : Command) : Registry :=
  match registry.step command with
  | .ok (next, _) => next
  | .error _ => registry

theorem Registry.run_eq_foldl (registry : Registry) (commands : List Command) :
    registry.run commands = commands.foldl after registry := rfl

/-- Every filter of a registry holds what its history says. -/
structure Tracks (registry : Registry) (histories : Histories) : Prop where
  size : registry.filters.size = histories.length
  each : ∀ (number : Nat) (filter : Filter) (history : List Bytes),
    registry.filters[number]? = some filter → histories[number]? = some history →
    filter.Represents history

namespace Tracks

variable {registry : Registry} {histories : Histories}

/-- A filter that is new in a registry comes with a history of its own. -/
theorem push (h : Tracks registry histories) {filter : Filter} {history : List Bytes}
    (represents : filter.Represents history) :
    Tracks (registry.push filter) (histories ++ [history]) where
  size := by
    rw [Registry.push, Array.size_push, h.size, List.length_append, List.length_singleton]
  each number other otherHistory read readHistory := by
    rw [Registry.push, Array.getElem?_push, h.size] at read
    split_ifs at read with new
    · rw [new, List.getElem?_concat_length] at readHistory
      cases read
      cases readHistory
      exact represents
    · have old : number < histories.length := by
        have := (List.getElem?_eq_some_iff.1 readHistory).1
        rw [List.length_append, List.length_singleton] at this
        omega
      rw [List.getElem?_append_left old] at readHistory
      exact h.each number other otherHistory read readHistory

/-- A number stands for a filter exactly if it stands for a history. -/
theorem read (h : Tracks registry histories) (number : Nat) :
    (registry.get number = .error (.unknownFilter number) ∧ histories[number]? = none) ∨
    ∃ filter history, registry.get number = .ok filter ∧ registry.filters[number]? = some filter ∧
      histories[number]? = some history ∧ filter.Represents history := by
  unfold Registry.get
  cases read : registry.filters[number]? with
  | none =>
    refine .inl ⟨rfl, List.getElem?_eq_none ?_⟩
    rw [← h.size]
    exact Array.getElem?_eq_none_iff.1 read
  | some filter =>
    have bound := (Array.getElem?_eq_some_iff.1 read).1
    rw [h.size] at bound
    have readHistory := List.getElem?_eq_getElem bound
    exact .inr ⟨filter, _, rfl, rfl, readHistory, h.each number filter _ read readHistory⟩

/-- A member added to a filter goes into the history of that filter alone. -/
theorem modify (h : Tracks registry histories) (target : Nat) (item : Bytes) :
    Tracks { registry with filters := registry.filters.modify target (·.add item) }
      (histories.modify target (· ++ [item])) where
  size := by
    rw [Array.size_modify, List.length_modify]
    exact h.size
  each number filter history read readHistory := by
    rw [Array.getElem?_modify] at read
    rw [List.getElem?_modify] at readHistory
    split_ifs at read with here
    · obtain ⟨before, readBefore, rfl⟩ := Option.map_eq_some_iff.1 read
      simp only [here, if_true] at readHistory
      obtain ⟨past, readPast, rfl⟩ := Option.map_eq_some_iff.1 readHistory
      exact (h.each number before past readBefore readPast).add item
    · simp only [here, if_false, id_map'] at readHistory
      exact h.each number filter history read readHistory

/-- Every step that can be taken does to the filters what it does to the histories, and one that
cannot be taken does nothing to either. -/
theorem after (h : Tracks registry histories) (command : Command) :
    Tracks (registry.after command) (histories.step command) := by
  cases command with
  | create options =>
    simp only [Registry.after, Registry.step, Filter.create, Histories.step]
    cases usable : options.refusal? with
    | none => exact h.push (.empty usable)
    | some refusal => exact h
  | ofList items => exact h.push (.ofList items)
  | copy source =>
    simp only [Registry.after, Registry.step, Histories.step]
    obtain ⟨unknown, past⟩ | ⟨filter, history, known, -, past, represents⟩ := h.read source
    · rw [unknown, past, Option.toList_none, List.append_nil]
      exact h
    · rw [known, past]
      exact h.push represents
  | extend source items =>
    simp only [Registry.after, Registry.step, Histories.step]
    obtain ⟨unknown, past⟩ | ⟨filter, history, known, -, past, represents⟩ := h.read source
    · rw [unknown, past, Option.toList_none, List.map_nil, List.append_nil]
      exact h
    · rw [known, past]
      exact h.push (represents.addAll items)
  | add target item =>
    simp only [Registry.after, Registry.step, Histories.step]
    obtain ⟨unknown, past⟩ | ⟨filter, history, known, -⟩ := h.read target
    · rw [unknown, List.modify_eq_self (List.getElem?_eq_none_iff.1 past)]
      exact h
    · rw [known]
      exact h.modify target item

end Tracks

/-- Every run keeps the filters in line with their histories. -/
theorem tracks_run {registry : Registry} {histories : Histories} (h : Tracks registry histories)
    (commands : List Command) : Tracks (registry.run commands) (histories.run commands) := by
  rw [Registry.run_eq_foldl, Histories.run]
  induction commands generalizing registry histories with
  | nil => exact h
  | cons command commands ih => exact ih (h.after command)

theorem tracks_empty : Tracks {} [] where
  size := rfl
  each number filter history read := by cases read

/-- A step leaves every filter as it is but the one that it adds to. -/
theorem getElem?_after {registry : Registry} {command : Command} {number : Nat} {filter : Filter}
    (read : registry.filters[number]? = some filter)
    (other : ∀ item, command ≠ .add number item) :
    (registry.after command).filters[number]? = some filter := by
  have bound := (Array.getElem?_eq_some_iff.1 read).1
  have old : ∀ new : Filter, (registry.push new).filters[number]? = some filter := fun new => by
    rw [Registry.push, Array.getElem?_push, if_neg (Nat.ne_of_lt bound)]
    exact read
  cases command with
  | create options =>
    simp only [Registry.after, Registry.step]
    cases Filter.create options with
    | ok new => exact old new
    | error refusal => exact read
  | ofList items => exact old _
  | copy source =>
    simp only [Registry.after, Registry.step]
    cases registry.get source with
    | ok new => exact old new
    | error failure => exact read
  | extend source items =>
    simp only [Registry.after, Registry.step]
    cases registry.get source with
    | ok new => exact old _
    | error failure => exact read
  | add target item =>
    simp only [Registry.after, Registry.step]
    cases registry.get target with
    | ok _ =>
      have ne : target ≠ number := by
        rintro rfl
        exact other item rfl
      rw [Array.getElem?_modify, if_neg ne]
      exact read
    | error failure => exact read

/-- After every run, a filter contains exactly the byte strings in its history and its size is the
length of the history, and one step more changes no filter but the one that it adds to. -/
theorem contains_iff_mem_run (commands : List Command) :
    let registry := Registry.run {} commands
    let histories := Histories.run [] commands
    registry.filters.size = histories.length ∧
    (∀ (number : Nat) (filter : Filter) (history : List Bytes),
      registry.filters[number]? = some filter → histories[number]? = some history →
      (∀ item, filter.contains item ↔ item ∈ history) ∧ filter.size = history.length) ∧
    (∀ (command : Command) (number : Nat) (filter : Filter),
      registry.filters[number]? = some filter → (∀ item, command ≠ .add number item) →
      (registry.run [command]).filters[number]? = some filter) := by
  intro registry histories
  have tracks : Tracks registry histories := tracks_run tracks_empty commands
  refine ⟨tracks.size, fun number filter history read readHistory => ?_,
    fun command number filter read other => getElem?_after read other⟩
  have represents := tracks.each number filter history read readHistory
  exact ⟨represents.contains_iff, represents.size⟩

/-- A filter with a single bucket, the empty string and a duplicate in it, after its original has
gone its own way. -/
theorem contains_iff_mem_run_derived :
    let commands : List Command := [.create ⟨8, 1⟩, .add 0 [], .add 0 (utf8 "div"),
      .extend 0 [utf8 "p", utf8 "div"], .add 0 (utf8 "q")]
    let registry := Registry.run {} commands
    ∃ filter, registry.filters[1]? = some filter ∧ filter.contains [] ∧
      filter.contains (utf8 "p") ∧ ¬ filter.contains (utf8 "q") ∧ filter.size = 4 ∧
      (registry.run [.add 0 (utf8 "p")]).filters[1]? = some filter := by
  intro commands registry
  obtain ⟨size, answers, frame⟩ := contains_iff_mem_run commands
  have bound : 1 < registry.filters.size := size ▸ (by decide)
  have read := Array.getElem?_eq_getElem bound
  obtain ⟨contains, length⟩ := answers 1 _ [[], utf8 "div", utf8 "p", utf8 "div"] read (by decide)
  refine ⟨_, read, (contains _).2 (by decide), (contains _).2 (by decide), ?_, length,
    frame _ 1 _ read (by simp)⟩
  rw [contains]
  decide

end MarkupText.Filter
