import MarkupText.Event
import MarkupText.Filter.Basic

/-!
# Several filters side by side

Filters are numbered in the order in which they come to be. New ones start empty, with given
members, or from the members of another one, which stays as it is.
-/

set_option autoImplicit false

namespace MarkupText.Filter

/-- The filters there are, by number. -/
structure Registry where
  filters : Array Filter := #[]
  deriving DecidableEq, Repr

/-- A step that makes a filter or adds to one. -/
inductive Command
  | create (options : Options)
  | ofList (items : List Bytes)
  | copy (source : Nat)
  | extend (source : Nat) (items : List Bytes)
  | add (target : Nat) (item : Bytes)
  deriving DecidableEq, Repr

/-- Why a step cannot be taken. -/
inductive Failure
  | refused (refusal : Refusal)
  | unknownFilter (number : Nat)
  deriving DecidableEq, Repr

namespace Registry

/-- A registry with one filter more. -/
def push (registry : Registry) (filter : Filter) : Registry :=
  { registry with filters := registry.filters.push filter }

/-- The filter with a number. -/
def get (registry : Registry) (number : Nat) : Except Failure Filter :=
  match registry.filters[number]? with
  | some filter => .ok filter
  | none => .error (.unknownFilter number)

/-- Takes a step, and tells what there is to report of it. -/
def step (registry : Registry) : Command → Except Failure (Registry × List Event)
  | .create options =>
    match Filter.create options with
    | .ok filter => .ok (registry.push filter, [.filterCreated options])
    | .error refusal => .error (.refused refusal)
  | .ofList items =>
    let filter := Filter.ofList items
    .ok (registry.push filter, [.filterCreated filter.options])
  | .copy source =>
    match registry.get source with
    | .ok filter => .ok (registry.push filter, [])
    | .error failure => .error failure
  | .extend source items =>
    match registry.get source with
    | .ok filter =>
      let derived := filter.addAll items
      .ok (registry.push derived,
        [.extending filter.size, .filterDerived (derived.size - filter.size)])
    | .error failure => .error failure
  | .add target item =>
    match registry.get target with
    | .ok _ => .ok ({ registry with filters := registry.filters.modify target (·.add item) }, [])
    | .error failure => .error failure

/-- Takes steps from left to right; one that cannot be taken changes nothing. -/
def run (registry : Registry) (commands : List Command) : Registry :=
  commands.foldl (fun registry command =>
    match registry.step command with
    | .ok (next, _) => next
    | .error _ => registry) registry

end Registry

/-!
### What was added to each filter

The same steps as for filters, taken on plain lists of what was added, with nothing hashed and
nothing masked.
-/

/-- For each filter by number, all that was ever added to it or to what it came from, in order. -/
abbrev Histories := List (List Bytes)

namespace Histories

/-- Takes a step. -/
def step (histories : Histories) : Command → Histories
  | .create options => if options.refusal? = none then histories ++ [[]] else histories
  | .ofList items => histories ++ [items]
  | .copy source => histories ++ histories[source]?.toList
  | .extend source items => histories ++ histories[source]?.toList.map (· ++ items)
  | .add target item => histories.modify target (· ++ [item])

/-- Takes steps from left to right. -/
def run (histories : Histories) (commands : List Command) : Histories :=
  commands.foldl step histories

end Histories

/-!
### The options of each filter

The steps for filters, taken on their options alone. A filter keeps the options that it was made
with, and one that was derived has those of the filter it came from.
-/

/-- For each filter by number, its options. -/
abbrev Shapes := List Options

namespace Shapes

/-- Takes a step. -/
def step (shapes : Shapes) : Command → Shapes
  | .create options => if options.refusal? = none then shapes ++ [options] else shapes
  | .ofList _ => shapes ++ [{}]
  | .copy source => shapes ++ shapes[source]?.toList
  | .extend source _ => shapes ++ shapes[source]?.toList
  | .add _ _ => shapes

/-- Takes steps from left to right. -/
def run (shapes : Shapes) (commands : List Command) : Shapes := commands.foldl step shapes

end Shapes

end MarkupText.Filter
