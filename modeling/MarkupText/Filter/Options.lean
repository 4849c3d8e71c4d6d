/-!
# Options of a filter

How many leading bytes of its members a filter remembers one by one, and how many buckets it
spreads them over. Options come from a configuration, as a record or as a list of values, and not
all that can be written down can be used.
-/

set_option autoImplicit false

namespace MarkupText.Filter

/-- The shape of a filter. -/
structure Options where
  prefixThreshold : Nat := 3
  buckets : Nat := 64
  deriving DecidableEq, Repr

/-- A value in a configuration. Only numbers without sign or fraction matter here; any other value
that has no parts is `other`. -/
inductive Setting
  | natural (value : Nat)
  | other
  | list (items : List Setting)
  | fields (entries : List (String × Setting))
  deriving Inhabited

/-- The number of numbers that a setting can hold. -/
def wordRange : Nat := UInt64.size

/-- The number that a setting is. -/
def Setting.natural? : Setting → Option Nat
  | .natural value => if value < wordRange then some value else none
  | _ => none

/-- The number under a name in a record, or the default where the name is missing. -/
def Setting.field? (entries : List (String × Setting)) (name : String) (default : Nat) :
    Option Nat :=
  match entries.lookup name with
  | some setting => setting.natural?
  | none => some default

/-- The options that a setting describes. A record names them, and names that mean nothing are
passed over; a list has them in order, and may leave out the last ones. -/
def Options.ofSetting? : Setting → Option Options
  | .fields entries => do
    let prefixThreshold ←
      Setting.field? entries "prefix_threshold" ({} : Options).prefixThreshold
    let buckets ← Setting.field? entries "buckets" ({} : Options).buckets
    return { prefixThreshold, buckets }
  | .list [] => some {}
  | .list [first] => do
    let prefixThreshold ← first.natural?
    return { prefixThreshold }
  | .list [first, second] => do
    let prefixThreshold ← first.natural?
    let buckets ← second.natural?
    return { prefixThreshold, buckets }
  | _ => none

/-- The most leading bytes that a filter can remember: one bit of a byte for each. -/
def maxPrefixThreshold : Nat := 8

/-- Why there is no filter with given options. -/
inductive Refusal
  | noBuckets
  | prefixTooLong (threshold : Nat)
  deriving DecidableEq, Repr

/-- The reason in words. -/
def Refusal.message : Refusal → String
  | .noBuckets => "a bytes filter needs at least one bucket"
  | .prefixTooLong threshold =>
    "prefix threshold " ++ threshold.repr ++ " exceeds the maximum of " ++ maxPrefixThreshold.repr

/-- What is wrong with options, the lack of buckets before all else. -/
def Options.refusal? (options : Options) : Option Refusal :=
  if options.buckets = 0 then some .noBuckets
  else if maxPrefixThreshold < options.prefixThreshold then
    some (.prefixTooLong options.prefixThreshold)
  else none

end MarkupText.Filter
