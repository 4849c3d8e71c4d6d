import MarkupText.Filter.Options
import MarkupText.Percent

/-!
# Events

What is reported of the work besides its results: a message or the opening of a span, with numbers
under names.
-/

set_option autoImplicit false

namespace MarkupText

/-- Something worth a report. -/
inductive Event
  | strayKept (stray : Percent.Stray)
  | filterCreated (options : Filter.Options)
  | extending (members : Nat)
  | filterDerived (added : Nat)
  deriving DecidableEq, Repr

namespace Event

/-- Whether the event opens a span; any other one is a message. -/
def isSpan : Event → Bool
  | extending _ => true
  | _ => false

/-- The name of a span or the words of a message. -/
def label : Event → String
  | strayKept _ => "kept invalid UTF-8 lead byte unescaped"
  | filterCreated _ => "created bytes filter"
  | extending _ => "extend"
  | filterDerived _ => "derived bytes filter"

/-- The numbers that go with it, under their names. -/
def fields : Event → List (String × Nat)
  | strayKept stray => [("offset", stray.offset), ("byte", stray.byte.toNat)]
  | filterCreated options =>
    [("buckets", options.buckets), ("prefix_threshold", options.prefixThreshold)]
  | extending members => [("members", members)]
  | filterDerived added => [("added", added)]

end Event

end MarkupText
