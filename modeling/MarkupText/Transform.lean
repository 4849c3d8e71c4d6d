import MarkupText.Escape
import MarkupText.Event
import MarkupText.Fold.Basic
import MarkupText.Space

/-!
# Transforms

The transforms of text as values, so that several of them can be run one after the other.
-/

set_option autoImplicit false

namespace MarkupText

/-- A transform, with all that it needs besides the text. -/
inductive Transform
  | escapeHtml
  | unescape
  | resolveNumeric
  | resolveNamed
  | resolve
  | fold
  | escapeUrl (resolves : Bool)
  | collapse (separator : Byte)
  | labelKey
  | visible
  | trimLeft (set : Bytes)
  | trimRight (set : Bytes)
  deriving DecidableEq, Repr

/-- What a transform gives: a buffer where it keeps track of changes, and else a plain text. -/
inductive Transform.Result
  | tracked (buffer : Buffer)
  | plain (text : Bytes)
  deriving DecidableEq, Repr

namespace Transform

/-- The text that came out. -/
def Result.bytes : Result → Bytes
  | tracked buffer => buffer.bytes
  | plain text => text

/-- Runs a transform on a text. -/
def run (transform : Transform) (text : Bytes) : Result :=
  match transform with
  | escapeHtml => .tracked (Html.escape text)
  | unescape => .tracked (Backslash.unescape text)
  | resolveNumeric => .tracked (Reference.Numeric.resolve text)
  | resolveNamed => .tracked (Reference.Named.resolve text)
  | resolve => .tracked (Reference.resolve text)
  | fold => .tracked (Fold.fold text)
  | escapeUrl resolves => .tracked (Percent.escape resolves text)
  | collapse separator => .tracked (Space.collapse separator text)
  | labelKey => .plain (Link.Label.key text)
  | visible => .plain (Space.visible text)
  | trimLeft set => .plain (Space.trimLeftOf set text)
  | trimRight set => .plain (Space.trimRightOf set text)

/-- What there is to report of a run. -/
def events (transform : Transform) (text : Bytes) : List Event :=
  match transform with
  | escapeUrl resolves => (Percent.strays (Percent.destination resolves text).bytes).map .strayKept
  | _ => []

/-- Runs transforms one after the other, each on what came out of the one before it, and gives all
their results. -/
def chain : List Transform → Bytes → List Result
  | [], _ => []
  | transform :: rest, text =>
    let result := transform.run text
    result :: chain rest result.bytes

/-- What there is to report of a chain. -/
def chainEvents : List Transform → Bytes → List Event
  | [], _ => []
  | transform :: rest, text => transform.events text ++ chainEvents rest (transform.run text).bytes

end Transform

end MarkupText
