import MarkupText.Byte

/-!
# Indentation

Columns of an indented line. A tab reaches to the next multiple of four, counted from the start of
the whole line, so its width depends on the column at which it stands. Functions take the column
at which their part of the line begins.
-/

set_option autoImplicit false

namespace MarkupText.Line

/-- The distance between two tab stops. -/
def tabStop : Nat := 4

/-- The width of a tab that stands at a column. -/
def tabAdvance (column : Nat) : Nat := tabStop - column % tabStop

/-- The number of columns that bytes take up from column `start` on. A tab reaches to the next tab
stop, and any other byte takes up one column. -/
def columns (start : Nat) (bytes : Bytes) : Nat :=
  bytes.foldl (fun passed b =>
    if b = Byte.tab then passed + tabAdvance (start + passed) else passed + 1) 0

/-- The bytes that an indentation is made of. -/
def isIndent (b : Byte) : Bool := b = Byte.space || b = Byte.tab

/-- The width of a space or tab that stands at a column; `none` for a byte that ends the
indentation. -/
def indentStep? (column : Nat) (b : Byte) : Option Nat :=
  if b = Byte.space then some 1
  else if b = Byte.tab then some (tabAdvance column)
  else none

/-- The columns and bytes that indentation takes up. -/
structure Extent where
  columns : Nat
  bytes : Nat
  deriving DecidableEq, Repr

/-- Goes on measuring the indentation of a line that begins at column `start`, with the extent
`passed` behind it. -/
def extend (start : Nat) (passed : Extent) : Bytes → Extent
  | [] => passed
  | b :: rest =>
    match indentStep? (start + passed.columns) b with
    | some width => extend start ⟨passed.columns + width, passed.bytes + 1⟩ rest
    | none => passed

/-- The indentation of a line that begins at column `start`. -/
def indentation (line : Bytes) (start : Nat) : Extent := extend start ⟨0, 0⟩ line

/-- Where an indent of a given width ends: the number of bytes in it, and the number of columns by
which the last tab goes beyond it. -/
structure Cut where
  index : Nat
  overshoot : Nat
  deriving DecidableEq, Repr

/-- Goes on looking for the end of an indent of `width` columns, with the extent `passed` behind
it. -/
def seek (start width : Nat) (passed : Extent) (line : Bytes) : Option Cut :=
  if width ≤ passed.columns then some ⟨passed.bytes, passed.columns - width⟩
  else match line with
    | [] => none
    | b :: rest =>
      match indentStep? (start + passed.columns) b with
      | some step => seek start width ⟨passed.columns + step, passed.bytes + 1⟩ rest
      | none => none

/-- The end of an indent of `width` columns in a line whose first `padding` bytes stand for the
rest of a tab that was cut before. The index does not count those bytes. An indent of no width
leaves the whole padding over. -/
def cutPadded? (line : Bytes) (start padding width : Nat) : Option Cut :=
  if width = 0 then some ⟨0, padding⟩
  else (seek start width ⟨0, 0⟩ line).map fun cut => { cut with index := cut.index - padding }

/-- The end of an indent of `width` columns; `none` if the line is not indented as far. -/
def cut? (line : Bytes) (start width : Nat) : Option Cut := cutPadded? line start 0 width

/-- The index of the first byte that is neither a space nor a tab; `none` if there is none or if
it is a line feed. -/
def firstInk? (line : Bytes) : Option Nat :=
  let indent := line.takeWhile isIndent
  match line.drop indent.length with
  | [] => none
  | b :: _ => if b = Byte.lineFeed then none else some indent.length

end MarkupText.Line
