import MarkupText.Replacement.Basic
import MarkupText.Utf8

/-!
# White space

Two sets of bytes count as white space. Trimming takes off the wide one, with vertical tab and
form feed in it; counting, blankness, runs and words go by the bytes that separate words.
-/

set_option autoImplicit false

namespace MarkupText.Space

/-! ### At the ends of a text -/

/-- The bytes that trimming takes off. -/
def trimmed : Bytes :=
  [Byte.space, Byte.tab, Byte.lineFeed, Byte.verticalTab, Byte.formFeed, Byte.carriageReturn]

/-- A text without the bytes of a set at its front. -/
def trimLeftOf (set text : Bytes) : Bytes := text.dropWhile set.contains

/-- A text without the bytes of a set at its end. -/
def trimRightOf (set text : Bytes) : Bytes := (text.reverse.dropWhile set.contains).reverse

/-- A text without white space at its front. -/
def trimLeft (text : Bytes) : Bytes := trimLeftOf trimmed text

/-- A text without white space at its end. -/
def trimRight (text : Bytes) : Bytes := trimRightOf trimmed text

/-- The number of word-separating bytes at the front. -/
def leftSize (text : Bytes) : Nat := (text.takeWhile Byte.isSpace).length

/-- The number of word-separating bytes at the end. -/
def rightSize (text : Bytes) : Nat := (text.reverse.takeWhile Byte.isSpace).length

/-- Whether there is nothing but word-separating bytes. -/
def isBlank (text : Bytes) : Bool := text.all Byte.isSpace

/-! ### Runs inside of a text -/

/-- Puts `separator` in the place of a run, unless the run is that byte alone. -/
def collapseRule (separator : Byte) : Rule := fun b rest =>
  if b.isSpace then
    let run := rest.takeWhile Byte.isSpace
    if run.isEmpty ∧ b = separator then .keep 0 else .replace run.length [separator]
  else .keep 0

/-- A text with every run of word-separating bytes made a single `separator`. -/
def collapse (separator : Byte) (text : Bytes) : Buffer := (collapseRule separator).replaceAll text

/-!
### Words

A text as the words in it, which is all that is left of it once white space does not count.
-/

/-- The longest runs of bytes that separate no words, from left to right. -/
def words : Bytes → List Bytes
  | [] => []
  | b :: rest =>
    if b.isSpace then words rest
    else
      let more := rest.takeWhile (!·.isSpace)
      (b :: more) :: words (rest.drop more.length)
  termination_by text => text.length

/-- The words with a separator between each two of them. -/
def join (separator : Byte) (ws : List Bytes) : Bytes := [separator].intercalate ws

/-!
### White space made visible

For diagnostics, bytes that show nothing are written as their names in brackets, and so is the
replacement character. A line feed keeps its line break behind the name.
-/

/-- The name of a byte that shows nothing. -/
def name? (b : Byte) : Option Bytes :=
  if b = Byte.space then some (utf8 "[SPACE]")
  else if b = Byte.tab then some (utf8 "[TAB]")
  else if b = Byte.lineFeed then some (utf8 "[NEWLINE]\n")
  else if b = Byte.carriageReturn then some (utf8 "[CR]")
  else if b = Byte.verticalTab then some (utf8 "[VTAB]")
  else if b = Byte.nul then some (utf8 "[NUL]")
  else none

/-- Puts a name in the place of a byte that shows nothing or of a replacement character. -/
def visibleRule : Rule := fun b rest =>
  match name? b with
  | some name => .replace 0 name
  | none =>
    if (Utf8.encode Utf8.replacement).isPrefixOf (b :: rest) then .replace 2 (utf8 "[U+FFFD]")
    else .keep 0

/-- A text with everything that shows nothing made visible. -/
def visible (text : Bytes) : Bytes := (visibleRule.replaceAll text).bytes

end MarkupText.Space
