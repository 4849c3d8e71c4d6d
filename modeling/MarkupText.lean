import MarkupText.Buffer.Basic
import MarkupText.Buffer.Pool
import MarkupText.Buffer.Shown
import MarkupText.Byte
import MarkupText.Character.Traits
import MarkupText.Character.Width
import MarkupText.Escape
import MarkupText.Event
import MarkupText.Filter.Basic
import MarkupText.Filter.Options
import MarkupText.Filter.Registry
import MarkupText.Fold.Basic
import MarkupText.Fold.Table
import MarkupText.Index
import MarkupText.Line.Indent
import MarkupText.Link.Email
import MarkupText.Link.Url
import MarkupText.Percent
import MarkupText.Reference.Basic
import MarkupText.Reference.Index
import MarkupText.Reference.Spelling
import MarkupText.Reference.Table
import MarkupText.Replacement.Basic
import MarkupText.Replacement.Piece
import MarkupText.Replacement.Substitution
import MarkupText.Run
import MarkupText.Search
import MarkupText.Space
import MarkupText.Transform
import MarkupText.Utf8
import MarkupText.Proofs.Backslash
import MarkupText.Proofs.Backslash.Escaping
import MarkupText.Proofs.Backslash.Parity
import MarkupText.Proofs.Buffer.Lineage
import MarkupText.Proofs.Byte
import MarkupText.Proofs.Filter.Exact
import MarkupText.Proofs.Filter.Hash
import MarkupText.Proofs.Filter.Mask
import MarkupText.Proofs.Filter.Represents
import MarkupText.Proofs.Filter.Run
import MarkupText.Proofs.Fold.Folded
import MarkupText.Proofs.Fold.Plain
import MarkupText.Proofs.Fold.Rule
import MarkupText.Proofs.Fold.Table
import MarkupText.Proofs.Fold.Text
import MarkupText.Proofs.Html
import MarkupText.Proofs.Line.Blank
import MarkupText.Proofs.Line.Bytewise
import MarkupText.Proofs.Line.Columns
import MarkupText.Proofs.Line.Indent
import MarkupText.Proofs.Line.Nested
import MarkupText.Proofs.Line.Padding
import MarkupText.Proofs.Link.Domain
import MarkupText.Proofs.Link.Email
import MarkupText.Proofs.Link.Label
import MarkupText.Proofs.Link.Longest
import MarkupText.Proofs.Link.Normal
import MarkupText.Proofs.Link.Url
import MarkupText.Proofs.Percent.Decoding
import MarkupText.Proofs.Percent.Escaped
import MarkupText.Proofs.Percent.Strays
import MarkupText.Proofs.Reference.Index
import MarkupText.Proofs.Reference.Names
import MarkupText.Proofs.Reference.Numeral
import MarkupText.Proofs.Reference.OnePass
import MarkupText.Proofs.Reference.Plain
import MarkupText.Proofs.Reference.Resolution
import MarkupText.Proofs.Reference.Rules
import MarkupText.Proofs.Reference.Spelling
import MarkupText.Proofs.Replacement.Change
import MarkupText.Proofs.Replacement.Characters
import MarkupText.Proofs.Replacement.Pass
import MarkupText.Proofs.Space.Collapse
import MarkupText.Proofs.Space.Runs
import MarkupText.Proofs.Space.Trim
import MarkupText.Proofs.Space.Words
import MarkupText.Proofs.Transform.Sharing
import MarkupText.Proofs.Transform.WellFormed
import MarkupText.Proofs.Utf8.Encode
import MarkupText.Proofs.Utf8.Front
import MarkupText.Proofs.Utf8.Position
import MarkupText.Proofs.Utf8.Reading
import MarkupText.Proofs.Utf8.WellFormed

/-!
# Texts in markup

What a Markdown processor does to texts, byte by byte: it writes them for HTML and for URLs, takes
markup back to the text it stands for, compares link labels, finds links in running text, measures
indentation, and keeps sets of short byte strings.

* `MarkupText.Byte`, `MarkupText.Utf8`, `MarkupText.Character`, `MarkupText.Run`,
  `MarkupText.Search`, `MarkupText.Index`: bytes and characters, and tools for texts and tables.
* `MarkupText.Buffer`, `MarkupText.Replacement`: texts that are copied only once they change, and
  the scan that all replacements share.
* `MarkupText.Escape`, `MarkupText.Reference`, `MarkupText.Percent`, `MarkupText.Space`,
  `MarkupText.Fold`, `MarkupText.Transform`: the transforms.
* `MarkupText.Link`, `MarkupText.Line`: links and indentation.
* `MarkupText.Filter`, `MarkupText.Event`: sets of byte strings, and what is reported of the work.
* `MarkupText.Proofs`: what holds of them, under the same names.
-/
