import MarkupText.Index
import MarkupText.Reference.Basic

/-!
# The table from a list of references

Names are published as whole references, in an order of their own, and the old ones a second time
without their semicolon. The references with a semicolon are the entries of the table.
-/

set_option autoImplicit false

namespace MarkupText.Reference.Names

/-- A line of a list of references: how one is written, and the text that it stands for. -/
structure Listing where
  reference : Bytes
  characters : Bytes
  deriving DecidableEq, Repr

/-- The line for an entry. -/
def Listing.ofEntry (entry : Entry) : Listing where
  reference := utf8 "&" ++ entry.name ++ utf8 ";"
  characters := entry.characters

/-- The entry in a line, unless the reference lacks its ampersand or its semicolon. -/
def Entry.ofListing? (listing : Listing) : Option Entry :=
  match listing.reference with
  | [] => none
  | b :: rest =>
    if b = Byte.ampersand ∧ rest.getLast? = some Byte.semicolon then
      some { name := rest.dropLast, characters := listing.characters }
    else none

/-- The entries of a list of references. -/
def Listing.entries (listings : List Listing) : List Entry := listings.filterMap Entry.ofListing?

/-- The table of a list of references. -/
def index (listings : List Listing) : Array Entry := indexBy Entry.name (Listing.entries listings)

/-- The text that a name stands for in a table. -/
def find? (table : Array Entry) (name : Bytes) : Option Bytes :=
  (search table fun entry => compare entry.name name).map Entry.characters

end MarkupText.Reference.Names
