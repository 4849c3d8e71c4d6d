import MarkupText.Buffer.Basic

/-!
# Several buffers side by side

A pool starts with one buffer over a source. Copying one adds a buffer, which from then on changes
on its own.
-/

set_option autoImplicit false

namespace MarkupText.Buffer

/-- A change to one buffer. -/
inductive Change
  | write (value : Bytes)
  | writeByte (b : Byte)
  | append (value : Bytes)
  | appendByte (b : Byte)
  deriving DecidableEq, Repr

/-- A buffer with a change made. -/
def change (buffer : Buffer) : Change → Buffer
  | .write value => buffer.write value
  | .writeByte b => buffer.writeByte b
  | .append value => buffer.append value
  | .appendByte b => buffer.appendByte b

/-- A step on a pool: a change to the buffer with a number, or a new buffer like it. -/
inductive Command
  | change (number : Nat) (change : Change)
  | copy (number : Nat)
  deriving DecidableEq, Repr

/-- The buffers there are, by number. -/
structure Pool where
  buffers : Array Buffer
  deriving DecidableEq, Repr

namespace Pool

/-- A pool of one buffer that shares a source. -/
def ofSource (source : Bytes) : Pool := ⟨#[.shared source]⟩

/-- Takes a step; `none` if there is no buffer with the number. -/
def step? (pool : Pool) : Command → Option Pool
  | .change number change =>
    if number < pool.buffers.size then some ⟨pool.buffers.modify number (·.change change)⟩
    else none
  | .copy number => do
    let buffer ← pool.buffers[number]?
    return ⟨pool.buffers.push buffer⟩

/-- Takes steps from left to right. -/
def run? (pool : Pool) (commands : List Command) : Option Pool := commands.foldlM step? pool

end Pool

/-!
### The changes behind a buffer

The changes in the lineage of a buffer, those before it was copied off another one included, and
what they make of a source.
-/

/-- The bytes that a change brings. -/
def Change.payload : Change → Bytes
  | .write value => value
  | .writeByte b => [b]
  | .append value => value
  | .appendByte b => [b]

/-- Whether a change that comes first keeps the source. -/
def Change.keepsSource : Change → Bool
  | .write _ => false
  | .writeByte _ => false
  | .append _ => true
  | .appendByte _ => true

/-- The buffer that a lineage leads to: what the changes bring, in order, behind the source if the
first of them keeps it. -/
def ofLineage (source : Bytes) : List Change → Buffer
  | [] => .shared source
  | first :: rest =>
    let kept := if first.keepsSource then source else []
    .copied (kept ++ (first :: rest).flatMap Change.payload).toArray

/-- The buffer that a step is taken on. -/
def Command.number : Command → Nat
  | .change number _ => number
  | .copy number => number

/-- For each buffer by number, the changes in its lineage. -/
abbrev Lineages := List (List Change)

namespace Lineages

/-- Takes a step. -/
def step (lineages : Lineages) : Command → Lineages
  | .change number change => lineages.modify number (· ++ [change])
  | .copy number => lineages ++ lineages[number]?.toList

/-- Whether each of some steps is taken on a buffer that is there by then. -/
def admits : Lineages → List Command → Bool
  | _, [] => true
  | lineages, command :: rest =>
    command.number < lineages.length && admits (lineages.step command) rest

/-- The lineages after some steps from a single buffer. -/
def ofCommands (commands : List Command) : Lineages := commands.foldl step [[]]

end Lineages

end MarkupText.Buffer
