import MarkupText.Byte
import MarkupText.Filter.Options

/-!
# Filters

A set of byte strings that turns most strangers away without hashing them. For every byte the mask
says at which of the first few indices some member has it. What gets past the mask is looked up in
the bucket of its hash.
-/

set_option autoImplicit false

namespace MarkupText

/-- For every byte, the indices at which members have it, one bit for each. -/
abbrev Filter.Mask := Vector UInt8 256

/-- A growing collection of byte strings. -/
structure Filter where
  options : Filter.Options
  mask : Filter.Mask
  buckets : Array (Array Bytes)
  size : Nat
  deriving DecidableEq, Repr

namespace Filter

/-!
### The hash of a byte string

Each byte is added to thirty-three times the hash of those before it, in words of 64 bits that
wrap around.
-/

/-- The hash of the empty string. -/
def hashSeed : UInt64 := 5381

/-- Takes one more byte into a hash. Thirty-three times a number is that number and the same
shifted by five bits. -/
def hashStep (hash : UInt64) (b : Byte) : UInt64 := (hash <<< 5) + hash + b.toUInt64

/-- The hash of a byte string. -/
def hash (item : Bytes) : UInt64 := item.foldl hashStep hashSeed

/-! ### Members -/

/-- The bit that stands for an index. -/
def bit (index : Nat) : UInt8 := 1 <<< index.toUInt8

/-- Notes the bytes of a member in the mask, the first of them at `index`. -/
def Mask.note (mask : Mask) (index : Nat) : Bytes → Mask
  | [] => mask
  | b :: rest =>
    let noted := mask.set b.toFin (mask.get b.toFin ||| bit index) b.toFin.isLt
    Mask.note noted (index + 1) rest

/-- Whether the mask has every byte where it stands, the first of them at `index`. -/
def Mask.admits (mask : Mask) (index : Nat) : Bytes → Bool
  | [] => true
  | b :: rest => (mask.get b.toFin &&& bit index) ≠ 0 && Mask.admits mask (index + 1) rest

/-- A filter without members. -/
def empty (options : Options) : Filter where
  options
  mask := Vector.replicate 256 0
  buckets := Array.replicate options.buckets #[]
  size := 0

/-- A filter without members, if the options can be used. -/
def create (options : Options) : Except Refusal Filter :=
  match options.refusal? with
  | some refusal => .error refusal
  | none => .ok (empty options)

/-- The index of the bucket for a byte string. -/
def bucketIndex (filter : Filter) (item : Bytes) : Nat := (hash item).toNat % filter.buckets.size

/-- Adds a member. One that is there already is added again. -/
def add (filter : Filter) (item : Bytes) : Filter :=
  let bucket := filter.bucketIndex item
  { filter with
    mask := filter.mask.note 0 (item.take filter.options.prefixThreshold)
    buckets := filter.buckets.modify bucket (·.push item)
    size := filter.size + 1 }

/-- Adds members from left to right. -/
def addAll (filter : Filter) (items : List Bytes) : Filter := items.foldl add filter

/-- A filter of default shape with the given members. -/
def ofList (items : List Bytes) : Filter := (empty {}).addAll items

/-- Whether a byte string is a member. -/
def contains (filter : Filter) (item : Bytes) : Bool :=
  filter.mask.admits 0 (item.take filter.options.prefixThreshold) &&
    (filter.buckets.getD (filter.bucketIndex item) #[]).contains item

/-- Whether there are no members. -/
def isEmpty (filter : Filter) : Bool := filter.size = 0

/-- The bytes that some member has near its front, in ascending order, with their bits. -/
def notedBytes (filter : Filter) : List (Nat × UInt8) :=
  filter.mask.toList.zipIdx.filterMap fun (bits, b) => if bits = 0 then none else some (b, bits)

/-- The buckets with something in them, in ascending order, with their members. -/
def filledBuckets (filter : Filter) : List (Nat × Array Bytes) :=
  filter.buckets.toList.zipIdx.filterMap fun (members, bucket) =>
    if members.isEmpty then none else some (bucket, members)

end Filter

end MarkupText
