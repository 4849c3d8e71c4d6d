import MarkupText.Byte

/-!
# Copy-on-write buffers

A buffer shares its source until it is first changed, and from then on holds content of its own.
It never goes back. The two kinds of change differ in what the first of them does with the source:
`write` starts from nothing, for a scanner that hands over the stretches it kept by itself, and
`append` starts from a copy.
-/

set_option autoImplicit false

namespace MarkupText

/-- A text that is shared with its source, or a copy that has gone its own way. -/
inductive Buffer
  | shared (source : Bytes)
  | copied (content : Array Byte)
  deriving DecidableEq, Repr

namespace Buffer

/-- The content, shared or not. -/
def bytes : Buffer → Bytes
  | shared source => source
  | copied content => content.toList

/-- Whether the buffer has left its source. -/
def isCopied : Buffer → Bool
  | shared _ => false
  | copied _ => true

/-- The number of bytes. -/
def size : Buffer → Nat
  | shared source => source.length
  | copied content => content.size

/-- Whether there are no bytes. -/
def isEmpty : Buffer → Bool
  | shared source => source.isEmpty
  | copied content => content.isEmpty

/-- The content as an array of its own. -/
def toArray : Buffer → Array Byte
  | shared source => source.toArray
  | copied content => content

/-- Adds bytes at the end, the first time to nothing. -/
def write : Buffer → Bytes → Buffer
  | shared _, value => copied value.toArray
  | copied content, value => copied (content ++ value)

/-- Adds one byte at the end, the first time to nothing. -/
def writeByte : Buffer → Byte → Buffer
  | shared _, b => copied #[b]
  | copied content, b => copied (content.push b)

/-- Adds bytes at the end, the first time to a copy of the source. -/
def append : Buffer → Bytes → Buffer
  | shared source, value => copied (source.toArray ++ value)
  | copied content, value => copied (content ++ value)

/-- Adds one byte at the end, the first time to a copy of the source. -/
def appendByte : Buffer → Byte → Buffer
  | shared source, b => copied (source.toArray.push b)
  | copied content, b => copied (content.push b)

/-- Runs a further pass over the result of earlier ones. A pass that changes nothing leaves that
result in place, so the whole shares its source exactly if every pass did. -/
def andThen (result : Buffer) (pass : Bytes → Buffer) : Buffer :=
  match result with
  | shared source => pass source
  | copied content =>
    match pass content.toList with
    | shared _ => copied content
    | copied changed => copied changed

/-!
### What changes do to the content

One equation for each operation, through `bytes` and `isCopied`.
-/

/-- What a buffer has of its own: all of a copy, and nothing of what it shares. -/
def ownBytes (buffer : Buffer) : Bytes := if buffer.isCopied then buffer.bytes else []

@[simp] theorem bytes_shared (source : Bytes) : (shared source).bytes = source := rfl

@[simp] theorem bytes_copied (content : Array Byte) : (copied content).bytes = content.toList := rfl

@[simp] theorem isCopied_shared (source : Bytes) : (shared source).isCopied = false := rfl

@[simp] theorem isCopied_copied (content : Array Byte) : (copied content).isCopied = true := rfl

@[simp] theorem size_eq (buffer : Buffer) : buffer.size = buffer.bytes.length := by
  cases buffer <;> simp [size, bytes]

@[simp] theorem isEmpty_eq (buffer : Buffer) : buffer.isEmpty = buffer.bytes.isEmpty := by
  cases buffer with
  | shared source => rfl
  | copied content => simp [isEmpty, bytes]

@[simp] theorem toArray_eq (buffer : Buffer) : buffer.toArray = buffer.bytes.toArray := by
  cases buffer <;> rfl

@[simp] theorem isCopied_write (buffer : Buffer) (value : Bytes) :
    (buffer.write value).isCopied = true := by
  cases buffer <;> rfl

@[simp] theorem bytes_write (buffer : Buffer) (value : Bytes) :
    (buffer.write value).bytes = buffer.ownBytes ++ value := by
  cases buffer <;> simp [write, ownBytes]

@[simp] theorem ownBytes_write (buffer : Buffer) (value : Bytes) :
    (buffer.write value).ownBytes = buffer.ownBytes ++ value := by
  simp [ownBytes]

theorem writeByte_eq (buffer : Buffer) (b : Byte) : buffer.writeByte b = buffer.write [b] := by
  cases buffer <;> simp [writeByte, write]

@[simp] theorem isCopied_append (buffer : Buffer) (value : Bytes) :
    (buffer.append value).isCopied = true := by
  cases buffer <;> rfl

@[simp] theorem bytes_append (buffer : Buffer) (value : Bytes) :
    (buffer.append value).bytes = buffer.bytes ++ value := by
  cases buffer <;> simp [append]

theorem appendByte_eq (buffer : Buffer) (b : Byte) : buffer.appendByte b = buffer.append [b] := by
  cases buffer <;> simp [appendByte, append]

end Buffer

end MarkupText
