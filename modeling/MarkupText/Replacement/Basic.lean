import MarkupText.Buffer.Basic

/-!
# Replacing parts of a text from left to right

A rule looks at the front of the text and decides how many bytes to pass and whether to put
something else in their place. What it put there is not looked at again. `replaceAll` runs a rule
over a text and copies nothing until the first replacement; stretches that were passed unchanged
are handed to the buffer as a whole.
-/

set_option autoImplicit false

namespace MarkupText

/-- What to do with the byte at the front and the `more` bytes behind it. -/
inductive Decision
  | keep (more : Nat)
  | replace (more : Nat) (output : Bytes)
  deriving DecidableEq, Repr

/-- A decision for each byte that can stand at the front, in view of all that follows it. -/
abbrev Rule := Byte → Bytes → Decision

namespace Rule

/-- Goes on with a rule. Of the text `unwritten`, which starts where the last replacement ended,
the scan has passed `passed` bytes and has the last argument ahead. -/
def scan (rule : Rule) (buffer : Buffer) (unwritten : Bytes) (passed : Nat) : Bytes → Buffer
  | [] => if buffer.isCopied then buffer.write unwritten else buffer
  | b :: rest =>
    match rule b rest with
    | .keep more => scan rule buffer unwritten (passed + 1 + more) (rest.drop more)
    | .replace more output =>
      let ahead := rest.drop more
      scan rule ((buffer.write (unwritten.take passed)).write output) ahead 0 ahead
  termination_by ahead => ahead.length

/-- A text with every replacement of the rule made. -/
def replaceAll (rule : Rule) (text : Bytes) : Buffer := scan rule (.shared text) text 0 text

/-- The places at which the scan asks the rule, each with its byte, counted from `offset`. -/
def stops (rule : Rule) (offset : Nat) : Bytes → List (Nat × Byte)
  | [] => []
  | b :: rest =>
    let more := match rule b rest with
      | .keep more => more
      | .replace more _ => more
    (offset, b) :: stops rule (offset + 1 + more) (rest.drop more)
  termination_by ahead => ahead.length

end Rule

end MarkupText
