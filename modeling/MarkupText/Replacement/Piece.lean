import MarkupText.Buffer.Basic
import MarkupText.Replacement.Basic

/-!
# The pieces of a text

A scan cuts its text into pieces, each passed as it stands or replaced. The pieces cover the text
(`flatMap_span_pieces`), the result of the scan is what stands for them (`bytes_replaceAll`), and
it is a copy exactly if one of them was replaced (`isCopied_replaceAll`). So whatever holds of a
result can be shown piece by piece, and nothing hangs on when the scan writes what it has passed.
-/

set_option autoImplicit false

namespace MarkupText

/-- A stretch of text that one decision covers. -/
inductive Piece
  | kept (span : Bytes)
  | replaced (span output : Bytes)
  deriving DecidableEq, Repr

namespace Piece

/-- What the piece covers. -/
def span : Piece → Bytes
  | kept span => span
  | replaced span _ => span

/-- What stands for it in the result. -/
def output : Piece → Bytes
  | kept span => span
  | replaced _ output => output

/-- Whether something was put in its place. -/
def isReplaced : Piece → Bool
  | kept _ => false
  | replaced _ _ => true

end Piece

namespace Rule

variable (rule : Rule)

/-- The pieces of a text from left to right. -/
def pieces : Bytes → List Piece
  | [] => []
  | b :: rest =>
    match rule b rest with
    | .keep more => .kept (b :: rest.take more) :: pieces (rest.drop more)
    | .replace more output => .replaced (b :: rest.take more) output :: pieces (rest.drop more)
  termination_by text => text.length

/-- The text that stands for the pieces of a text. -/
def output (text : Bytes) : Bytes := (rule.pieces text).flatMap Piece.output

/-- Whether anything in a text is replaced. -/
def replaces (text : Bytes) : Bool := (rule.pieces text).any Piece.isReplaced

variable {rule}

@[simp] theorem output_nil : rule.output [] = [] := by simp [output, pieces]

@[simp] theorem replaces_nil : rule.replaces [] = false := by simp [replaces, pieces]

theorem output_of_keep {b : Byte} {rest : Bytes} {more : Nat} (h : rule b rest = .keep more) :
    rule.output (b :: rest) = b :: rest.take more ++ rule.output (rest.drop more) := by
  simp [output, pieces, h, Piece.output]

theorem output_of_replace {b : Byte} {rest written : Bytes} {more : Nat}
    (h : rule b rest = .replace more written) :
    rule.output (b :: rest) = written ++ rule.output (rest.drop more) := by
  simp [output, pieces, h, Piece.output]

theorem replaces_of_keep {b : Byte} {rest : Bytes} {more : Nat} (h : rule b rest = .keep more) :
    rule.replaces (b :: rest) = rule.replaces (rest.drop more) := by
  simp [replaces, pieces, h, Piece.isReplaced]

theorem replaces_of_replace {b : Byte} {rest written : Bytes} {more : Nat}
    (h : rule b rest = .replace more written) : rule.replaces (b :: rest) = true := by
  simp [replaces, pieces, h, Piece.isReplaced]

/-- Nothing of a text is lost between its pieces. -/
theorem flatMap_span_pieces (text : Bytes) : (rule.pieces text).flatMap Piece.span = text := by
  fun_induction pieces rule text with
  | case1 => rfl
  | case2 b rest more h ih => simp [Piece.span, ih]
  | case3 b rest more written h ih => simp [Piece.span, ih]

/-- Where nothing is replaced, the text stands for itself. -/
theorem output_of_not_replaces {text : Bytes} (h : rule.replaces text = false) :
    rule.output text = text := by
  have kept : ∀ piece ∈ rule.pieces text, piece.output = piece.span := by
    intro piece mem
    cases piece with
    | kept span => rfl
    | replaced span written =>
      simpa [Piece.isReplaced] using List.any_eq_false.1 h _ mem
  calc rule.output text = (rule.pieces text).flatMap Piece.span := by
        rw [output, List.flatMap_def, List.flatMap_def, List.map_congr_left kept]
    _ = text := flatMap_span_pieces text

/-- A scan ends with a copy exactly if it had one already or goes on to replace something. -/
theorem isCopied_scan (buffer : Buffer) (unwritten : Bytes) (passed : Nat) (ahead : Bytes) :
    (rule.scan buffer unwritten passed ahead).isCopied =
      (buffer.isCopied || rule.replaces ahead) := by
  fun_induction scan rule buffer unwritten passed ahead with
  | case1 buffer unwritten passed copied => simp [copied]
  | case2 buffer unwritten passed shared => simp
  | case3 buffer unwritten passed b rest more h ih => rw [ih, replaces_of_keep h]
  | case4 buffer unwritten passed b rest more written h ahead ih =>
    rw [ih, replaces_of_replace h]
    simp

/-- A scan that does not end with a copy leaves its buffer alone, and any other one adds what it
has passed and what stands for all that is ahead. -/
theorem bytes_scan (buffer : Buffer) (unwritten : Bytes) (passed : Nat) (ahead : Bytes)
    (cut : unwritten.drop passed = ahead) :
    (rule.scan buffer unwritten passed ahead).bytes =
      if buffer.isCopied || rule.replaces ahead then
        buffer.ownBytes ++ unwritten.take passed ++ rule.output ahead
      else buffer.bytes := by
  fun_induction scan rule buffer unwritten passed ahead with
  | case1 buffer unwritten passed copied =>
    have all : unwritten.take passed = unwritten := by
      have := List.take_append_drop passed unwritten
      rwa [cut, List.append_nil] at this
    simp [copied, all]
  | case2 buffer unwritten passed shared => simp [shared]
  | case3 buffer unwritten passed b rest more h ih =>
    have step : unwritten.drop (passed + 1 + more) = rest.drop more := by
      rw [Nat.add_assoc, ← List.drop_drop, cut, Nat.add_comm 1 more, List.drop_succ_cons]
    have taken : unwritten.take (passed + 1 + more) =
        unwritten.take passed ++ b :: rest.take more := by
      rw [Nat.add_assoc, List.take_add, cut, Nat.add_comm 1 more, List.take_succ_cons]
    rw [ih step, taken, replaces_of_keep h, output_of_keep h]
    simp only [List.append_assoc, List.cons_append]
  | case4 buffer unwritten passed b rest more written h ahead ih =>
    rw [ih rfl, replaces_of_replace h, output_of_replace h]
    simp [ahead]

/-- The result is a copy exactly if something was replaced. -/
theorem isCopied_replaceAll (text : Bytes) :
    (rule.replaceAll text).isCopied = rule.replaces text := by
  simp [replaceAll, isCopied_scan]

/-- The result is what stands for the pieces. -/
theorem bytes_replaceAll (text : Bytes) : (rule.replaceAll text).bytes = rule.output text := by
  have written : (rule.replaceAll text).bytes = _ := bytes_scan (.shared text) text 0 text rfl
  cases h : rule.replaces text with
  | false => simpa [h, output_of_not_replaces h] using written
  | true => simpa [h, Buffer.ownBytes] using written

end Rule

end MarkupText
