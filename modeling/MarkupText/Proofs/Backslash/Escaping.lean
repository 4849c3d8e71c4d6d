import MarkupText.Escape
import MarkupText.Proofs.Backslash

/-!
# Putting backslashes in

Which bytes get a backslash in front is left open but for two things (`IsEscaping`): nothing but
punctuation gets one, since before anything else a backslash stands for itself, and every backslash
gets one, since it might escape what follows. The scan then takes away the backslashes that were put
in and nothing else (`unescape_escapeFrom`).
-/

set_option autoImplicit false

namespace MarkupText.Backslash

variable {picks : Nat → Bool} {index : Nat} {b : Byte} {rest text : Bytes}

/-- A choice of bytes to escape in a text, the first byte of which has the number `index`. -/
structure IsEscaping (picks : Nat → Bool) (index : Nat) (text : Bytes) : Prop where
  punctuation : ∀ more b, text[more]? = some b → picks (index + more) → b.isPunctuation
  backslashes : ∀ more, text[more]? = some Byte.backslash → picks (index + more)

theorem IsEscaping.tail (h : IsEscaping picks index (b :: rest)) :
    IsEscaping picks (index + 1) rest := by
  constructor
  · intro more c read picked
    rw [Nat.add_right_comm, Nat.add_assoc] at picked
    exact h.punctuation (more + 1) c read picked
  · intro more read
    rw [Nat.add_right_comm, Nat.add_assoc]
    exact h.backslashes (more + 1) read

/-- A byte that is not picked begins no escape, whatever was put in behind it. -/
theorem IsEscaping.rule_keep (h : IsEscaping picks index (b :: rest)) (left : picks index = false)
    (behind : Bytes) : rule b behind = .keep 0 := by
  apply Backslash.rule_keep
  intro backslash
  have picked := h.backslashes 0 (congrArg some backslash)
  rw [Nat.add_zero, left] at picked
  cases picked

theorem output_escapeFrom (h : IsEscaping picks index text) :
    rule.output (escapeFrom picks index text) = text := by
  induction text generalizing index with
  | nil => exact Rule.output_nil
  | cons b rest ih =>
    rw [escapeFrom]
    cases picked : picks index with
    | false =>
      have keep := h.rule_keep picked (escapeFrom picks (index + 1) rest)
      simp only [Bool.false_eq_true, if_false]
      rw [Rule.output_of_keep keep, List.take_zero, List.drop_zero, ih h.tail]
      rfl
    | true =>
      -- the backslash that was put in and the byte behind it are one escape
      have punctuation : b.isPunctuation := h.punctuation 0 b rfl picked
      have escape := rule_escape punctuation (escapeFrom picks (index + 1) rest)
      simp only [if_true]
      rw [Rule.output_of_replace escape, List.drop_succ_cons, List.drop_zero, ih h.tail]
      rfl

/-- Unescaping takes back the backslashes that were put in before punctuation of a text, whichever
was picked, as long as all backslashes of the text were. -/
theorem unescape_escapeFrom {picks : Nat → Bool} {text : Bytes}
    (punctuation : ∀ index b, text[index]? = some b → picks index → b.isPunctuation)
    (backslashes : ∀ index, text[index]? = some Byte.backslash → picks index) :
    (unescape (escapeFrom picks 0 text)).bytes = text := by
  have escaping : IsEscaping picks 0 text := by
    constructor
    · intro more b read picked
      rw [Nat.zero_add] at picked
      exact punctuation more b read picked
    · intro more read
      rw [Nat.zero_add]
      exact backslashes more read
  rw [unescape, Rule.bytes_replaceAll, output_escapeFrom escaping]

/-- A star that is left alone behind a backslash of the text, and a backslash at the end. -/
theorem unescape_escapeFrom_star :
    let text := utf8 "\\*a_\\"
    let picks : Nat → Bool := fun index => [0, 3, 4].contains index
    escapeFrom picks 0 text = utf8 "\\\\*a\\_\\\\" ∧
      (unescape (escapeFrom picks 0 text)).bytes = text := by
  intro text picks
  refine ⟨by decide, unescape_escapeFrom ?_ ?_⟩
  · intro index b read picked
    simp only [picks, List.contains_iff_mem, List.mem_cons, List.not_mem_nil, or_false] at picked
    rcases picked with rfl | rfl | rfl
    all_goals
      cases read
      decide
  · intro index read
    have all : ∀ index < 5, text[index]? = some Byte.backslash → picks index := by decide
    exact all index (List.getElem?_eq_some_iff.1 read).1 read

end MarkupText.Backslash
