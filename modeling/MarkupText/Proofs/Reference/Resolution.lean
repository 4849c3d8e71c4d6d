import MarkupText.Replacement.Substitution
import MarkupText.Run
import MarkupText.Proofs.Reference.Spelling

/-!
# Resolving references

A reference has its ampersand in front and its semicolon at the end, and neither in between
(`Delimited`). So no reference begins inside of another one, and none goes on beyond an ampersand:
what stands before an ampersand is resolved by itself (`output_append_ampersand`). A rule that
replaces the spellings of references therefore replaces each of them, wherever it stands, and
nothing else (`Resolves`).
-/

set_option autoImplicit false

namespace MarkupText.Reference

/-- Spellings that reach from an ampersand to the next semicolon and have no other ampersand inside,
each with one meaning. -/
structure Delimited (spelled : Bytes → Bytes → Prop) : Prop where
  shape : ∀ {factor meaning : Bytes}, spelled factor meaning →
    ∃ inside, factor = Byte.ampersand :: (inside ++ [Byte.semicolon]) ∧
      Byte.ampersand ∉ inside ∧ Byte.semicolon ∉ inside
  functional : ∀ {factor meaning another : Bytes}, spelled factor meaning →
    spelled factor another → meaning = another

/-- What it is for a pass to resolve references. Its result is the text with every one replaced and
nothing else, it copies only a text that has some, and each is replaced whatever stands around
it. -/
structure Resolves (spelled : Bytes → Bytes → Prop) (pass : Bytes → Buffer) : Prop where
  substitutes : ∀ text out, Substituted spelled text out ↔ out = (pass text).bytes
  shares : ∀ text, (pass text).isCopied = false ↔ ¬ HasFactor spelled text
  anywhere : ∀ before factor meaning after, spelled factor meaning →
    (pass (before ++ factor ++ after)).bytes =
      (pass before).bytes ++ meaning ++ (pass after).bytes

section Texts

variable {spelled : Bytes → Bytes → Prop} {rule : Rule}

/-! ### Where a reference ends -/

theorem eq_of_append_semicolon {inside other rest behind : Bytes}
    (first : Byte.semicolon ∉ inside) (second : Byte.semicolon ∉ other)
    (same : inside ++ Byte.semicolon :: rest = other ++ Byte.semicolon :: behind) :
    inside = other := by
  have accepted : ∀ {span : Bytes}, Byte.semicolon ∉ span → ∀ b ∈ span, b != Byte.semicolon := by
    intro span absent b mem
    rw [bne_iff_ne]
    rintro rfl
    exact absent mem
  exact (run_unique (· != Byte.semicolon) (by simp) (accepted first) (accepted second) same).1

theorem Delimited.unambiguous (delimited : Delimited spelled) : Unambiguous spelled where
  nonempty := by
    intro meaning known
    obtain ⟨inside, whole, -⟩ := delimited.shape known
    cases whole
  single := by
    intro factor meaning other another rest behind known also same
    obtain ⟨inside, rfl, -, first⟩ := delimited.shape known
    obtain ⟨within, rfl, -, second⟩ := delimited.shape also
    simp only [List.cons_append, List.append_assoc, List.nil_append, List.cons.injEq] at same
    obtain rfl := eq_of_append_semicolon first second same.2
    exact ⟨rfl, delimited.functional known also⟩

/-- A reference has no ampersand but the first byte. -/
theorem Delimited.front (delimited : Delimited spelled) {factor meaning : Bytes}
    (known : spelled factor meaning) :
    ∃ more, factor = Byte.ampersand :: more ∧ Byte.ampersand ∉ more := by
  obtain ⟨inside, rfl, absent, -⟩ := delimited.shape known
  refine ⟨inside ++ [Byte.semicolon], rfl, ?_⟩
  intro mem
  rcases List.mem_append.1 mem with within | last
  · exact absent within
  · exact absurd (List.mem_singleton.1 last) (by decide)

/-- A reference at the front of a text does not go on beyond an ampersand behind the first byte. -/
theorem Delimited.prefix_of_prefix_append (delimited : Delimited spelled)
    {factor meaning front rest : Bytes} {b : Byte} (known : spelled factor meaning)
    (h : factor <+: b :: front ++ Byte.ampersand :: rest) : factor <+: b :: front := by
  obtain ⟨more, rfl, absent⟩ := delimited.front known
  obtain ⟨behind, whole⟩ := h
  rcases List.append_eq_append_iff.1 whole with ⟨left, cut, -⟩ | ⟨beyond, cut, later⟩
  · exact ⟨left, cut.symm⟩
  · cases beyond with
    | nil => exact ⟨[], by rw [cut, List.append_nil, List.append_nil]⟩
    | cons c beyond =>
      obtain ⟨rfl, -⟩ := List.cons.inj later
      rw [List.cons_append] at cut
      rw [(List.cons.inj cut).2] at absent
      exact absurd (List.mem_append_right front List.mem_cons_self) absent

/-! ### What a rule decides -/

variable (delimited : Delimited spelled)
  (decides : ∀ {b rest decision}, rule b rest = decision → Decides spelled b rest decision)

include decides

/-- What a rule replaces is a reference. -/
theorem spelled_of_replace {b : Byte} {rest meaning : Bytes} {more : Nat}
    (replace : rule b rest = .replace more meaning) :
    ∃ factor behind, rest = factor ++ behind ∧ more = factor.length ∧
      spelled (b :: factor) meaning := by
  cases decides replace with
  | reference known => exact ⟨_, _, rfl, rfl, known⟩

theorem rule_of_not_prefix {b : Byte} {rest : Bytes}
    (none : ∀ factor meaning, spelled factor meaning → ¬ factor <+: b :: rest) :
    rule b rest = .keep 0 := by
  generalize decided : rule b rest = decision
  cases decides decided with
  | reference known => exact absurd (List.prefix_append _ _) (none _ _ known)
  | keep _ => rfl

/-- The run of the rule is a substitution: each replacement is a reference, and a byte is kept only
where none begins. -/
theorem substituted_output (text : Bytes) : Substituted spelled text (rule.output text) := by
  induction text using Rule.pieces.induct rule with
  | case1 =>
    rw [Rule.output_nil]
    exact .nil
  | case2 b rest more keep ih =>
    cases decides keep with
    | keep none =>
      rw [Rule.output_of_keep keep]
      exact .byte none ih
  | case3 b rest more written replace ih =>
    obtain ⟨factor, behind, rfl, rfl, known⟩ := spelled_of_replace decides replace
    rw [Rule.output_of_replace replace]
    rw [List.drop_left] at ih ⊢
    exact .factor known ih

/-! ### What it makes of a text -/

include delimited

theorem rule_of_spelled {b : Byte} {more meaning : Bytes} (known : spelled (b :: more) meaning)
    (rest : Bytes) : rule b (more ++ rest) = .replace more.length meaning := by
  generalize whole : more ++ rest = text
  generalize decided : rule b text = decision
  cases decides decided with
  | reference other =>
    obtain ⟨same, rfl⟩ := delimited.unambiguous.single known other (congrArg (b :: ·) whole)
    obtain ⟨-, rfl⟩ := List.cons.inj same
    rfl
  | keep none => exact absurd ⟨rest, congrArg (b :: ·) whole⟩ (none _ _ known)

theorem rule_append_ampersand (b : Byte) (front rest : Bytes) :
    rule b (front ++ Byte.ampersand :: rest) = rule b front := by
  generalize decided : rule b front = decision
  cases decides decided with
  | reference known =>
    rw [List.append_assoc]
    exact rule_of_spelled delimited decides known _
  | keep none =>
    apply rule_of_not_prefix decides
    intro factor meaning known begins
    exact none factor meaning known (delimited.prefix_of_prefix_append known begins)

/-- What stands before an ampersand is resolved by itself. -/
theorem output_append_ampersand (before rest : Bytes) :
    rule.output (before ++ Byte.ampersand :: rest) =
      rule.output before ++ rule.output (Byte.ampersand :: rest) := by
  induction before using Rule.pieces.induct rule with
  | case1 => rw [Rule.output_nil, List.nil_append, List.nil_append]
  | case2 b front more keep ih =>
    obtain rfl := passesBytes decides b front more keep
    have whole := (rule_append_ampersand delimited decides b front rest).trans keep
    rw [List.cons_append, Rule.output_of_keep whole, Rule.output_of_keep keep]
    simp only [List.take_zero, List.drop_zero, List.cons_append, List.nil_append] at ih ⊢
    rw [ih]
  | case3 b front more written replace ih =>
    have whole := (rule_append_ampersand delimited decides b front rest).trans replace
    obtain ⟨factor, behind, rfl, rfl, -⟩ := spelled_of_replace decides replace
    rw [List.cons_append, Rule.output_of_replace whole, Rule.output_of_replace replace]
    rw [List.drop_left] at ih ⊢
    rw [List.append_assoc, List.drop_left, ih, List.append_assoc]

/-- A reference is replaced whatever stands before and behind it. -/
theorem output_append_spelled {factor meaning : Bytes} (known : spelled factor meaning)
    (before after : Bytes) :
    rule.output (before ++ factor ++ after) =
      rule.output before ++ meaning ++ rule.output after := by
  obtain ⟨more, rfl, -⟩ := delimited.front known
  have replaced := rule_of_spelled delimited decides known after
  rw [List.append_assoc, List.cons_append, output_append_ampersand delimited decides,
    Rule.output_of_replace replaced, List.drop_left, List.append_assoc]

theorem resolves : Resolves spelled rule.replaceAll where
  substitutes := by
    intro text out
    rw [Rule.bytes_replaceAll]
    constructor
    · intro other
      exact other.unique delimited.unambiguous (substituted_output decides text)
    · rintro rfl
      exact substituted_output decides text
  shares := by
    intro text
    rw [Rule.isCopied_replaceAll, ← Bool.not_eq_true]
    exact not_congr (replaces_iff_hasFactor decides delimited.unambiguous.nonempty)
  anywhere := by
    intro before factor meaning after known
    simp only [Rule.bytes_replaceAll]
    exact output_append_spelled delimited decides known before after

end Texts

/-! ### References by name -/

namespace Named

theorem delimited : Delimited SpelledByName where
  shape := by
    rintro _ _ ⟨name, numbers, mem⟩
    have absent : ∀ b : Byte, ¬ b.isAlphanumeric → b ∉ utf8 name := fun b other inside =>
      other ((Names.sound_of_mem mem).alphanumeric b inside)
    exact ⟨utf8 name, rfl, absent _ (by decide), absent _ (by decide)⟩
  functional := by
    intro factor meaning another known also
    generalize whole : factor = text at also
    obtain ⟨name, numbers, mem⟩ := known
    obtain ⟨other, others, row⟩ := also
    have same : utf8 name = utf8 other := by simpa using whole
    have found := Names.lookup?_of_mem mem
    rw [same, Names.lookup?_of_mem row] at found
    exact (Option.some.inj found).symm

/-- Named references are resolved, and those are the rows of the table: each row stands for its
characters wherever its name is set between an ampersand and a semicolon. -/
theorem resolve_named :
    Resolves SpelledByName resolve ∧
      ∀ name numbers, (name, numbers) ∈ Names.rows → ∀ before after,
        (resolve (before ++ (utf8 "&" ++ utf8 name ++ utf8 ";") ++ after)).bytes =
          (resolve before).bytes ++ Utf8.encodeAll (numbers.map Char.ofNat) ++
            (resolve after).bytes := by
  have known : Resolves SpelledByName resolve := resolves delimited rule_decides
  refine ⟨known, ?_⟩
  intro name numbers mem before after
  exact known.anywhere before _ _ after (.row name numbers mem)

/-- The reference is replaced although the front of another one seems to stand before it, and the
one that its ampersand completes is not read. -/
theorem resolve_named_ampersand :
    ("amp", [0x26]) ∈ Names.rows ∧
      (resolve (utf8 "&am&amp;lt;")).bytes = utf8 "&am&lt;" := by
  have mem : ("amp", [0x26]) ∈ Names.rows := by
    have small : ("amp", [0x26]) ∈ Names.smallA := by decide
    unfold Names.rows
    simp only [List.mem_append, small, true_or, or_true]
  refine ⟨mem, ?_⟩
  have between := resolve_named.2 "amp" [0x26] mem (utf8 "&am") (utf8 "lt;")
  exact between.trans (by decide +kernel)

end Named

end MarkupText.Reference
