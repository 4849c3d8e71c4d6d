import Mathlib.Data.List.SplitBy
import MarkupText.Space
import MarkupText.Proofs.Space.Collapse

/-!
# Runs of white space, one by one

A text is made of stretches, white space and ink in turn. The stretches of white space are its
longest runs (`mem_stretches_iff`). Collapsing takes each stretch by itself: a run comes out as one
separator and ink as it is (`output_append`), and something is replaced exactly if some run is not
the separator already (`replaces_append_eq_false_iff`). What comes out has no other runs, and so it
is left alone (`collapse_eq_stretches`).
-/

set_option autoImplicit false

namespace MarkupText.Space

variable {separator : Byte} {text stretch rest : Bytes} {white : Bool}

/-- The longest stretches of a text that are all white space or all ink, from left to right. -/
def stretches (text : Bytes) : List Bytes := text.splitBy fun b c => b.isSpace == c.isSpace

/-- What stands for a stretch once the text is collapsed. -/
def collapsed (separator : Byte) (stretch : Bytes) : Bytes :=
  if isBlank stretch then [separator] else stretch

/-- Whether a text has a run of white space that cannot be made longer. -/
def HasRun (text run : Bytes) : Prop :=
  ∃ front rest, text = front ++ run ++ rest ∧ run ≠ [] ∧ isBlank run ∧
    (∀ b, front.getLast? = some b → ¬ b.isSpace) ∧ Ends Byte.isSpace rest

/-! ### From stretch to stretch -/

/-- Whether a stretch is of one kind and what follows it begins with the other. -/
structure IsStretch (white : Bool) (stretch rest : Bytes) : Prop where
  nonempty : stretch ≠ []
  alike : ∀ b ∈ stretch, b.isSpace = white
  ends : ∀ b, rest.head? = some b → b.isSpace = !white

theorem IsStretch.isBlank_eq (h : IsStretch white stretch rest) : isBlank stretch = white := by
  cases white with
  | true => exact List.all_eq_true.2 h.alike
  | false =>
    obtain ⟨b, more, rfl⟩ := List.exists_cons_of_ne_nil h.nonempty
    rw [isBlank, List.all_cons, h.alike b List.mem_cons_self, Bool.false_and]

theorem IsStretch.exists_run (h : IsStretch true stretch rest) :
    ∃ b more, stretch = b :: more ∧ b.isSpace ∧ (∀ c ∈ more, c.isSpace) ∧
      Ends Byte.isSpace rest := by
  obtain ⟨b, more, rfl⟩ := List.exists_cons_of_ne_nil h.nonempty
  obtain ⟨space, inside⟩ := List.forall_mem_cons.1 h.alike
  exact ⟨b, more, rfl, space, inside, fun c read => Bool.eq_false_iff.1 (h.ends c read)⟩

theorem IsStretch.ink (h : IsStretch false stretch rest) : ∀ b ∈ stretch, ¬ b.isSpace :=
  fun b mem => Bool.eq_false_iff.1 (h.alike b mem)

/-- A text that is not empty begins with a stretch, and stretches follow it. -/
@[elab_as_elim]
theorem stretches_induction {motive : Bytes → Prop} (text : Bytes) (nil : motive [])
    (cons : ∀ white stretch rest, IsStretch white stretch rest → motive rest →
      motive (stretch ++ rest)) : motive text := by
  induction size : text.length using Nat.strongRecOn generalizing text with
  | ind n ih =>
    cases text with
    | nil => exact nil
    | cons b rest =>
      subst size
      obtain ⟨more, behind, rfl, inside, ends⟩ := exists_run (·.isSpace == b.isSpace) rest
      have isStretch : IsStretch b.isSpace (b :: more) behind := by
        refine ⟨List.cons_ne_nil b more, List.forall_mem_cons.2 ⟨rfl, fun c mem => ?_⟩,
          fun c read => ?_⟩
        · exact eq_of_beq (inside c mem)
        · exact Bool.eq_not_of_ne fun same => ends c read (beq_iff_eq.2 same)
      refine cons b.isSpace (b :: more) behind isStretch (ih _ ?_ behind rfl)
      rw [List.length_cons, List.length_append]
      omega

theorem stretches_append (h : IsStretch white stretch rest) :
    stretches (stretch ++ rest) = stretch :: stretches rest := by
  have chain : stretch.IsChain fun b c => (b.isSpace == c.isSpace) = true :=
    (List.pairwise_of_forall_mem_list fun b mem c other => by
      rw [h.alike b mem, h.alike c other, beq_self_eq_true]).isChain
  unfold stretches
  rw [List.splitBy_append, List.splitBy_of_isChain h.nonempty chain, List.singleton_append]
  intro b last c next
  rw [h.alike b (List.mem_of_getLast? last), h.ends c next]
  exact Bool.beq_not_self white

/-! ### The longest runs -/

theorem IsStretch.hasRun (h : IsStretch true stretch rest) : HasRun (stretch ++ rest) stretch := by
  obtain ⟨_, _, _, _, _, ends⟩ := h.exists_run
  refine ⟨[], rest, rfl, h.nonempty, h.isBlank_eq, fun b none => ?_, ends⟩
  cases none

/-- A run is no longer behind one more stretch, for a stretch that it follows at once is ink. -/
theorem HasRun.behind {run : Bytes} (has : HasRun rest run) (h : IsStretch white stretch rest) :
    HasRun (stretch ++ rest) run := by
  obtain ⟨front, behind, rfl, nonempty, blank, before, ends⟩ := has
  refine ⟨stretch ++ front, behind, by simp only [List.append_assoc], nonempty, blank,
    fun b last => ?_, ends⟩
  rw [List.getLast?_append] at last
  cases inFront : front.getLast? with
  | some c =>
    rw [inFront] at last
    cases last
    exact before b inFront
  | none =>
    obtain rfl := List.getLast?_eq_none_iff.1 inFront
    obtain ⟨c, more, rfl⟩ := List.exists_cons_of_ne_nil nonempty
    have other : c.isSpace = !white := h.ends c rfl
    have space : c.isSpace = true := List.all_eq_true.1 blank c List.mem_cons_self
    rw [h.alike b (List.mem_of_getLast? last)]
    rintro rfl
    exact Bool.false_ne_true (other.symm.trans space)

theorem HasRun.mem_stretches {run : Bytes} (has : HasRun text run) : run ∈ stretches text := by
  obtain ⟨front, rest, rfl, nonempty, blank, before, ends⟩ := has
  have isStretch : IsStretch true run rest :=
    ⟨nonempty, List.all_eq_true.1 blank, fun b read => Bool.eq_false_iff.2 (ends b read)⟩
  have apart : stretches (front ++ (run ++ rest)) = stretches front ++ stretches (run ++ rest) := by
    apply List.splitBy_append
    intro b last c next
    obtain ⟨d, more, rfl⟩ := List.exists_cons_of_ne_nil nonempty
    cases next
    rw [isStretch.alike c List.mem_cons_self, Bool.eq_false_iff.2 (before b last)]
    rfl
  rw [List.append_assoc, apart, stretches_append isStretch]
  exact List.mem_append_right _ List.mem_cons_self

/-- The longest runs of a text are its stretches of white space. -/
theorem mem_stretches_iff {run : Bytes} :
    run ∈ stretches text ∧ isBlank run ↔ HasRun text run := by
  constructor
  · rintro ⟨mem, blank⟩
    induction text using stretches_induction with
    | nil => cases mem
    | cons white stretch rest isStretch ih =>
      rw [stretches_append isStretch] at mem
      rcases List.mem_cons.1 mem with rfl | later
      · obtain rfl : true = white := blank.symm.trans isStretch.isBlank_eq
        exact isStretch.hasRun
      · exact (ih later).behind isStretch
  · intro has
    refine ⟨has.mem_stretches, ?_⟩
    obtain ⟨_, _, _, _, blank, _⟩ := has
    exact blank

/-- A run at the front and one at the end. -/
example : stretches [Byte.tab, Byte.lineFeed, 0x5F, 0x61, Byte.space] =
    [[Byte.tab, Byte.lineFeed], [0x5F, 0x61], [Byte.space]] := by decide

/-! ### Collapsing by stretches -/

theorem output_append (h : IsStretch white stretch rest) :
    (collapseRule separator).output (stretch ++ rest) =
      collapsed separator stretch ++ (collapseRule separator).output rest := by
  rw [collapsed, h.isBlank_eq]
  cases white with
  | true =>
    obtain ⟨b, more, rfl, space, inside, ends⟩ := h.exists_run
    rw [List.cons_append, output_cons_of_isSpace space, dropWhile_append_of_ends inside ends]
    rfl
  | false => exact output_append_of_ink h.ink rest

/-- At a run the rule keeps the separator alone and replaces anything else. -/
theorem collapseRule_of_run {b : Byte} {more : Bytes} (space : b.isSpace)
    (inside : ∀ c ∈ more, c.isSpace) (ends : Ends Byte.isSpace rest) :
    collapseRule separator b (more ++ rest) =
      if more = [] ∧ b = separator then .keep 0 else .replace more.length [separator] := by
  rw [collapseRule, if_pos space]
  simp only [takeWhile_append_of_ends inside ends, List.isEmpty_iff]

theorem replaces_append_eq_false_iff (h : IsStretch white stretch rest) :
    (collapseRule separator).replaces (stretch ++ rest) = false ↔
      (isBlank stretch → stretch = [separator]) ∧
        (collapseRule separator).replaces rest = false := by
  rw [h.isBlank_eq]
  cases white with
  | true =>
    obtain ⟨b, more, rfl, space, inside, ends⟩ := h.exists_run
    have decision : collapseRule separator b (more ++ rest) = _ :=
      collapseRule_of_run space inside ends
    rw [List.cons_append]
    by_cases lone : more = [] ∧ b = separator
    · rw [if_pos lone] at decision
      obtain ⟨rfl, rfl⟩ := lone
      rw [Rule.replaces_of_keep decision]
      exact (and_iff_right fun _ => rfl).symm
    · rw [if_neg lone] at decision
      rw [Rule.replaces_of_replace decision]
      refine iff_of_false Bool.false_ne_true.symm fun ⟨same, _⟩ => lone ?_
      obtain ⟨rfl, rfl⟩ := List.cons.inj (same rfl)
      exact ⟨rfl, rfl⟩
  | false =>
    have ink : ∀ b ∈ stretch, ∀ rest, collapseRule separator b rest = .keep 0 :=
      fun b mem rest => if_neg (h.ink b mem)
    rw [Rule.replaces_append_of_keeps ink]
    exact (and_iff_right fun white => absurd white Bool.false_ne_true).symm

theorem output_eq_stretches (separator : Byte) (text : Bytes) :
    (collapseRule separator).output text = (stretches text).flatMap (collapsed separator) := by
  induction text using stretches_induction with
  | nil => exact Rule.output_nil
  | cons white stretch rest isStretch ih =>
    rw [output_append isStretch, stretches_append isStretch, List.flatMap_cons, ih]

theorem replaces_eq_false_iff (separator : Byte) (text : Bytes) :
    (collapseRule separator).replaces text = false ↔
      ∀ run, HasRun text run → run = [separator] := by
  simp only [← mem_stretches_iff, and_imp]
  induction text using stretches_induction with
  | nil => exact iff_of_true Rule.replaces_nil (List.forall_mem_nil _)
  | cons white stretch rest isStretch ih =>
    rw [replaces_append_eq_false_iff isStretch, stretches_append isStretch, ih,
      List.forall_mem_cons]

/-- Collapsing puts one separator in the place of each longest run of white space and keeps
everything else. The text is shared exactly if each of its runs is the separator alone, and a text
that was collapsed before always is. -/
theorem collapse_eq_stretches (separator : Byte) (text : Bytes) :
    (collapse separator text).bytes = (stretches text).flatMap (collapsed separator) ∧
      ((collapse separator text).isCopied = false ↔
        ∀ run, HasRun text run → run = [separator]) ∧
      collapse separator (collapse separator text).bytes =
        .shared (collapse separator text).bytes := by
  have bytes : (collapse separator text).bytes = _ := Rule.bytes_replaceAll text
  refine ⟨bytes.trans (output_eq_stretches separator text), ?_, ?_⟩
  · rw [collapse, Rule.isCopied_replaceAll]
    exact replaces_eq_false_iff separator text
  · rw [bytes]
    exact Rule.replaceAll_of_not_replaces (isCollapsed_output separator text).not_replaces

end MarkupText.Space
