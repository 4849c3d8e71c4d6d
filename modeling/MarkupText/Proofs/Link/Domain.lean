import Mathlib.Data.List.DropRight
import MarkupText.Link.Email
import MarkupText.Proofs.Link.Longest

/-!
# Domains as found and as defined

Reading a label goes as far as the size of a label allows and then gives the hyphens at the end
back, so what is read is the longest label there (`isLongest_of_label?`). Nothing is gained by a
shorter one: the byte behind it belongs to the longest label and so is no dot, and the domain ends
there (`isLongest_domain`). Hence reading label after label gives the longest domain
(`isLongest_furtherLabels`).
-/

set_option autoImplicit false

namespace MarkupText.Link

variable {text label further : Bytes}

/-! ### Labels -/

theorem isLabelByte_iff {b : Byte} : isLabelByte b ↔ b.isAlphanumeric ∨ b = Byte.hyphen := by
  rw [isLabelByte, Bool.or_eq_true, decide_eq_true_eq]

theorem not_isLabelByte_dot : ¬ isLabelByte Byte.dot := by decide

/-- What is left of a run without the bytes of a class at its end still begins with all that ends
otherwise. -/
theorem prefix_rdropWhile {drops : Byte → Bool} {front run : Bytes} (begins : front <+: run)
    (last : ∃ b ∈ front.getLast?, ¬ drops b) : front <+: run.rdropWhile drops := by
  obtain ⟨more, rfl⟩ := begins
  -- Bytes are dropped from the end, so the induction takes what stands behind from there.
  induction more using List.reverseRecOn with
  | nil =>
    obtain ⟨b, read, keeps⟩ := last
    have whole : front.rdropWhile drops = front := by
      rw [List.rdropWhile_eq_self_iff]
      intro nonempty
      rwa [List.getLast_of_mem_getLast? read]
    exact ⟨[], by rw [List.append_nil, whole]⟩
  | append_singleton more b ih =>
    rw [← List.append_assoc]
    by_cases drop : drops b
    · rwa [List.rdropWhile_concat_pos _ _ _ drop]
    · rw [List.rdropWhile_concat_neg _ _ _ drop, List.append_assoc]
      exact List.prefix_append _ _

/-- What is read as a label: as many bytes as a label can have, without the hyphens at the end. -/
def labelFront (text : Bytes) : Bytes :=
  ((text.take maxLabelSize).takeWhile isLabelByte).rdropWhile fun b => !b.isAlphanumeric

theorem label?_cons {b : Byte} (h : b.isAlphanumeric) (rest : Bytes) :
    label? (b :: rest) = some (labelFront (b :: rest)) := if_pos h

theorem label?_of_not {b : Byte} (h : ¬ b.isAlphanumeric) (rest : Bytes) :
    label? (b :: rest) = none := if_neg h

theorem labelFront_prefix_run (text : Bytes) :
    labelFront text <+: (text.take maxLabelSize).takeWhile isLabelByte :=
  List.rdropWhile_prefix _ _

theorem prefix_labelFront {front : Bytes} (begins : front <+: text) (h : IsDomainLabel front) :
    front <+: labelFront text := by
  have fits : front <+: text.take maxLabelSize := List.prefix_take_iff.2 ⟨begins, h.size⟩
  have run := prefix_takeWhile fits fun b mem => isLabelByte_iff.2 (h.bytes b mem)
  obtain ⟨b, read, alphanumeric⟩ := h.last
  exact prefix_rdropWhile run ⟨b, read, by rw [alphanumeric]; decide⟩

theorem isDomainLabel_singleton {b : Byte} (h : b.isAlphanumeric) : IsDomainLabel [b] :=
  ⟨fun _ mem => .inl (List.mem_singleton.1 mem ▸ h), ⟨b, rfl, h⟩, ⟨b, rfl, h⟩, Nat.le_add_left 1 62⟩

theorem isDomainLabel_labelFront {b : Byte} (h : b.isAlphanumeric) (rest : Bytes) :
    IsDomainLabel (labelFront (b :: rest)) := by
  have begins := labelFront_prefix_run (b :: rest)
  obtain ⟨more, cut⟩ : [b] <+: labelFront (b :: rest) :=
    prefix_labelFront ⟨rest, rfl⟩ (isDomainLabel_singleton h)
  have nonempty : labelFront (b :: rest) ≠ [] := by
    rw [← cut]
    exact List.cons_ne_nil b more
  refine ⟨fun c mem => ?_, ⟨b, ?_, h⟩, ⟨_, List.getLast?_eq_some_getLast nonempty, ?_⟩, ?_⟩
  · exact isLabelByte_iff.1 (List.mem_takeWhile_imp (begins.subset mem))
  · rw [← cut]
    rfl
  · simpa [labelFront] using List.rdropWhile_last_not (fun c : Byte => !c.isAlphanumeric) _ nonempty
  · calc (labelFront (b :: rest)).length
        ≤ (((b :: rest).take maxLabelSize).takeWhile isLabelByte).length := begins.length_le
      _ ≤ ((b :: rest).take maxLabelSize).length := (List.takeWhile_prefix _).length_le
      _ ≤ maxLabelSize := List.length_take_le _ _

theorem isLongest_of_label? (found : label? text = some label) :
    IsLongest IsDomainLabel text label := by
  cases text with
  | nil => cases found
  | cons b rest =>
    by_cases first : b.isAlphanumeric
    · rw [label?_cons first] at found
      cases found
      have begins := (labelFront_prefix_run (b :: rest)).trans (List.takeWhile_prefix _)
      exact ⟨begins.trans (List.take_prefix _ _), isDomainLabel_labelFront first rest,
        fun other front h => (prefix_labelFront front h).length_le⟩
    · rw [label?_of_not first] at found
      cases found

theorem label?_ne_none {front : Bytes} (begins : front <+: text) (h : IsDomainLabel front) :
    label? text ≠ none := by
  obtain ⟨b, read, first⟩ := h.first
  obtain ⟨rest, rfl⟩ := List.head?_eq_some_iff.1 read
  obtain ⟨more, rfl⟩ := begins
  rw [List.cons_append, label?_cons first]
  exact Option.some_ne_none _

/-! ### Labels with dots between them -/

/-- A domain: a label, and further labels with a dot before each. -/
def IsDomain (text : Bytes) : Prop :=
  ∃ label further, text = label ++ further ∧ IsDomainLabel label ∧ AreFurtherLabels further

theorem areFurtherLabels_cons_iff {b : Byte} :
    AreFurtherLabels (b :: text) ↔ b = Byte.dot ∧ IsDomain text := by
  constructor
  · generalize whole : b :: text = labels
    rintro (_ | ⟨first, others⟩)
    · cases whole
    · rw [List.cons_append] at whole
      cases whole
      exact ⟨rfl, _, _, rfl, first, others⟩
  · rintro ⟨rfl, label, further, rfl, first, others⟩
    exact .cons first others

/-- The longest label is the one to go on from. -/
theorem isLongest_domain (first : IsLongest IsDomainLabel text label)
    (others : IsLongest AreFurtherLabels (text.drop label.length) further) :
    IsLongest IsDomain text (label ++ further) := by
  obtain ⟨rest, rfl⟩ := first.begins
  rw [List.drop_left] at others
  refine ⟨(List.prefix_append_right_inj label).2 others.begins,
    ⟨label, further, rfl, first.belongs, others.belongs⟩, ?_⟩
  rintro _ begins ⟨shorter, more, rfl, short, follow⟩
  have within : shorter <+: label ++ rest := (List.prefix_append shorter more).trans begins
  have le := first.longest shorter within short
  obtain ⟨between, rfl⟩ := List.prefix_of_prefix_length_le within (List.prefix_append _ _) le
  rw [List.append_assoc, List.prefix_append_right_inj] at begins
  cases between with
  | nil =>
    rw [List.append_nil, List.length_append, List.length_append]
    exact Nat.add_le_add_left (others.longest more begins follow) _
  | cons c between =>
    -- The byte behind the shorter label is in the longest one, so no further label begins there.
    have inside : isLabelByte c := isLabelByte_iff.2 (first.belongs.bytes c (by simp))
    cases more with
    | nil => simp
    | cons d more =>
      obtain ⟨rfl, -⟩ := areFurtherLabels_cons_iff.1 follow
      rw [List.cons_append, List.cons_prefix_cons] at begins
      rw [← begins.1] at inside
      exact absurd inside not_isLabelByte_dot

theorem isLongest_furtherLabels_cons {domain : Bytes} (h : IsLongest IsDomain text domain) :
    IsLongest AreFurtherLabels (Byte.dot :: text) (Byte.dot :: domain) := by
  refine ⟨List.cons_prefix_cons.2 ⟨rfl, h.begins⟩, areFurtherLabels_cons_iff.2 ⟨rfl, h.belongs⟩, ?_⟩
  rintro (_ | ⟨b, other⟩) begins labels
  · exact Nat.zero_le _
  · obtain ⟨-, domain⟩ := areFurtherLabels_cons_iff.1 labels
    exact Nat.succ_le_succ (h.longest other (List.cons_prefix_cons.1 begins).2 domain)

/-- Where no dot with a domain behind it stands, there are no further labels. -/
theorem isLongest_furtherLabels_nil
    (h : ∀ domain, IsDomain domain → ¬ Byte.dot :: domain <+: text) :
    IsLongest AreFurtherLabels text [] := by
  refine ⟨List.nil_prefix, .nil, ?_⟩
  rintro (_ | ⟨b, other⟩) begins labels
  · exact Nat.le_refl _
  · obtain ⟨rfl, domain⟩ := areFurtherLabels_cons_iff.1 labels
    exact absurd begins (h other domain)

theorem isLongest_furtherLabels (text : Bytes) :
    ∃ further, IsLongest AreFurtherLabels text further ∧
      further.length = furtherLabelsSize text := by
  fun_induction furtherLabelsSize text with
  | case1 => exact ⟨[], isLongest_furtherLabels_nil (by simp), rfl⟩
  | case2 rest label found ih =>
    obtain ⟨further, others, size⟩ := ih
    refine ⟨_, isLongest_furtherLabels_cons
      (isLongest_domain (isLongest_of_label? found) others), ?_⟩
    rw [List.length_cons, List.length_append, size]
    omega
  | case3 rest found =>
    refine ⟨[], isLongest_furtherLabels_nil ?_, rfl⟩
    rintro _ ⟨label, further, rfl, first, -⟩ begins
    have front := (List.prefix_append label further).trans (List.cons_prefix_cons.1 begins).2
    exact label?_ne_none front first found
  | case4 b rest other =>
    refine ⟨[], isLongest_furtherLabels_nil fun domain _ begins => ?_, rfl⟩
    exact other (List.cons_prefix_cons.1 begins).1.symm

end MarkupText.Link
