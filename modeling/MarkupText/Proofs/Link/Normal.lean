import MarkupText.Proofs.Link.Label

/-!
# Keys in normal form

A label is in normal form if it is trimmed, collapsed and folded (`IsNormal`). Every key is
(`isNormal_key`), and a label in normal form is its own key (`key_eq_self`).
-/

set_option autoImplicit false

namespace MarkupText.Link.Label

/-- A label that none of the passes for keys changes. -/
structure IsNormal (label : Bytes) : Prop where
  tight : Space.IsTight Space.trimmed label
  collapsed : Space.IsCollapsed Byte.space label
  folded : Fold.IsFolded label

/-- A label in normal form is its own key. -/
theorem key_eq_self {label : Bytes} (h : IsNormal label) : key label = label := by
  have trimmed : Space.trim label = label := by
    have alone := Space.trim_eq h.tight (List.forall_mem_nil _) (List.forall_mem_nil _)
    rwa [List.nil_append, List.append_nil] at alone
  rw [key_eq_output, trimmed, Rule.output_of_not_replaces h.folded.not_replaces,
    Rule.output_of_not_replaces h.collapsed.not_replaces]

/-! ### The form of a key -/

/-- Collapsing leaves the ends of a text without white space there as they are. -/
theorem isTight_collapse {text : Bytes} (h : Space.IsTight Space.trimmed text) :
    Space.IsTight Space.trimmed ((Space.collapseRule Byte.space).output text) where
  first b read := by
    have ends : Ends Byte.isSpace text :=
      fun c front space => h.first c front (Space.mem_trimmed_of_isSpace space)
    exact h.first b ((Space.head?_output ends).symm.trans read)
  last b read := by
    cases final : text.getLast? with
    | none =>
      rw [List.getLast?_eq_none_iff.1 final, Rule.output_nil] at read
      cases read
    | some c =>
      have outside := h.last c final
      have stays := Space.getLast?_output Byte.space final fun space =>
        outside (Space.mem_trimmed_of_isSpace space)
      rw [stays] at read
      exact Option.some.inj read ▸ outside

/-- Joined words are folded word by word. -/
theorem output_join (ws : List Bytes) :
    Fold.rule.output (Space.join Byte.space ws) =
      Space.join Byte.space (ws.map Fold.rule.output) := by
  have space : Byte.space.isSpace := by decide
  have ends := Utf8.ends_of_isAscii (Space.isAscii_of_isSpace space)
  induction ws with
  | nil => exact Rule.output_nil
  | cons w ws ih =>
    cases ws with
    | nil => rw [List.map_singleton, Space.join_singleton, Space.join_singleton]
    | cons v vs =>
      rw [List.map_cons, Space.join_cons w (List.cons_ne_nil v vs),
        Space.join_cons (Fold.rule.output w) (by simp), Fold.output_append (ends _),
        Fold.output_cons_of_isSpace space, ih]

theorem isFolded_key (label : Bytes) : Fold.IsFolded (key label) := by
  have twice : (foldedWords label).map Fold.rule.output = foldedWords label := by
    rw [foldedWords_eq, List.map_map]
    exact List.map_congr_left fun w _ => Fold.output_output w
  have same : Fold.rule.output (key label) = key label := by
    rw [key_eq_join, output_join, twice]
  exact same ▸ Fold.isFolded_output (key label)

theorem isNormal_key (label : Bytes) : IsNormal (key label) where
  tight := by
    rw [key_eq_output]
    exact isTight_collapse (Fold.isTight_output (Space.isTight_trim label))
  collapsed := by
    rw [key_eq_output]
    exact Space.isCollapsed_output Byte.space _
  folded := isFolded_key label

theorem key_fold (label : Bytes) : key (Fold.fold label).bytes = key label := by
  unfold Fold.fold
  rw [Rule.bytes_replaceAll, key_eq_output, key_eq_output, Fold.trim_output, Fold.output_output]

/-- A key has no white space at its ends, none but single spaces inside, and no capital letter of
ASCII. It is its own key, and folding a label first does not change its key. -/
theorem key_key (label : Bytes) :
    let k := key label
    (∀ b ∈ Space.trimmed, k.head? ≠ some b ∧ k.getLast? ≠ some b) ∧
      (Byte.tab ∉ k ∧ Byte.lineFeed ∉ k ∧ Byte.carriageReturn ∉ k) ∧
      ¬ [Byte.space, Byte.space] <:+: k ∧
      (∀ b ∈ k, ¬ b.isUpper) ∧
      key k = k ∧
      key (Fold.fold label).bytes = k := by
  intro k
  have normal : IsNormal k := isNormal_key label
  have single : ∀ b ∈ k, b.isSpace → b = Byte.space := by
    intro b mem space
    obtain ⟨front, rest, cut⟩ := List.append_of_mem mem
    exact (normal.collapsed b rest ⟨front, cut.symm⟩ space).1
  refine ⟨fun b mem => ⟨fun read => normal.tight.first b read mem,
    fun read => normal.tight.last b read mem⟩, ⟨?_, ?_, ?_⟩, ?_, normal.folded.not_isUpper,
    key_eq_self normal, key_fold label⟩
  · intro mem
    cases single Byte.tab mem (by decide)
  · intro mem
    cases single Byte.lineFeed mem (by decide)
  · intro mem
    cases single Byte.carriageReturn mem (by decide)
  · rintro ⟨front, rest, cut⟩
    have suffix : Byte.space :: Byte.space :: rest <:+ k := by
      refine ⟨front, ?_⟩
      rw [← cut, List.append_assoc]
      rfl
    have stops := (normal.collapsed _ _ suffix (by decide)).2
    exact stops Byte.space rfl (by decide)

/-- White space of several kinds around and inside a label that ends with a sequence cut off. -/
theorem key_key_truncated :
    let label := utf8 "\x0B ẞ\t\r\nÄB " ++ [0xE2, 0x98] ++ utf8 "\x0C"
    let k := key label
    k = utf8 "ss äb " ++ [0xE2, 0x98] ∧
      Byte.formFeed ∈ Space.trimmed ∧ k.getLast? ≠ some Byte.formFeed ∧
      0x73 ∈ k ∧ ¬ Byte.isUpper 0x73 ∧
      key k = k ∧ key (Fold.fold label).bytes = k := by
  intro label k
  have written : k = utf8 "ss äb " ++ [0xE2, 0x98] := by decide +kernel
  have letter : 0x73 ∈ k := by rw [written]; decide +kernel
  obtain ⟨ends, -, -, small, own, folded⟩ := key_key label
  have set : Byte.formFeed ∈ Space.trimmed := by decide
  exact ⟨written, set, (ends _ set).2, letter, small _ letter, own, folded⟩

end MarkupText.Link.Label
