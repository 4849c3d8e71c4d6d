import Mathlib.Tactic.SplitIfs
import MarkupText.Buffer.Basic
import MarkupText.Buffer.Pool

/-!
# Buffers and their lineages

A pool and the lineages of its buffers take the same steps side by side. A change does to a buffer
what one change more in the lineage says (`ofLineage_concat`), so each step leads from the buffers
of some lineages to those of the lineages after it (`Pool.step?_of_lt`), and so does every run
(`Pool.run?_ofLineages`). What a buffer is after a run therefore hangs on its own lineage and on
nothing else, whatever was copied off it or changed beside it (`run?_ofSource`).
-/

set_option autoImplicit false

namespace MarkupText.Buffer

variable {source : Bytes} {lineage : List Change} {lineages : Lineages}

/-! ### One buffer -/

/-- Two buffers are the same if both are shared or both copied, with the same content. -/
theorem eq_iff {a b : Buffer} : a = b ↔ a.isCopied = b.isCopied ∧ a.bytes = b.bytes := by
  constructor
  · rintro rfl
    exact ⟨rfl, rfl⟩
  · rintro ⟨kind, content⟩
    cases a with
    | shared source =>
      cases b with
      | shared other => exact congrArg shared content
      | copied other => cases kind
    | copied own =>
      cases b with
      | shared other => cases kind
      | copied other => exact congrArg copied (Array.toList_inj.1 content)

theorem isCopied_change (buffer : Buffer) (change : Change) :
    (buffer.change change).isCopied = true := by
  cases buffer <;> cases change <;> rfl

/-- A change adds its payload, to all of the content or to what the buffer has of its own. -/
theorem bytes_change (buffer : Buffer) (change : Change) :
    (buffer.change change).bytes =
      (if change.keepsSource then buffer.bytes else buffer.ownBytes) ++ change.payload := by
  cases change with
  | write value => exact bytes_write buffer value
  | writeByte b =>
    rw [Buffer.change, writeByte_eq]
    exact bytes_write buffer [b]
  | append value => exact bytes_append buffer value
  | appendByte b =>
    rw [Buffer.change, appendByte_eq]
    exact bytes_append buffer [b]

theorem isCopied_ofLineage : (ofLineage source lineage).isCopied ↔ lineage ≠ [] := by
  cases lineage <;> simp [ofLineage]

theorem bytes_ofLineage_cons (source : Bytes) (first : Change) (rest : List Change) :
    (ofLineage source (first :: rest)).bytes =
      (if first.keepsSource then source else []) ++ (first :: rest).flatMap Change.payload := rfl

/-- One change more in the lineage is that change made to the buffer. Only where it is the first one
does it matter whether it keeps the source. -/
theorem ofLineage_concat (source : Bytes) (lineage : List Change) (change : Change) :
    ofLineage source (lineage ++ [change]) = (ofLineage source lineage).change change := by
  refine eq_iff.2 ⟨?_, ?_⟩
  · rw [isCopied_change, isCopied_ofLineage]
    exact List.append_ne_nil_of_right_ne_nil lineage (List.cons_ne_nil change [])
  · cases lineage with
    | nil =>
      rw [List.nil_append, bytes_ofLineage_cons, List.flatMap_singleton, bytes_change]
      rfl
    | cons first rest =>
      have own : (ofLineage source (first :: rest)).ownBytes =
          (ofLineage source (first :: rest)).bytes := rfl
      rw [bytes_change, own, ite_self, List.cons_append, bytes_ofLineage_cons,
        bytes_ofLineage_cons, ← List.cons_append, List.flatMap_append, List.flatMap_singleton,
        List.append_assoc]

/-! ### Steps and runs -/

/-- The buffers that some lineages lead to. -/
def Pool.ofLineages (source : Bytes) (lineages : Lineages) : Pool :=
  ⟨(lineages.map (ofLineage source)).toArray⟩

theorem Pool.size_ofLineages (source : Bytes) (lineages : Lineages) :
    (ofLineages source lineages).buffers.size = lineages.length := by
  rw [ofLineages, List.size_toArray, List.length_map]

theorem Pool.getElem?_ofLineages (source : Bytes) (lineages : Lineages) (number : Nat) :
    (ofLineages source lineages).buffers[number]? =
      lineages[number]?.map (ofLineage source) := by
  rw [ofLineages, List.getElem?_toArray, List.getElem?_map]

/-- A change to one of the buffers goes into its lineage alone. -/
theorem Pool.modify_ofLineages (source : Bytes) (lineages : Lineages) (number : Nat)
    (change : Change) :
    (ofLineages source lineages).buffers.modify number (·.change change) =
      (ofLineages source (lineages.modify number (· ++ [change]))).buffers := by
  simp only [ofLineages, List.modify_toArray]
  refine congrArg List.toArray (List.ext_getElem? fun index => ?_)
  rw [List.getElem?_map, List.getElem?_modify, List.getElem?_modify, List.getElem?_map]
  cases lineages[index]? with
  | none => rfl
  | some lineage =>
    simp only [Option.map_eq_map, Option.map_some]
    split_ifs
    · rw [ofLineage_concat]
    · rfl

theorem Pool.push_ofLineages (source : Bytes) (lineages : Lineages) (lineage : List Change) :
    (ofLineages source lineages).buffers.push (ofLineage source lineage) =
      (ofLineages source (lineages ++ [lineage])).buffers := by
  rw [ofLineages, ofLineages, List.push_toArray, List.map_append, List.map_singleton]

/-- A step on a buffer that is there leads to the buffers of the lineages after it. -/
theorem Pool.step?_of_lt {command : Command} (known : command.number < lineages.length)
    (source : Bytes) :
    (ofLineages source lineages).step? command =
      some (ofLineages source (lineages.step command)) := by
  cases command with
  | change number change =>
    replace known : number < lineages.length := known
    rw [step?, size_ofLineages, if_pos known, modify_ofLineages]
    rfl
  | copy number =>
    replace known : number < lineages.length := known
    rw [step?, getElem?_ofLineages, Lineages.step, List.getElem?_eq_getElem known]
    exact congrArg (fun buffers => some (Pool.mk buffers)) (push_ofLineages source lineages _)

theorem Pool.step?_of_le {command : Command} (unknown : lineages.length ≤ command.number)
    (source : Bytes) : (ofLineages source lineages).step? command = none := by
  cases command with
  | change number change =>
    replace unknown : lineages.length ≤ number := unknown
    rw [step?, size_ofLineages, if_neg (Nat.not_lt.2 unknown)]
  | copy number =>
    replace unknown : lineages.length ≤ number := unknown
    rw [step?, getElem?_ofLineages, List.getElem?_eq_none unknown]
    rfl

/-- Steps on buffers that are there by then lead to the buffers of the lineages after them. -/
theorem Pool.run?_ofLineages (source : Bytes) (lineages : Lineages) (commands : List Command) :
    (ofLineages source lineages).run? commands =
      if lineages.admits commands then
        some (ofLineages source (commands.foldl Lineages.step lineages))
      else none := by
  induction commands generalizing lineages with
  | nil => rfl
  | cons command rest ih =>
    rw [run?, List.foldlM_cons, Lineages.admits, List.foldl_cons]
    rcases Nat.lt_or_ge command.number lineages.length with known | unknown
    · rw [step?_of_lt known, decide_eq_true known, Bool.true_and]
      exact ih (lineages.step command)
    · rw [step?_of_le unknown, decide_eq_false (Nat.not_lt.2 unknown), Bool.false_and]
      rfl

/-! ### Lineages grow -/

theorem Lineages.exists_step {number : Nat} (read : lineages[number]? = some lineage)
    (command : Command) :
    ∃ later, (lineages.step command)[number]? = some (lineage ++ later) := by
  cases command with
  | change target change =>
    simp only [step, List.getElem?_modify, read, Option.map_eq_map, Option.map_some]
    split_ifs
    · exact ⟨[change], rfl⟩
    · exact ⟨[], by rw [List.append_nil]⟩
  | copy target =>
    refine ⟨[], ?_⟩
    rw [step, List.getElem?_append_left (List.getElem?_eq_some_iff.1 read).1, List.append_nil]
    exact read

/-- In a run, what a lineage was before stays at its front. -/
theorem Lineages.exists_foldl_step {number : Nat} (read : lineages[number]? = some lineage)
    (commands : List Command) :
    ∃ later, (commands.foldl step lineages)[number]? = some (lineage ++ later) := by
  induction commands generalizing lineages lineage with
  | nil => exact ⟨[], by rw [List.append_nil]; exact read⟩
  | cons command rest ih =>
    obtain ⟨first, next⟩ := exists_step read command
    obtain ⟨others, last⟩ := ih next
    exact ⟨first ++ others, by rw [← List.append_assoc]; exact last⟩

/-- A buffer that is copied stays so. -/
theorem Pool.isCopied_of_run? {commands : List Command} {after : Pool}
    (ran : (ofLineages source lineages).run? commands = some after) {number : Nat}
    {buffer : Buffer} (read : (ofLineages source lineages).buffers[number]? = some buffer)
    (copied : buffer.isCopied) :
    ∃ next, after.buffers[number]? = some next ∧ next.isCopied := by
  rw [run?_ofLineages] at ran
  split_ifs at ran
  cases ran
  rw [getElem?_ofLineages, Option.map_eq_some_iff] at read
  obtain ⟨lineage, before, rfl⟩ := read
  obtain ⟨later, grown⟩ := Lineages.exists_foldl_step before commands
  refine ⟨ofLineage source (lineage ++ later), ?_, ?_⟩
  · rw [getElem?_ofLineages, grown, Option.map_some]
  · rw [isCopied_ofLineage] at copied ⊢
    exact List.append_ne_nil_of_left_ne_nil copied later

/-- A run from one buffer can be taken if each step is on a buffer that is there by then, and it
ends with the buffer of each lineage. All that such a buffer tells of itself is told of one content,
it is equal to another exactly if both have the same content and are both shared or both copied, and
once it is copied, it stays so. -/
theorem run?_ofSource (source : Bytes) (commands : List Command) :
    (((Pool.ofSource source).run? commands).isSome ↔ Lineages.admits [[]] commands) ∧
      ∀ pool, (Pool.ofSource source).run? commands = some pool →
        pool.buffers.toList = (Lineages.ofCommands commands).map (ofLineage source) ∧
        (∀ buffer ∈ pool.buffers, buffer.size = buffer.bytes.length ∧
          (buffer.isEmpty ↔ buffer.bytes = []) ∧ buffer.toArray.toList = buffer.bytes) ∧
        (∀ a ∈ pool.buffers, ∀ b ∈ pool.buffers,
          a = b ↔ a.isCopied = b.isCopied ∧ a.bytes = b.bytes) ∧
        ∀ later after, pool.run? later = some after →
          ∀ (number : Nat) (buffer : Buffer), pool.buffers[number]? = some buffer →
            buffer.isCopied → ∃ next, after.buffers[number]? = some next ∧ next.isCopied := by
  have ran : (Pool.ofSource source).run? commands =
      if Lineages.admits [[]] commands then
        some (Pool.ofLineages source (Lineages.ofCommands commands))
      else none := Pool.run?_ofLineages source [[]] commands
  rw [ran]
  refine ⟨Option.isSome_ite, fun pool ended => ?_⟩
  split_ifs at ended
  cases ended
  refine ⟨rfl, fun buffer _ => ⟨size_eq buffer, ?_, ?_⟩, fun a _ b _ => eq_iff,
    fun later after => Pool.isCopied_of_run?⟩
  · rw [isEmpty_eq, List.isEmpty_iff]
  · rw [toArray_eq]

/-- Three buffers over one source. The first one keeps it, the second one, which was copied off it
before, does not, and the third one goes on from the second. -/
theorem run?_ofSource_copies :
    let commands : List Command := [.copy 0, .change 0 (.append []), .change 1 (.writeByte 0x78),
      .copy 1, .change 2 (.append [0x79])]
    let pool : Pool := ⟨#[.copied #[0x61, 0x62], .copied #[0x78], .copied #[0x78, 0x79]]⟩
    (Pool.ofSource [0x61, 0x62]).run? commands = some pool ∧
      pool.buffers.toList =
        [[.append []], [.writeByte 0x78], [.writeByte 0x78, .append [0x79]]].map
          (ofLineage [0x61, 0x62]) ∧
      pool.run? [.change 0 (.write [])] = some pool ∧
        ∃ next, pool.buffers[0]? = some next ∧ next.isCopied := by
  intro commands pool
  have ran : (Pool.ofSource [0x61, 0x62]).run? commands = some pool := by decide
  have again : pool.run? [.change 0 (.write [])] = some pool := by decide
  obtain ⟨ends, -, -, stays⟩ := (run?_ofSource [0x61, 0x62] commands).2 pool ran
  exact ⟨ran, ends, again, stays _ pool again 0 _ rfl rfl⟩

end MarkupText.Buffer
