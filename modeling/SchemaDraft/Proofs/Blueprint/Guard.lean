import SchemaDraft.Proofs.Blueprint.Invariant

/-!
Asking for an index before declaring it. No call takes back an index that is declared, by a command
or on a column, so the answer never turns from yes to no. A unique index that is declared only where
there is none yet is therefore declared once at most, however often and in the midst of whatever
other calls this is done.
-/

namespace SchemaDraft

/-- The blueprint with a unique index over these columns, which is declared unless there is one. -/
def Blueprint.ensureUnique (b : Blueprint) (columns : List String) : Blueprint :=
  if b.hasIndex columns true then b else ((Call.unique columns []).apply b).1

/-- A call, or the declaration of a unique index unless there is one. -/
inductive GuardedCall where
  | unguarded (call : Call)
  | ensureUnique (columns : List String)

namespace GuardedCall

def apply (b : Blueprint) : GuardedCall → Blueprint
  | .unguarded call => (call.apply b).1
  | .ensureUnique columns => b.ensureUnique columns

/-- Whether it declares an index over these columns unless there is one. -/
def guards (columns : List String) : GuardedCall → Bool
  | .unguarded _ => false
  | .ensureUnique names => names == columns

end GuardedCall

/-- The blueprint before and after each of the times in a run that an index over these columns is
declared unless there is one. -/
def Blueprint.guardExecutions (columns : List String) (b : Blueprint) :
    List GuardedCall → List (Blueprint × Blueprint)
  | [] => []
  | guarded :: later =>
    let after := guarded.apply b
    if guarded.guards columns then (b, after) :: after.guardExecutions columns later
    else after.guardExecutions columns later

/-- The commands added in a run by declaring an index over these columns unless there is one. -/
def Blueprint.guardAdditions (columns : List String) (b : Blueprint) (steps : List GuardedCall) :
    List Command :=
  (b.guardExecutions columns steps).flatMap fun execution =>
    execution.2.commands.drop execution.1.commands.length

section

variable {b : Blueprint} {columns : List String} {unique : Bool} {call : Call}
  {guarded : GuardedCall}

theorem IndexCall.columns_apply (index : Index) (call : IndexCall) :
    (call.apply index).1.columns = index.columns := by
  cases call with
  | attachPredicate p =>
    rw [apply_attachPredicate]
    rcases index.attachPredicate_cases p with ⟨-, -, hattach⟩ | ⟨-, e, hattach⟩ <;> rw [hattach]
  | _ => rfl

theorem IndexCall.columns_applyAll (index : Index) (calls : List IndexCall) :
    (applyAll index calls).1.columns = index.columns := by
  induction calls generalizing index with
  | nil => rfl
  | cons call calls ih => exact (ih _).trans (columns_apply index call)

namespace Blueprint

theorem hasIndex_iff :
    b.hasIndex columns unique = true ↔
      ∃ index, .createIndex index ∈ b.resolvedCommands ∧
        (unique = true → index.unique = true) ∧ index.columns = columns := by
  have hcounts (index : Index) :
      ((!unique || index.unique) && index.columns == columns) = true ↔
        (unique = true → index.unique = true) ∧ index.columns = columns := by
    cases unique <;> simp
  rw [hasIndex, List.any_eq_true]
  constructor
  · rintro ⟨command, hcommand, hindex⟩
    cases command with
    | createIndex index => exact ⟨index, hcommand, (hcounts index).mp hindex⟩
    | _ => cases hindex
  · rintro ⟨index, hcommand, hindex⟩
    exact ⟨_, hcommand, (hcounts index).mpr hindex⟩

/-- A change to the first command that carries columns takes no index with it. -/
theorem ChangedBy.mem_resolvedCommands {change : Command → Command} {new : Command}
    {added : List Column} {made : Blueprint} {index : Index}
    (h : b.ChangedBy change new added made) (hindex : .createIndex index ∈ b.resolvedCommands) :
    .createIndex index ∈ made.resolvedCommands := by
  rw [resolvedCommands, List.mem_append] at hindex ⊢
  rcases hindex with hcommand | hinline
  · exact .inl ((h.mem_commands rfl).mpr hcommand)
  · right
    rw [inlineIndexes_eq_append, List.mem_append] at hinline
    simp only [h.inlineIndexes, List.mem_append]
    rcases hinline with hfirst | hlater
    · exact .inl (.inl hfirst)
    · exact .inr hlater

end Blueprint

theorem Call.mem_resolvedCommands_apply {index : Index} (call : Call)
    (h : .createIndex index ∈ b.resolvedCommands) :
    .createIndex index ∈ (call.apply b).1.resolvedCommands := by
  by_cases hconcern : call.concern = .ownCommand
  · rw [apply_of_ownCommand b hconcern]
    simp only [Blueprint.resolvedCommands, Blueprint.inlineIndexes, Blueprint.columns,
      List.flatMap_append, List.filterMap_append, List.mem_append] at h ⊢
    rcases h with hcommand | hinline
    · exact .inl (.inl hcommand)
    · exact .inr (.inl hinline)
  · obtain ⟨change, new, added, hchanged⟩ := exists_changedBy b hconcern
    exact hchanged.mem_resolvedCommands h

theorem Call.hasIndex_apply (call : Call) (h : b.hasIndex columns unique = true) :
    (call.apply b).1.hasIndex columns unique = true := by
  obtain ⟨index, hindex, hdeclared⟩ := Blueprint.hasIndex_iff.mp h
  exact Blueprint.hasIndex_iff.mpr ⟨index, call.mem_resolvedCommands_apply hindex, hdeclared⟩

namespace Blueprint

theorem hasIndex_run (calls : List Call) (h : b.hasIndex columns unique = true) :
    (b.run calls).hasIndex columns unique = true := by
  induction calls generalizing b with
  | nil => exact h
  | cons call calls ih => exact ih (call.hasIndex_apply h)

/-- Methods called on a unique index leave it unique and over the same columns. -/
theorem hasIndex_unique {handled : List IndexCall}
    (hplain : ∀ call ∈ handled, call.isPlain = true) :
    ((Call.unique columns handled).apply b).1.hasIndex columns true = true := by
  refine hasIndex_iff.mpr
    ⟨(IndexCall.applyAll { columns, unique := true } handled).1, ?_, ?_, ?_⟩
  · rw [Call.apply_of_ownCommand b rfl, resolvedCommands]
    simp [Call.command?]
  · exact fun _ => IndexCall.unique_applyAll hplain
  · exact IndexCall.columns_applyAll _ handled

theorem ensureUnique_of_hasIndex (h : b.hasIndex columns true = true) :
    b.ensureUnique columns = b :=
  if_pos h

theorem ensureUnique_cases (b : Blueprint) (columns : List String) :
    b.ensureUnique columns = b ∨
      b.ensureUnique columns = b.addIndex { columns, unique := true } := by
  rw [ensureUnique]
  split
  · exact .inl rfl
  · exact .inr rfl

theorem hasIndex_ensureUnique (b : Blueprint) (columns : List String) :
    (b.ensureUnique columns).hasIndex columns true = true := by
  rw [ensureUnique]
  split
  · assumption
  · exact hasIndex_unique nofun

end Blueprint

theorem GuardedCall.hasIndex_apply (guarded : GuardedCall)
    (h : b.hasIndex columns unique = true) : (guarded.apply b).hasIndex columns unique = true := by
  cases guarded with
  | unguarded call => exact call.hasIndex_apply h
  | ensureUnique names =>
    rw [apply, Blueprint.ensureUnique]
    split
    · exact h
    · exact Call.hasIndex_apply _ h

theorem GuardedCall.eq_ensureUnique (h : guarded.guards columns = true) :
    guarded = .ensureUnique columns := by
  cases guarded with
  | unguarded call => cases h
  | ensureUnique names => exact congrArg _ (beq_iff_eq.mp h)

namespace Blueprint

/-- Once there is an index, the guard does nothing any more. -/
theorem guardExecutions_of_hasIndex (steps : List GuardedCall)
    (h : b.hasIndex columns true = true) :
    ∀ execution ∈ b.guardExecutions columns steps, execution.2 = execution.1 := by
  induction steps generalizing b with
  | nil => exact nofun
  | cons guarded later ih =>
    have hlater := ih (guarded.hasIndex_apply h)
    rw [guardExecutions]
    split
    · rename_i hguards
      obtain rfl := GuardedCall.eq_ensureUnique hguards
      exact List.forall_mem_cons.mpr ⟨ensureUnique_of_hasIndex h, hlater⟩
    · exact hlater

theorem guardExecutions_eq_cons {steps : List GuardedCall} {first : Blueprint × Blueprint}
    {rest : List (Blueprint × Blueprint)} (h : b.guardExecutions columns steps = first :: rest) :
    (first.2 = first.1 ∨ first.2 = first.1.addIndex { columns, unique := true }) ∧
      ∀ execution ∈ rest, execution.2 = execution.1 := by
  induction steps generalizing b with
  | nil => cases h
  | cons guarded later ih =>
    rw [guardExecutions] at h
    split at h
    · rename_i hguards
      obtain rfl := GuardedCall.eq_ensureUnique hguards
      obtain ⟨rfl, rfl⟩ := List.cons.inj h
      exact ⟨ensureUnique_cases b columns,
        guardExecutions_of_hasIndex later (hasIndex_ensureUnique b columns)⟩
    · exact ih h

/-- At most one command is added by all the times together. -/
theorem length_guardAdditions_le (steps : List GuardedCall) :
    (b.guardAdditions columns steps).length ≤ 1 := by
  rw [guardAdditions]
  cases hsteps : b.guardExecutions columns steps with
  | nil => exact Nat.zero_le 1
  | cons first rest =>
    obtain ⟨hfirst, hrest⟩ := guardExecutions_eq_cons hsteps
    have hlater : (rest.flatMap fun execution =>
        execution.2.commands.drop execution.1.commands.length) = [] := by
      refine List.flatMap_eq_nil_iff.mpr fun execution hexecution => ?_
      rw [hrest execution hexecution, List.drop_length]
    have hone : (first.2.commands.drop first.1.commands.length).length ≤ 1 := by
      rcases hfirst with hsame | hadded
      · simp [hsame]
      · simp [hadded, addIndex, push]
    rw [List.flatMap_cons, hlater, List.append_nil]
    exact hone

/-- An index that is declared as unique is found, whatever methods are called on it, and an index
that is found is found after any further calls. So of all the times that a unique index is declared
unless there is one, in a run of any calls, at most the first adds a command, which is that index,
and the others change nothing. -/
theorem hasIndex_guard (b : Blueprint) (columns : List String) :
    (∀ handled, (∀ call ∈ handled, call.isPlain = true) →
      ((Call.unique columns handled).apply b).1.hasIndex columns true = true) ∧
    (∀ unique calls, b.hasIndex columns unique = true →
      (b.run calls).hasIndex columns unique = true) ∧
    ∀ steps, (b.guardAdditions columns steps).length ≤ 1 ∧
      ∀ first rest, b.guardExecutions columns steps = first :: rest →
        (first.2 = first.1 ∨ first.2 = first.1.addIndex { columns, unique := true }) ∧
        ∀ execution ∈ rest, execution.2 = execution.1 :=
  ⟨fun _ => hasIndex_unique, fun _ => hasIndex_run,
    fun steps => ⟨length_guardAdditions_le steps, fun _ _ => guardExecutions_eq_cons⟩⟩

/-- An index declared on a column is enough while others are not, and it stays enough when the table
comes to be created. -/
theorem hasIndex_guard_promoted :
    let name : Call := .addColumn "name" .text [.index { name := some "u" }]
    let code : Call := .addColumn "code" .text [.index { unique := true }]
    let steps : List GuardedCall :=
      [.unguarded name, .ensureUnique ["name"], .ensureUnique ["code"], .unguarded code,
       .unguarded .ifNotExists, .ensureUnique ["name"], .unguarded (.dropUnique "u"),
       .ensureUnique ["code"]]
    let b : Blueprint := .alter "t"
    ((Call.unique ["a"] [.named "u", .attachPredicate (.nullCheck "b" true)]).apply b).1.hasIndex
      ["a"] true = true ∧
    (b.run [code]).hasIndex ["code"] true = true ∧
      ((b.run [code]).run [name, .ifNotExists, .dropTable false]).hasIndex ["code"] true = true ∧
      (b.guardAdditions ["name"] steps).length ≤ 1 ∧
      b.guardAdditions ["name"] steps = [.createIndex { columns := ["name"], unique := true }] ∧
      ∃ first later, b.guardExecutions ["name"] steps = [first, later] ∧ later.2 = later.1 := by
  intro name code steps b
  have hcode : (b.run [code]).hasIndex ["code"] true = true := by decide +kernel
  obtain ⟨hdeclared, -, -⟩ := hasIndex_guard b ["a"]
  obtain ⟨-, hkept, -⟩ := hasIndex_guard (b.run [code]) ["code"]
  obtain ⟨-, -, honce⟩ := hasIndex_guard b ["name"]
  obtain ⟨hcount, hexecutions⟩ := honce steps
  refine ⟨hdeclared _ (by decide), hcode, hkept true _ hcode, hcount, by decide +kernel, _, _, rfl, ?_⟩
  exact (hexecutions _ _ rfl).2 _ List.mem_cons_self

end Blueprint

end

end SchemaDraft
