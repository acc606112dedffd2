import SchemaDraft.Blueprint.Faults

/-!
When nothing of a blueprint is at fault, said of its content, and where the first fault is if
something is.
-/

namespace SchemaDraft

theorem nameFaults_eq_nil {role : NameRole} {name : String} :
    nameFaults role name = [] ↔ name ≠ "" := by
  unfold nameFaults
  split <;> simp_all

theorem lacksColumns_eq_false {columns : List String} :
    lacksColumns columns = false ↔ columns ≠ [] ∧ "" ∉ columns := by
  simp [lacksColumns]

theorem Index.faults_eq_nil {table : String} {index : Index} :
    index.faults table = [] ↔
      (∀ name ∈ index.name, name ≠ "") ∧ (index.columns ≠ [] ∧ "" ∉ index.columns) ∧
        (index.unique = true → index.method = .btree) ∧
        ∀ e ∈ index.predicate, index.unique = true ∧ e.faults = [] := by
  have hname : (index.name.map (nameFaults .index)).getD [] = [] ↔
      ∀ name ∈ index.name, name ≠ "" := by
    cases index.name <;> simp [nameFaults_eq_nil]
  have hpredicate : ((index.predicate.isSome && !index.unique) = false ∧
      (index.predicate.map Condition.faults).getD [] = []) ↔
        ∀ e ∈ index.predicate, index.unique = true ∧ e.faults = [] := by
    cases index.predicate <;> simp
  have hmethod : (index.unique && decide (index.method ≠ .btree)) = false ↔
      (index.unique = true → index.method = .btree) := by
    simp
  have hlist {p : Bool} {fault : StructureError} : (if p = true then [fault] else []) = [] ↔
      p = false := by
    cases p <;> simp
  simp only [Index.faults, List.append_eq_nil_iff, hname, hlist, lacksColumns_eq_false, hmethod,
    and_assoc, hpredicate]

theorem CreateTable.faults_eq_nil {table : String} {definition : CreateTable} :
    definition.faults table = [] ↔
      (definition.columns ≠ [] ∨ definition.like ≠ none) ∧
        ∀ clause ∈ definition.like, clause.source ≠ "" := by
  unfold CreateTable.faults
  cases definition.like with
  | none => cases definition.columns <;> simp
  | some clause => simp [LikeClause.faults, nameFaults_eq_nil]

theorem TriggerEvent.faults_updateOf {trigger : String} {columns : List String} :
    (updateOf columns).faults trigger = [] ↔ columns ≠ [] ∧ "" ∉ columns := by
  rw [← lacksColumns_eq_false, TriggerEvent.faults]
  cases lacksColumns columns <;> simp

theorem Trigger.faults_eq_nil {trigger : Trigger} :
    trigger.faults = [] ↔
      (trigger.name ≠ "" ∧ trigger.table ≠ "" ∧ trigger.function ≠ "") ∧ trigger.events ≠ [] ∧
        ∀ event ∈ trigger.events, event.faults trigger.name = [] := by
  simp [Trigger.faults, nameFaults_eq_nil, and_assoc]

theorem Blueprint.faults_eq_nil {b : Blueprint} :
    b.faults = [] ↔
      b.table ≠ "" ∧ ∀ command ∈ b.resolvedCommands, command.faults b.table = [] := by
  simp only [Blueprint.faults, List.append_eq_nil_iff, nameFaults_eq_nil, List.flatMap_eq_nil_iff]

/-- The faults of a blueprint with a table name are those of its commands. -/
theorem Blueprint.faults_of_table {b : Blueprint} (h : b.table ≠ "") :
    b.faults = b.resolvedCommands.flatMap (Command.faults b.table) := by
  rw [Blueprint.faults, nameFaults_eq_nil.mpr h, List.nil_append]

/-- Either no command has a fault, or there is a first one that has. -/
theorem exists_first_fault (table : String) (commands : List Command) :
    (∀ c ∈ commands, c.faults table = []) ∨
      ∃ before command after fault others, commands = before ++ command :: after ∧
        (∀ c ∈ before, c.faults table = []) ∧ command.faults table = fault :: others := by
  induction commands with
  | nil => exact .inl (by simp)
  | cons command commands ih =>
    cases hfaults : command.faults table with
    | cons fault others => exact .inr ⟨[], command, commands, fault, others, rfl, by simp, hfaults⟩
    | nil =>
      rcases ih with hall | ⟨before, failing, after, fault, others, rfl, hbefore, hfault⟩
      · exact .inl (List.forall_mem_cons.mpr ⟨hfaults, hall⟩)
      · exact .inr ⟨command :: before, failing, after, fault, others, rfl,
          List.forall_mem_cons.mpr ⟨hfaults, hbefore⟩, hfault⟩

end SchemaDraft
