import SchemaDraft.Blueprint.Builder

/-!
What calls about columns and about the table leave as it is, in a blueprint with any commands
whatever. Such a call changes the first command that carries columns, where it stands, and puts one
in front if there is none. No other command is touched, no column is lost or moved, and the index
commands that the columns stand for remain those they were.
-/

namespace SchemaDraft

namespace Command

/-- The command with one more column behind those that it carries. -/
def withColumn (column : Column) : Command → Command
  | .createTable definition =>
    .createTable { definition with columns := definition.columns ++ [column] }
  | .addColumns columns => .addColumns (columns ++ [column])
  | command => command

/-- The command as one that creates the table, with the columns that it carries and an edit to the
definition. -/
def defined (edit : CreateTable → CreateTable) : Command → Command
  | .createTable definition => .createTable (edit definition)
  | .addColumns columns => .createTable (edit { columns })
  | command => command

end Command

/-- The commands with a change to the first that carries columns, if there is one. -/
def changeFirst? (change : Command → Command) (commands : List Command) : Option (List Command) :=
  match commands.dropWhile (!·.carriesColumns) with
  | [] => none
  | first :: later => some (commands.takeWhile (!·.carriesColumns) ++ change first :: later)

/-- The commands with a change to the first that carries columns, or with a new one in front. -/
def changeFirst (change : Command → Command) (new : Command) (commands : List Command) :
    List Command :=
  (changeFirst? change commands).getD (new :: commands)

namespace Blueprint

/-- The commands that carry columns, in order. -/
def carriers (b : Blueprint) : List Command := b.commands.filter Command.carriesColumns

/-- The columns of the first command that carries any. -/
def firstColumns (b : Blueprint) : List Column := (b.carriers.take 1).flatMap Command.columns

/-- The columns of all other commands. -/
def laterColumns (b : Blueprint) : List Column := (b.carriers.drop 1).flatMap Command.columns

/-- The second blueprint is the first with a change to the first command that carries columns, or
with a new command in front if there is none, and with these columns added to those of this
command. -/
structure ChangedBy (b : Blueprint) (change : Command → Command) (new : Command)
    (added : List Column) (made : Blueprint) : Prop where
  table : made.table = b.table
  commands : made.commands = changeFirst change new b.commands
  others : made.commands.filter (!·.carriesColumns) = b.commands.filter (!·.carriesColumns)
  laterCarriers : made.carriers.drop 1 = b.carriers.drop 1
  columns : made.columns = b.firstColumns ++ added ++ b.laterColumns
  inlineIndexes : made.inlineIndexes = b.firstColumns.filterMap Column.indexCommand? ++
    added.filterMap Column.indexCommand? ++ b.laterColumns.filterMap Column.indexCommand?

end Blueprint

namespace Command

variable {command : Command}

theorem carriesColumns_eq_false (hcreate : ∀ definition, command = .createTable definition → False)
    (hadd : ∀ columns, command = .addColumns columns → False) : command.carriesColumns = false := by
  cases command with
  | createTable definition => exact (hcreate definition rfl).elim
  | addColumns columns => exact (hadd columns rfl).elim
  | _ => rfl

theorem columns_eq_nil (h : command.carriesColumns = false) : command.columns = [] := by
  cases command with
  | createTable _ | addColumns _ => cases h
  | _ => rfl

theorem columns_withColumn (column : Column) (h : command.carriesColumns = true) :
    (command.withColumn column).carriesColumns = true ∧
      (command.withColumn column).columns = command.columns ++ [column] := by
  cases command with
  | createTable _ | addColumns _ => exact ⟨rfl, rfl⟩
  | _ => cases h

theorem columns_defined {edit : CreateTable → CreateTable}
    (hedit : ∀ definition, (edit definition).columns = definition.columns)
    (h : command.carriesColumns = true) :
    (command.defined edit).carriesColumns = true ∧
      (command.defined edit).columns = command.columns := by
  cases command with
  | createTable _ | addColumns _ => exact ⟨rfl, hedit _⟩
  | _ => cases h

end Command

section First

variable {commands : List Command} {change : Command → Command} {new : Command}

theorem changeFirst?_cons_carrier {first : Command} (h : first.carriesColumns = true) :
    changeFirst? change (first :: commands) = some (change first :: commands) := by
  simp [changeFirst?, h]

theorem changeFirst?_cons {command : Command} (h : command.carriesColumns = false) :
    changeFirst? change (command :: commands) = (changeFirst? change commands).map (command :: ·) := by
  simp only [changeFirst?, List.dropWhile_cons, List.takeWhile_cons, h]
  cases commands.dropWhile (!·.carriesColumns) <;> rfl

theorem appendToFirst?_eq (column : Column) (commands : List Command) :
    appendToFirst? column commands = changeFirst? (.withColumn column) commands := by
  fun_induction appendToFirst? column commands with
  | case1 | case2 definition rest | case3 columns rest => rfl
  | case4 command rest hcreate hadd ih =>
    rw [ih, changeFirst?_cons (Command.carriesColumns_eq_false hcreate hadd)]

theorem defineFirst?_eq (edit : CreateTable → CreateTable) (commands : List Command) :
    defineFirst? edit commands = changeFirst? (.defined edit) commands := by
  fun_induction defineFirst? edit commands with
  | case1 | case2 definition rest | case3 columns rest => rfl
  | case4 command rest hcreate hadd ih =>
    rw [ih, changeFirst?_cons (Command.carriesColumns_eq_false hcreate hadd)]

theorem changeFirst?_eq_none_iff :
    changeFirst? change commands = none ↔ ∀ c ∈ commands, c.carriesColumns = false := by
  induction commands with
  | nil => simp [changeFirst?]
  | cons command commands ih =>
    rw [List.forall_mem_cons]
    cases hcommand : command.carriesColumns with
    | true => simp [changeFirst?_cons_carrier hcommand]
    | false => simp [changeFirst?_cons hcommand, ih]

theorem changeFirst?_eq_some {made : List Command} (h : changeFirst? change commands = some made) :
    ∃ before first later, commands = before ++ first :: later ∧
      (∀ c ∈ before, c.carriesColumns = false) ∧ first.carriesColumns = true ∧
        made = before ++ change first :: later := by
  induction commands generalizing made with
  | nil => cases h
  | cons command commands ih =>
    cases hcommand : command.carriesColumns with
    | true =>
      rw [changeFirst?_cons_carrier hcommand] at h
      exact ⟨[], command, commands, rfl, nofun, hcommand, (Option.some.inj h).symm⟩
    | false =>
      rw [changeFirst?_cons hcommand] at h
      obtain ⟨others, hothers, rfl⟩ := Option.map_eq_some_iff.mp h
      obtain ⟨before, first, later, rfl, hbefore, hfirst, rfl⟩ := ih hothers
      exact ⟨command :: before, first, later, rfl, List.forall_mem_cons.mpr ⟨hcommand, hbefore⟩,
        hfirst, rfl⟩

theorem filter_others_changeFirst
    (hchange : ∀ c, c.carriesColumns = true → (change c).carriesColumns = true)
    (hnew : new.carriesColumns = true) :
    (changeFirst change new commands).filter (!·.carriesColumns) =
      commands.filter (!·.carriesColumns) := by
  rw [changeFirst]
  cases hmade : changeFirst? change commands with
  | none => simp [hnew]
  | some made =>
    obtain ⟨before, first, later, rfl, -, hfirst, rfl⟩ := changeFirst?_eq_some hmade
    simp [hfirst, hchange first hfirst]

theorem filter_carriers_changeFirst
    (hchange : ∀ c, c.carriesColumns = true → (change c).carriesColumns = true)
    (hnew : new.carriesColumns = true) :
    (changeFirst change new commands).filter Command.carriesColumns =
      match commands.filter Command.carriesColumns with
      | [] => [new]
      | first :: later => change first :: later := by
  have hplain {before : List Command} (h : ∀ c ∈ before, c.carriesColumns = false) :
      before.filter Command.carriesColumns = [] :=
    List.filter_eq_nil_iff.mpr fun c hc => by simp [h c hc]
  rw [changeFirst]
  cases hmade : changeFirst? change commands with
  | none => simp [hnew, hplain (changeFirst?_eq_none_iff.mp hmade)]
  | some made =>
    obtain ⟨before, first, later, rfl, hbefore, hfirst, rfl⟩ := changeFirst?_eq_some hmade
    simp [hfirst, hchange first hfirst, hplain hbefore]

end First

namespace Blueprint

variable {b : Blueprint} {change : Command → Command} {new : Command} {added : List Column}

/-- Commands that carry no columns have no part in the columns. -/
theorem columns_eq_flatMap_carriers (b : Blueprint) :
    b.columns = b.carriers.flatMap Command.columns := by
  rw [columns, carriers]
  induction b.commands with
  | nil => rfl
  | cons command commands ih =>
    cases hcommand : command.carriesColumns with
    | true => simp [hcommand, ih]
    | false => simp [hcommand, ih, Command.columns_eq_nil hcommand]

theorem columns_eq_append (b : Blueprint) : b.columns = b.firstColumns ++ b.laterColumns := by
  rw [columns_eq_flatMap_carriers, firstColumns, laterColumns, ← List.flatMap_append,
    List.take_append_drop]

theorem inlineIndexes_eq_append (b : Blueprint) :
    b.inlineIndexes = b.firstColumns.filterMap Column.indexCommand? ++
      b.laterColumns.filterMap Column.indexCommand? := by
  rw [inlineIndexes, columns_eq_append, List.filterMap_append]

theorem changedBy_changeFirst
    (hchange : ∀ c, c.carriesColumns = true →
      (change c).carriesColumns = true ∧ (change c).columns = c.columns ++ added)
    (hnew : new.carriesColumns = true ∧ new.columns = added) :
    b.ChangedBy change new added { b with commands := changeFirst change new b.commands } := by
  have hkeeps (c : Command) (hc : c.carriesColumns = true) : (change c).carriesColumns = true :=
    (hchange c hc).1
  have hcarriers : carriers { b with commands := changeFirst change new b.commands } =
      match b.carriers with
      | [] => [new]
      | first :: later => change first :: later := filter_carriers_changeFirst hkeeps hnew.1
  have hfirst : ∀ c ∈ b.carriers, c.carriesColumns = true := fun c hc => (List.mem_filter.mp hc).2
  have hcolumns : columns { b with commands := changeFirst change new b.commands } =
      b.firstColumns ++ added ++ b.laterColumns := by
    rw [columns_eq_flatMap_carriers, hcarriers, firstColumns, laterColumns]
    cases hold : b.carriers with
    | nil => simp [hnew.2]
    | cons first later => simp [(hchange first (hfirst first (by simp [hold]))).2]
  refine ⟨rfl, rfl, filter_others_changeFirst hkeeps hnew.1, ?_, hcolumns, ?_⟩
  · rw [hcarriers]
    cases b.carriers <;> rfl
  · rw [inlineIndexes, hcolumns, List.filterMap_append, List.filterMap_append]

theorem changedBy_addColumn (b : Blueprint) (column : Column) :
    b.ChangedBy (.withColumn column) (.addColumns [column]) [column] (b.addColumn column) := by
  have hmade : b.addColumn column =
      { b with commands := changeFirst (.withColumn column) (.addColumns [column]) b.commands } := by
    rw [addColumn, appendToFirst?_eq, changeFirst]
    cases changeFirst? (.withColumn column) b.commands <;> rfl
  rw [hmade]
  exact changedBy_changeFirst (fun c => Command.columns_withColumn column) ⟨rfl, rfl⟩

theorem changedBy_define {edit : CreateTable → CreateTable}
    (hedit : ∀ definition, (edit definition).columns = definition.columns) (b : Blueprint) :
    b.ChangedBy (.defined edit) (.createTable (edit {})) [] (b.define edit) := by
  have hmade : b.define edit =
      { b with commands := changeFirst (.defined edit) (.createTable (edit {})) b.commands } := by
    rw [define, defineFirst?_eq, changeFirst]
    cases changeFirst? (.defined edit) b.commands <;> rfl
  rw [hmade]
  refine changedBy_changeFirst (fun c hc => ?_) ⟨rfl, hedit {}⟩
  rw [List.append_nil]
  exact Command.columns_defined hedit hc

/-- A command without columns is there after such a change if it was there before. -/
theorem ChangedBy.mem_commands {made : Blueprint} {command : Command}
    (h : b.ChangedBy change new added made) (hplain : command.carriesColumns = false) :
    command ∈ made.commands ↔ command ∈ b.commands := by
  have hmem (b : Blueprint) :
      command ∈ b.commands.filter (!·.carriesColumns) ↔ command ∈ b.commands := by
    simp [List.mem_filter, hplain]
  rw [← hmem made, ← hmem b, h.others]

/-- Adding a column, IF NOT EXISTS and LIKE change one command, whatever the blueprint holds: the
first that carries columns, in its place, or a new one in front. The other commands stay as they are
and in order. An added column stands behind those of that command, and otherwise the columns stay
what they were, even where a command that adds them comes to create the table; and so do the index
commands that the columns stand for. -/
theorem changedBy_tableCalls (b : Blueprint) (column : Column) (clause : LikeClause) :
    b.ChangedBy (.withColumn column) (.addColumns [column]) [column] (b.addColumn column) ∧
    b.ChangedBy (.defined ({ · with ifNotExists := true }))
      (.createTable { ifNotExists := true }) [] b.ifNotExists ∧
    b.ChangedBy (.defined ({ · with like := some clause }))
      (.createTable { like := some clause }) [] (b.like clause) ∧
    b.columns = b.firstColumns ++ b.laterColumns ∧
    b.inlineIndexes = b.firstColumns.filterMap Column.indexCommand? ++
      b.laterColumns.filterMap Column.indexCommand? := by
  refine ⟨changedBy_addColumn b column, changedBy_define ?_ b, changedBy_define ?_ b,
    columns_eq_append b, inlineIndexes_eq_append b⟩
  all_goals exact fun _ => rfl

end Blueprint

end SchemaDraft
