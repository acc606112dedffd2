import Mathlib.Data.List.Basic
import SchemaDraft.Proofs.Blueprint.Faults
import SchemaDraft.Proofs.Blueprint.Rendering
import SchemaDraft.Proofs.Index.Name

/-!
The names that a dialect is asked to spell. Each command has a list of them: the names that it gives
and the conventional name of an index without one. Two dialects that write all literals alike and
agree on the names of a command render it alike, so there is no other name in its statements.
-/

namespace SchemaDraft

/-- The columns that the text of a condition names outside fragments. A test for membership in an
empty list is a constant and names none. -/
def Condition.names : Condition → List String
  | .comparison column _ _ => [column]
  | .columnComparison left _ right => [left, right]
  | .between column _ _ _ => [column]
  | .membership column values _ => if values.isEmpty then [] else [column]
  | .nullCheck column _ => [column]
  | .fragment _ _ => []
  | .conjunction left right => left.names ++ right.names
  | .disjunction left right => left.names ++ right.names

/-- The names that an index gives, besides that of its table. -/
def Index.givenNames (index : Index) : List String :=
  index.name.toList ++ index.columns ++ (index.predicate.map Condition.names).getD []

def TriggerEvent.names : TriggerEvent → List String
  | .updateOf columns => columns
  | _ => []

namespace Command

/-- The names that are given to what the statements of a command are about. Adding no columns needs
no statement. -/
def givenNames (table : String) : Command → List String
  | .createTable definition =>
    table :: (definition.like.map LikeClause.source).toList ++ definition.columns.map Column.name
  | .addColumns columns => if columns.isEmpty then [] else table :: columns.map Column.name
  | .dropTable _ => [table]
  | .createIndex index => table :: index.givenNames
  | .dropIndex name => [name]
  | .dropUnique name => [table, name]
  | .createView view => [view.name]
  | .dropView name _ => [name]
  | .createTrigger trigger =>
    [trigger.name, trigger.table, trigger.function] ++ trigger.events.flatMap TriggerEvent.names
  | .dropTrigger name => [name, table]
  | .attachPartition partition _ => [table, partition]
  | .detachPartition partition => [table, partition]

/-- The name that is made up for an index without one. -/
def conventionalNames (table : String) : Command → List String
  | .createIndex index => if index.name.isNone then [index.resolvedName table] else []
  | _ => []

/-- The names that stand in the statements of a command. -/
def names (table : String) (command : Command) : List String :=
  command.givenNames table ++ command.conventionalNames table

theorem names_eq_givenNames {table : String} {command : Command}
    (h : command.conventionalNames table = []) :
    command.names table = command.givenNames table := by
  rw [names, h, List.append_nil]

/-- Given or made up, an index has one name of its own. -/
theorem mem_names_createIndex {table name : String} {index : Index} :
    name ∈ (createIndex index).names table ↔
      (name = table ∨ name = index.resolvedName table ∨ name ∈ index.columns) ∨
        ∃ e ∈ index.predicate, name ∈ e.names := by
  have hpredicate : name ∈ (index.predicate.map Condition.names).getD [] ↔
      ∃ e ∈ index.predicate, name ∈ e.names := by
    cases index.predicate <;> simp
  simp only [names, givenNames, Index.givenNames, List.mem_append, List.mem_cons, hpredicate]
  cases hname : index.name with
  | none =>
    have hmadeUp : name ∈ (createIndex index).conventionalNames table ↔
        name = index.resolvedName table := by
      simp [conventionalNames, hname]
    grind
  | some own => simp [conventionalNames, Index.resolvedName, hname, or_assoc]

end Command

namespace Blueprint

/-- The names that a blueprint gives to what its statements are about. -/
def givenNames (b : Blueprint) : List String :=
  b.resolvedCommands.flatMap (Command.givenNames b.table)

/-- The names that stand in the statements of a blueprint. -/
def names (b : Blueprint) : List String := b.resolvedCommands.flatMap (Command.names b.table)

end Blueprint

/-- Two dialects write all literals alike, and spell these names alike. -/
structure Dialect.AgreesOn (p : String → Prop) (d d' : Dialect) : Prop where
  literal : ∀ value, d.formatLiteral value = d'.formatLiteral value
  name : ∀ name, p name → d.quoteIdentifier name = d'.quoteIdentifier name

namespace Dialect.AgreesOn

variable {p : String → Prop} {d d' : Dialect} {table : String}

theorem formatLiterals (h : d.AgreesOn p d') (values : List Literal) :
    d.formatLiterals values = d'.formatLiterals values := by
  induction values with
  | nil => rfl
  | cons value values ih => rw [Dialect.formatLiterals, Dialect.formatLiterals, h.literal, ih]

theorem literalAt (h : d.AgreesOn p d') (site : LiteralSite) (value : Literal) :
    d.literalAt site value = d'.literalAt site value := by
  rw [Dialect.literalAt, Dialect.literalAt, h.literal]

theorem literalsAt (h : d.AgreesOn p d') (site : LiteralSite) (values : List Literal) :
    d.literalsAt site values = d'.literalsAt site values := by
  rw [Dialect.literalsAt, Dialect.literalsAt, h.formatLiterals]

theorem tupleAt (h : d.AgreesOn p d') (site : LiteralSite) (values : List Literal) :
    d.tupleAt site values = d'.tupleAt site values := by
  rw [Dialect.tupleAt, Dialect.tupleAt, h.literalsAt]

theorem quoteAll (h : d.AgreesOn p d') {names : List String} (hnames : ∀ name ∈ names, p name) :
    d.quoteAll names = d'.quoteAll names := by
  have hspelled : names.map d.quoteIdentifier = names.map d'.quoteIdentifier :=
    List.map_congr_left fun name hname => h.name name (hnames name hname)
  rw [Dialect.quoteAll, Dialect.quoteAll, hspelled]

theorem operandText (h : d.AgreesOn p d') (node : Condition) (value : Literal) :
    Condition.operandText d node value = Condition.operandText d' node value := by
  rw [Condition.operandText, Condition.operandText, h.literalAt]

theorem condition (h : d.AgreesOn p d') {e : Condition} (hnames : ∀ name ∈ e.names, p name) :
    e.render d = e.render d' := by
  induction e with
  | comparison column operator value =>
    have hcolumn := h.name column (hnames column (by simp [Condition.names]))
    simp only [Condition.render, h.operandText, hcolumn]
  | columnComparison left operator right =>
    have hleft := h.name left (hnames left (by simp [Condition.names]))
    have hright := h.name right (hnames right (by simp [Condition.names]))
    simp only [Condition.render, hleft, hright]
  | between column low high negated =>
    have hcolumn := h.name column (hnames column (by simp [Condition.names]))
    simp only [Condition.render, h.operandText, hcolumn]
  | membership column values negated =>
    cases values with
    | nil => rfl
    | cons value values =>
      have hcolumn := h.name column (hnames column (by simp [Condition.names]))
      simp only [Condition.render, h.literalsAt, hcolumn]
  | nullCheck column isNull =>
    have hcolumn := h.name column (hnames column (by simp [Condition.names]))
    simp only [Condition.render, hcolumn]
  | fragment template bindings => simp only [Condition.render, h.literalsAt]
  | conjunction left right ihl ihr | disjunction left right ihl ihr =>
    obtain ⟨hleft, hright⟩ := List.forall_mem_append.mp hnames
    rw [Condition.render, Condition.render, ihl hleft, ihr hright]

theorem column (h : d.AgreesOn p d') {column : Column} (hname : p column.name) :
    column.render d = column.render d' := by
  have hdefault : column.renderDefault d = column.renderDefault d' := by
    simp only [Column.renderDefault, h.literalAt]
  rw [Column.render, Column.render, hdefault, h.name column.name hname]

theorem comments (h : d.AgreesOn p d') (htable : p table) {columns : List Column}
    (hnames : ∀ column ∈ columns, p column.name) :
    Column.renderComments d table columns = Column.renderComments d' table columns := by
  have hcomment : ∀ column ∈ columns,
      column.renderComment? d table = column.renderComment? d' table := by
    intro column hcolumn
    simp only [Column.renderComment?, h.literalAt, h.name table htable,
      h.name column.name (hnames column hcolumn)]
  rw [Column.renderComments, Column.renderComments, List.filterMap_congr hcomment]

theorem createTable (h : d.AgreesOn p d') (htable : p table) {definition : CreateTable}
    (hnames : ∀ column ∈ definition.columns, p column.name)
    (hlike : ∀ clause ∈ definition.like, p clause.source) :
    definition.statements d table = definition.statements d' table := by
  have hclause : definition.like.map (LikeClause.render d) =
      definition.like.map (LikeClause.render d') := by
    apply Option.map_congr
    intro clause hmem
    rw [LikeClause.render, LikeClause.render, h.name clause.source (hlike clause hmem)]
  have hcolumns : renderEach (Column.render d) definition.columns =
      renderEach (Column.render d') definition.columns :=
    renderEach_congr fun column hmem => h.column (hnames column hmem)
  simp only [CreateTable.statements, CreateTable.render, h.name table htable, hclause, hcolumns,
    h.comments htable hnames]

theorem additions (h : d.AgreesOn p d') (htable : p table) {columns : List Column}
    (hnames : ∀ column ∈ columns, p column.name) :
    Column.additionStatements d table columns = Column.additionStatements d' table columns := by
  have hadditions : renderEach (Column.renderAddition d) columns =
      renderEach (Column.renderAddition d') columns :=
    renderEach_congr fun column hmem => by
      rw [Column.renderAddition, Column.renderAddition, h.column (hnames column hmem)]
  simp only [Column.additionStatements, Column.renderAdditions?, h.name table htable, hadditions,
    h.comments htable hnames]

theorem index (h : d.AgreesOn p d') {index : Index}
    (hnames : ∀ name ∈ (Command.createIndex index).names table, p name) :
    index.render d table = index.render d' table := by
  have hspelled (name : String) (hmem : name ∈ (Command.createIndex index).names table) :
      d.quoteIdentifier name = d'.quoteIdentifier name := h.name name (hnames name hmem)
  simp only [Command.mem_names_createIndex] at hnames hspelled
  have hcolumns : d.quoteAll index.columns = d'.quoteAll index.columns :=
    h.quoteAll fun name hmem => hnames name (by simp [hmem])
  have hstatement (text : Option String) : index.statement d table text =
      index.statement d' table text := by
    unfold Index.statement
    rw [hspelled (index.resolvedName table) (by simp), hcolumns, hspelled table (by simp)]
  unfold Index.render
  cases hpredicate : index.predicate with
  | none => rw [hstatement]
  | some e =>
    have hcondition : e.render d = e.render d' :=
      h.condition fun name hmem => hnames name (by simp [hpredicate, hmem])
    simp only [hcondition, hstatement]

theorem event (h : d.AgreesOn p d') {event : TriggerEvent} (hnames : ∀ name ∈ event.names, p name) :
    event.render d = event.render d' := by
  cases event with
  | updateOf columns =>
    have hcolumns : ∀ name ∈ columns, p name := hnames
    rw [TriggerEvent.render, TriggerEvent.render, h.quoteAll hcolumns]
  | insert | update | delete | truncate => rfl

theorem trigger (h : d.AgreesOn p d') {trigger : Trigger}
    (hnames : ∀ name ∈ [trigger.name, trigger.table, trigger.function], p name)
    (hevents : ∀ event ∈ trigger.events, ∀ name ∈ event.names, p name) :
    trigger.render d = trigger.render d' := by
  have hspelled : trigger.events.map (TriggerEvent.render d) =
      trigger.events.map (TriggerEvent.render d') :=
    List.map_congr_left fun event hmem => h.event (hevents event hmem)
  simp only [Trigger.render, h.tupleAt, hspelled,
    h.name trigger.name (hnames trigger.name (by simp)),
    h.name trigger.table (hnames trigger.table (by simp)),
    h.name trigger.function (hnames trigger.function (by simp))]

theorem bounds (h : d.AgreesOn p d') (partition : String) (bounds : PartitionBounds) :
    bounds.render d partition = bounds.render d' partition := by
  cases bounds with
  | range lower upper => simp only [PartitionBounds.render, h.tupleAt]
  | list values => simp only [PartitionBounds.render, h.tupleAt]
  | hash _ _ | rest | raw _ => rfl

/-- A command is rendered alike if its names are spelled alike. -/
theorem command (h : d.AgreesOn p d') {command : Command}
    (hnames : ∀ name ∈ command.names table, p name) :
    command.render d table = command.render d' table := by
  obtain ⟨hgiven, -⟩ := List.forall_mem_append.mp hnames
  have hspelled (name : String) (hmem : name ∈ command.givenNames table) :
      d.quoteIdentifier name = d'.quoteIdentifier name := h.name name (hgiven name hmem)
  cases command with
  | createTable definition =>
    obtain ⟨htable, hlike, hcolumns⟩ : p table ∧ (∀ clause ∈ definition.like, p clause.source) ∧
        ∀ column ∈ definition.columns, p column.name := by
      simpa [Command.givenNames, or_imp, forall_and] using hgiven
    rw [Command.render, Command.render, h.createTable htable hcolumns hlike]
  | addColumns columns =>
    cases columns with
    | nil => rfl
    | cons column columns =>
      obtain ⟨htable, hcolumns⟩ : p table ∧ ∀ c ∈ column :: columns, p c.name := by
        simpa [Command.givenNames] using hgiven
      rw [Command.render, Command.render, h.additions htable hcolumns]
  | createIndex index => rw [Command.render, Command.render, h.index hnames]
  | createTrigger trigger =>
    obtain ⟨hnames, hevents⟩ := List.forall_mem_append.mp hgiven
    rw [Command.render, Command.render, h.trigger hnames (List.forall_mem_flatMap.mp hevents)]
  | attachPartition partition bounds =>
    simp only [Command.render, renderAttachment, h.bounds,
      hspelled table (by simp [Command.givenNames]),
      hspelled partition (by simp [Command.givenNames])]
  | dropTable ifExists =>
    rw [Command.render, Command.render, hspelled table (by simp [Command.givenNames])]
  | dropIndex name =>
    rw [Command.render, Command.render, hspelled name (by simp [Command.givenNames])]
  | createView view =>
    rw [Command.render, Command.render, hspelled view.name (by simp [Command.givenNames])]
  | dropView name materialized =>
    rw [Command.render, Command.render, hspelled name (by simp [Command.givenNames])]
  | dropUnique name | dropTrigger name | detachPartition name =>
    rw [Command.render, Command.render, hspelled table (by simp [Command.givenNames]),
      hspelled name (by simp [Command.givenNames])]

theorem commands (h : d.AgreesOn p d') {commands : List Command}
    (hnames : ∀ command ∈ commands, ∀ name ∈ command.names table, p name) :
    Blueprint.renderCommands d table commands = Blueprint.renderCommands d' table commands := by
  induction commands with
  | nil => rfl
  | cons command rest ih =>
    obtain ⟨hcommand, hrest⟩ := List.forall_mem_cons.mp hnames
    rw [Blueprint.renderCommands_cons, Blueprint.renderCommands_cons, h.command hcommand, ih hrest]

/-- A blueprint compiles alike if its names are spelled alike. -/
theorem compilation {b : Blueprint} (h : d.AgreesOn (· ∈ b.names) d') :
    b.compilation d = b.compilation d' := by
  unfold Blueprint.compilation
  cases b.faults with
  | cons fault others => rfl
  | nil =>
    apply h.commands
    intro command hcommand name hname
    exact List.mem_flatMap.mpr ⟨command, hcommand, hname⟩

end Dialect.AgreesOn

section Faults

variable {table : String}

theorem Condition.names_ne_empty {e : Condition} (hfaults : e.faults = []) :
    ∀ name ∈ e.names, name ≠ "" := by
  induction e with
  | columnComparison left operator right =>
    obtain ⟨hleft, hright⟩ := List.append_eq_nil_iff.mp hfaults
    simpa [names] using ⟨nameFaults_eq_nil.mp hleft, nameFaults_eq_nil.mp hright⟩
  | membership column values negated =>
    cases values with
    | nil => simp [names]
    | cons value values => simpa [names] using nameFaults_eq_nil.mp hfaults
  | comparison column _ _ | between column _ _ _ | nullCheck column _ =>
    simpa [names] using nameFaults_eq_nil.mp hfaults
  | fragment template bindings => simp [names]
  | conjunction left right ihl ihr | disjunction left right ihl ihr =>
    obtain ⟨hleft, hright⟩ := List.append_eq_nil_iff.mp hfaults
    exact List.forall_mem_append.mpr ⟨ihl hleft, ihr hright⟩

theorem Index.names_ne_empty {index : Index} (htable : table ≠ "")
    (hfaults : index.faults table = []) :
    ∀ name ∈ (Command.createIndex index).names table, name ≠ "" := by
  obtain ⟨hname, ⟨-, hcolumns⟩, -, hpredicate⟩ := Index.faults_eq_nil.mp hfaults
  intro name hmem
  rcases Command.mem_names_createIndex.mp hmem with (rfl | rfl | hmem) | ⟨e, he, hmem⟩
  · exact htable
  · exact resolvedName_ne_empty table hname
  · exact fun hempty => hcolumns (hempty ▸ hmem)
  · exact Condition.names_ne_empty (hpredicate e he).2 name hmem

theorem Trigger.names_ne_empty {trigger : Trigger} (hfaults : trigger.faults = []) :
    ∀ name ∈ [trigger.name, trigger.table, trigger.function] ++
      trigger.events.flatMap TriggerEvent.names, name ≠ "" := by
  obtain ⟨⟨hname, htable, hfunction⟩, -, hevents⟩ := Trigger.faults_eq_nil.mp hfaults
  rw [List.forall_mem_append, List.forall_mem_flatMap]
  refine ⟨by simpa using ⟨hname, htable, hfunction⟩, ?_⟩
  intro event hmem
  have hevent := hevents event hmem
  cases event with
  | updateOf columns =>
    intro name hname hempty
    exact (TriggerEvent.faults_updateOf.mp hevent).2 (hempty ▸ hname)
  | insert | update | delete | truncate => simp [TriggerEvent.names]

/-- No name of a command without faults is empty, if its table has a name. -/
theorem Command.names_ne_empty {command : Command} (htable : table ≠ "")
    (hfaults : command.faults table = []) : ∀ name ∈ command.names table, name ≠ "" := by
  obtain ⟨hcolumns, hown⟩ := List.append_eq_nil_iff.mp hfaults
  have hnames : ∀ column ∈ command.columns, column.name ≠ "" := fun column hmem =>
    nameFaults_eq_nil.mp (List.flatMap_eq_nil_iff.mp hcolumns column hmem)
  cases command with
  | createIndex index => exact Index.names_ne_empty htable hown
  | createTable definition =>
    rw [names_eq_givenNames rfl]
    have hlike := (CreateTable.faults_eq_nil.mp hown).2
    simpa [givenNames, or_imp, forall_and, htable] using ⟨hlike, hnames⟩
  | addColumns columns =>
    rw [names_eq_givenNames rfl]
    cases columns with
    | nil => simp [givenNames]
    | cons column columns =>
      have hadded : ∀ c ∈ column :: columns, c.name ≠ "" := hnames
      simpa [givenNames, htable] using hadded
  | createTrigger trigger =>
    rw [names_eq_givenNames rfl]
    exact Trigger.names_ne_empty hown
  | createView view =>
    rw [names_eq_givenNames rfl]
    simpa [givenNames] using nameFaults_eq_nil.mp (List.append_eq_nil_iff.mp hown).1
  | dropTable ifExists =>
    rw [names_eq_givenNames rfl]
    simpa [givenNames] using htable
  | dropIndex name | dropView name _ =>
    rw [names_eq_givenNames rfl]
    simpa [givenNames] using nameFaults_eq_nil.mp hown
  | dropUnique name | dropTrigger name | attachPartition name _ | detachPartition name =>
    rw [names_eq_givenNames rfl]
    simpa [givenNames, htable] using nameFaults_eq_nil.mp hown

end Faults

/-- No name in the statements of a blueprint without faults is empty. -/
theorem Blueprint.names_ne_empty {b : Blueprint} (h : b.faults = []) :
    ∀ name ∈ b.names, name ≠ "" := by
  obtain ⟨htable, hcommands⟩ := Blueprint.faults_eq_nil.mp h
  refine List.forall_mem_flatMap.mpr ?_
  intro command hmem
  exact Command.names_ne_empty htable (hcommands command hmem)

end SchemaDraft
