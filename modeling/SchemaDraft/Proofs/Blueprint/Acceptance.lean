import SchemaDraft.Proofs.Blueprint.Rendering
import SchemaDraft.Proofs.Condition.Acceptance
import SchemaDraft.Proofs.Statement.Rendering

/-!
Which blueprints have statements in PostgreSQL, said of their content. A blueprint passes the search
for faults, the rendering of its commands and that of the indexes its columns stand for exactly if
every part of it is acceptable.
-/

namespace SchemaDraft

open Postgres

structure InlineIndex.Acceptable (index : InlineIndex) : Prop where
  name : ∀ name ∈ index.name, name ≠ ""
  unique : index.unique = true → index.method = .btree

structure Column.Acceptable (column : Column) : Prop where
  name : column.name ≠ ""
  default : ∀ value, column.defaultValue = some (.literal value) → value.Renderable
  comment : ∀ comment ∈ column.comment, '\x00' ∉ comment.toList
  index : ∀ index ∈ column.index, index.Acceptable

structure CreateTable.Acceptable (definition : CreateTable) : Prop where
  columns : ∀ column ∈ definition.columns, column.Acceptable
  content : definition.columns ≠ [] ∨ definition.like ≠ none
  like : ∀ clause ∈ definition.like, clause.source ≠ ""

structure Index.Acceptable (index : Index) : Prop where
  name : ∀ name ∈ index.name, name ≠ ""
  columns : index.columns ≠ [] ∧ "" ∉ index.columns
  unique : index.unique = true → index.method = .btree
  predicate : ∀ e ∈ index.predicate, index.unique = true ∧ e.Acceptable

def TriggerEvent.Acceptable : TriggerEvent → Prop
  | .updateOf columns => columns ≠ [] ∧ "" ∉ columns
  | _ => True

structure Trigger.Acceptable (trigger : Trigger) : Prop where
  name : trigger.name ≠ ""
  table : trigger.table ≠ ""
  function : trigger.function ≠ ""
  events : trigger.events ≠ [] ∧ ∀ event ∈ trigger.events, event.Acceptable
  arguments : ∀ value ∈ trigger.arguments, value.Renderable

def PartitionBounds.Acceptable : PartitionBounds → Prop
  | .range lower upper =>
    (∀ value ∈ lower, value.Renderable) ∧ ∀ value ∈ upper, value.Renderable
  | .list values => ∀ value ∈ values, value.Renderable
  | _ => True

def Command.Acceptable : Command → Prop
  | .createTable definition => definition.Acceptable
  | .addColumns columns => ∀ column ∈ columns, column.Acceptable
  | .dropTable _ => True
  | .createIndex index => index.Acceptable
  | .dropIndex name => name ≠ ""
  | .dropUnique name => name ≠ ""
  | .createView view => view.name ≠ "" ∧ view.select ≠ ""
  | .dropView name _ => name ≠ ""
  | .createTrigger trigger => trigger.Acceptable
  | .dropTrigger name => name ≠ ""
  | .attachPartition partition bounds => partition ≠ "" ∧ bounds.Acceptable
  | .detachPartition partition => partition ≠ ""

/-- What a blueprint must be for it to have statements. -/
structure Blueprint.Acceptable (b : Blueprint) : Prop where
  table : b.table ≠ ""
  commands : ∀ command ∈ b.commands, command.Acceptable

theorem renders_each {α β : Type} {render : α → Except RenderError β} {as : List α} :
    (∃ bs, renderEach render as = .ok bs) ↔ ∀ a ∈ as, ∃ b, render a = .ok b := by
  simp only [renderEach_eq_ok, exists_forall₂]

theorem exists_literalAt {site : LiteralSite} {value : Literal} :
    (∃ text, dialect.literalAt site value = .ok text) ↔ value.Renderable := by
  simp only [Dialect.literalAt_eq_ok, Literal.exists_formatLiteral]

theorem exists_tupleAt {site : LiteralSite} {values : List Literal} :
    (∃ text, dialect.tupleAt site values = .ok text) ↔ ∀ value ∈ values, value.Renderable := by
  simp only [Dialect.tupleAt, exists_bind_eq_ok, exists_pure_eq_ok, and_true,
    Dialect.literalsAt_eq_ok, Literal.exists_formatLiterals]

/-- A command passes the search for faults and is rendered. -/
def Command.Compiles (table : String) (command : Command) : Prop :=
  command.faults table = [] ∧ ∃ rendering, command.render dialect table = .ok rendering

namespace Index

variable {table : String} {index : Index}

theorem exists_render :
    (∃ rendered, index.render dialect table = .ok rendered) ↔
      ∀ e ∈ index.predicate, ∃ text, e.render dialect = .ok text := by
  unfold Index.render
  cases index.predicate with
  | none => cases index.unique <;> simp [exists_pure_eq_ok]
  | some e => simp only [exists_bind_eq_ok, exists_pure_eq_ok, and_true, Option.mem_some_iff,
      forall_eq']

theorem acceptable_iff {index : Index} (table : String) :
    (index.faults table = [] ∧ ∃ rendered, index.render dialect table = .ok rendered) ↔
      index.Acceptable := by
  rw [faults_eq_nil, exists_render]
  constructor
  · rintro ⟨⟨hname, hcolumns, hunique, hfaults⟩, hrender⟩
    refine ⟨hname, hcolumns, hunique, ?_⟩
    intro e he
    exact ⟨(hfaults e he).1, Condition.acceptable_iff.mp ⟨(hfaults e he).2, hrender e he⟩⟩
  · intro h
    refine ⟨⟨h.name, h.columns, h.unique, ?_⟩, ?_⟩
    · intro e he
      obtain ⟨hunique, hacceptable⟩ := h.predicate e he
      exact ⟨hunique, (Condition.acceptable_iff.mpr hacceptable).1⟩
    · intro e he
      exact (Condition.acceptable_iff.mpr (h.predicate e he).2).2

end Index

/-- An index command comes down to its index. -/
theorem Command.compiles_createIndex {table : String} {index : Index} :
    (Command.createIndex index).Compiles table ↔ index.Acceptable := by
  rw [← Index.acceptable_iff table]
  simp only [Command.Compiles, Command.faults, Command.columns, List.flatMap_nil, List.nil_append,
    Command.ownFaults, Command.render, exists_bind_eq_ok, exists_pure_eq_ok, and_true]

namespace Column

variable {table : String} {column : Column} {columns : List Column}

theorem exists_render :
    (∃ text, column.render dialect = .ok text) ↔
      ∀ value, column.defaultValue = some (.literal value) → value.Renderable := by
  simp only [render, exists_bind_eq_ok, exists_pure_eq_ok, and_true, renderDefault]
  cases column.defaultValue with
  | none => simp [exists_pure_eq_ok]
  | some value =>
    cases value with
    | expression sql => simp [exists_pure_eq_ok]
    | literal value =>
      simp only [exists_bind_eq_ok, exists_pure_eq_ok, and_true, exists_literalAt,
        Option.some.injEq, DefaultValue.literal.injEq, forall_eq']

theorem exists_renderComments :
    (∃ comments, renderComments dialect table columns = .ok comments) ↔
      ∀ column ∈ columns, ∀ comment ∈ column.comment, '\x00' ∉ comment.toList := by
  have hcomment (column : Column) :
      (∀ rendered, column.renderComment? dialect table = some rendered →
        ∃ text, rendered = .ok text) ↔
          ∀ comment ∈ column.comment, '\x00' ∉ comment.toList := by
    unfold renderComment?
    cases column.comment with
    | none => simp
    | some comment =>
      simp only [Option.map_some, Option.some.injEq, forall_eq', exists_bind_eq_ok,
        exists_pure_eq_ok, and_true, exists_literalAt, Literal.Renderable, Option.mem_some_iff]
  simp only [renderComments, renders_each, id_eq, List.forall_mem_filterMap, hcomment]

/-- The index a column stands for is over a column with a name, so only what is declared of it can
be wrong. -/
theorem compiles_indexCommand? (hname : column.name ≠ "") :
    (∀ command, column.indexCommand? = some command → command.Compiles table) ↔
      ∀ index ∈ column.index, index.Acceptable := by
  unfold indexCommand?
  cases column.index with
  | none => simp
  | some index =>
    simp only [Option.map_some, Option.some.injEq, forall_eq', Option.mem_some_iff,
      Command.compiles_createIndex]
    constructor
    · intro h
      exact ⟨h.name, h.unique⟩
    · intro h
      exact ⟨h.name, ⟨by simp, by simpa using hname.symm⟩, h.unique, by simp⟩

/-- Columns pass every step at which something can be wrong with them: the search for empty names,
their definitions, their comments and their indexes. -/
structure AllCompile (table : String) (columns : List Column) : Prop where
  faults : columns.flatMap Column.faults = []
  definitions : ∀ column ∈ columns, ∃ text, column.render dialect = .ok text
  comments : ∃ comments, renderComments dialect table columns = .ok comments
  indexes : ∀ column ∈ columns, ∀ command, column.indexCommand? = some command →
    command.Compiles table

theorem allCompile_iff : AllCompile table columns ↔ ∀ column ∈ columns, column.Acceptable := by
  have hnames : columns.flatMap Column.faults = [] ↔ ∀ column ∈ columns, column.name ≠ "" := by
    simp only [List.flatMap_eq_nil_iff, Column.faults, nameFaults_eq_nil]
  constructor
  · intro h column hcolumn
    have hname := hnames.mp h.faults column hcolumn
    exact ⟨hname, exists_render.mp (h.definitions column hcolumn),
      exists_renderComments.mp h.comments column hcolumn,
      (compiles_indexCommand? hname).mp (h.indexes column hcolumn)⟩
  · intro h
    refine ⟨hnames.mpr fun column hcolumn => (h column hcolumn).name, ?_, ?_, ?_⟩
    · intro column hcolumn
      exact exists_render.mpr (h column hcolumn).default
    · exact exists_renderComments.mpr fun column hcolumn => (h column hcolumn).comment
    · intro column hcolumn
      exact (compiles_indexCommand? (h column hcolumn).name).mpr (h column hcolumn).index

theorem exists_additionStatements :
    (∃ statements, additionStatements dialect table columns = .ok statements) ↔
      (∀ column ∈ columns, ∃ text, column.render dialect = .ok text) ∧
        ∃ comments, renderComments dialect table columns = .ok comments := by
  have hends (additions : List String) :
      ∃ addition, (if additions.isEmpty then return none
        else return some ("ALTER TABLE " ++ dialect.quoteIdentifier table ++ " " ++
          ", ".intercalate additions) : Except RenderError (Option String)) = .ok addition := by
    split <;> exact exists_pure_eq_ok
  simp only [additionStatements, renderAdditions?, exists_bind_eq_ok, hends, and_true,
    exists_and_right, renders_each, renderAddition, exists_pure_eq_ok]

end Column

namespace CreateTable

variable {table : String} {definition : CreateTable}

theorem exists_statements :
    (∃ statements, definition.statements dialect table = .ok statements) ↔
      (∀ column ∈ definition.columns, ∃ text, column.render dialect = .ok text) ∧
        ∃ comments, Column.renderComments dialect table definition.columns = .ok comments := by
  simp only [CreateTable.statements, CreateTable.render, exists_bind_eq_ok, exists_pure_eq_ok,
    and_true, exists_and_right, renders_each]

end CreateTable

theorem TriggerEvent.faults_eq_nil {trigger : String} {event : TriggerEvent} :
    event.faults trigger = [] ↔ event.Acceptable := by
  cases event with
  | updateOf columns => exact TriggerEvent.faults_updateOf
  | _ => simp [TriggerEvent.faults, TriggerEvent.Acceptable]

theorem Trigger.acceptable_iff {trigger : Trigger} :
    (trigger.faults = [] ∧ ∃ sql, trigger.render dialect = .ok sql) ↔ trigger.Acceptable := by
  simp only [Trigger.faults_eq_nil, TriggerEvent.faults_eq_nil, Trigger.render, exists_bind_eq_ok,
    exists_pure_eq_ok, and_true, exists_tupleAt]
  constructor
  · rintro ⟨⟨⟨hname, htable, hfunction⟩, hevents⟩, harguments⟩
    exact ⟨hname, htable, hfunction, hevents, harguments⟩
  · intro h
    exact ⟨⟨⟨h.name, h.table, h.function⟩, h.events⟩, h.arguments⟩

theorem PartitionBounds.exists_render {partition : String} {bounds : PartitionBounds} :
    (∃ text, bounds.render dialect partition = .ok text) ↔ bounds.Acceptable := by
  cases bounds with
  | range lower upper =>
    simp only [PartitionBounds.render, exists_bind_eq_ok, exists_pure_eq_ok, and_true,
      exists_tupleAt, exists_and_right, PartitionBounds.Acceptable]
  | list values =>
    simp only [PartitionBounds.render, exists_bind_eq_ok, exists_pure_eq_ok, and_true,
      exists_tupleAt, PartitionBounds.Acceptable]
  | hash modulus remainder =>
    simp only [PartitionBounds.render, exists_pure_eq_ok, PartitionBounds.Acceptable]
  | rest => simp only [PartitionBounds.render, exists_pure_eq_ok, PartitionBounds.Acceptable]
  | raw clause => simp only [PartitionBounds.render, exists_pure_eq_ok, PartitionBounds.Acceptable]

namespace Command

variable {table : String} {command : Command}

/-- A command is compiled and so are the indexes that its columns stand for. -/
def CompilesWithIndexes (table : String) (command : Command) : Prop :=
  command.Compiles table ∧ ∀ column ∈ command.columns, ∀ index,
    column.indexCommand? = some index → index.Compiles table

theorem compilesWithIndexes_of_columns (h : command.columns = []) :
    command.CompilesWithIndexes table ↔
      command.ownFaults table = [] ∧
        ∃ rendering, command.render dialect table = .ok rendering := by
  simp [CompilesWithIndexes, Compiles, faults, h]

theorem compiles_createTable {definition : CreateTable} :
    (Command.createTable definition).Compiles table ↔
      (definition.columns.flatMap Column.faults = [] ∧ definition.faults table = []) ∧
        ∃ statements, definition.statements dialect table = .ok statements := by
  simp only [Compiles, faults, columns, ownFaults, List.append_eq_nil_iff, render,
    exists_bind_eq_ok, exists_pure_eq_ok, and_true]

theorem compiles_addColumns {added : List Column} :
    (Command.addColumns added).Compiles table ↔
      added.flatMap Column.faults = [] ∧
        ∃ statements, Column.additionStatements dialect table added = .ok statements := by
  simp only [Compiles, faults, columns, ownFaults, List.append_nil, render, exists_bind_eq_ok,
    exists_pure_eq_ok, and_true]

theorem compilesWithIndexes_iff : command.CompilesWithIndexes table ↔ command.Acceptable := by
  cases command with
  | createTable definition =>
    rw [CompilesWithIndexes, compiles_createTable, CreateTable.faults_eq_nil,
      CreateTable.exists_statements]
    constructor
    · rintro ⟨⟨⟨hfaults, hcontent, hlike⟩, hdefinitions, hcomments⟩, hindexes⟩
      exact ⟨Column.allCompile_iff.mp ⟨hfaults, hdefinitions, hcomments, hindexes⟩, hcontent,
        hlike⟩
    · intro h
      have hcolumns : Column.AllCompile table definition.columns :=
        Column.allCompile_iff.mpr h.columns
      exact ⟨⟨⟨hcolumns.faults, h.content, h.like⟩, hcolumns.definitions, hcolumns.comments⟩,
        hcolumns.indexes⟩
  | addColumns added =>
    rw [CompilesWithIndexes, compiles_addColumns, Column.exists_additionStatements]
    constructor
    · rintro ⟨⟨hfaults, hdefinitions, hcomments⟩, hindexes⟩
      exact Column.allCompile_iff.mp ⟨hfaults, hdefinitions, hcomments, hindexes⟩
    · intro h
      have hcolumns : Column.AllCompile table added := Column.allCompile_iff.mpr h
      exact ⟨⟨hcolumns.faults, hcolumns.definitions, hcolumns.comments⟩, hcolumns.indexes⟩
  | createIndex index =>
    rw [compilesWithIndexes_of_columns rfl]
    simp only [ownFaults, render, exists_bind_eq_ok, exists_pure_eq_ok, and_true,
      Index.acceptable_iff, Acceptable]
  | createTrigger trigger =>
    rw [compilesWithIndexes_of_columns rfl]
    simp only [ownFaults, render, exists_bind_eq_ok, exists_pure_eq_ok, and_true,
      Trigger.acceptable_iff, Acceptable]
  | attachPartition partition bounds =>
    rw [compilesWithIndexes_of_columns rfl]
    simp only [ownFaults, nameFaults_eq_nil, render, renderAttachment, exists_bind_eq_ok,
      exists_pure_eq_ok, and_true, PartitionBounds.exists_render, Acceptable]
  | createView view =>
    rw [compilesWithIndexes_of_columns rfl]
    simp only [ownFaults, List.append_eq_nil_iff, nameFaults_eq_nil, render, exists_pure_eq_ok,
      and_true, Acceptable]
  | dropTable ifExists =>
    rw [compilesWithIndexes_of_columns rfl]
    simp only [ownFaults, render, exists_pure_eq_ok, and_true, Acceptable]
  | _ =>
    rw [compilesWithIndexes_of_columns rfl]
    simp only [ownFaults, nameFaults_eq_nil, render, exists_pure_eq_ok, and_true, Acceptable]

end Command

namespace Blueprint

/-- The commands that are compiled are those of the blueprint and the indexes of their columns. -/
theorem forall_resolvedCommands {b : Blueprint} {P : Command → Prop} :
    (∀ command ∈ b.resolvedCommands, P command) ↔
      ∀ command ∈ b.commands, P command ∧ ∀ column ∈ command.columns, ∀ index,
        column.indexCommand? = some index → P index := by
  simp only [resolvedCommands, inlineIndexes, Blueprint.columns, List.forall_mem_append,
    List.forall_mem_filterMap, List.forall_mem_flatMap]
  constructor
  · rintro ⟨hcommands, hindexes⟩ command hcommand
    exact ⟨hcommands command hcommand, hindexes command hcommand⟩
  · intro h
    exact ⟨fun command hcommand => (h command hcommand).1,
      fun command hcommand => (h command hcommand).2⟩

/-- A blueprint has statements exactly if all its names, columns, indexes, predicates, triggers and
bounds are acceptable. -/
theorem compile_ok_iff {b : Blueprint} :
    (∃ statements, b.compile dialect = .ok statements) ↔ b.Acceptable := by
  have hcompile : (∃ statements, b.compile dialect = .ok statements) ↔
      b.table ≠ "" ∧ ∀ command ∈ b.resolvedCommands, command.Compiles b.table := by
    simp only [Command.Compiles, forall_and, ← exists_forall₂]
    constructor
    · rintro ⟨statements, h⟩
      obtain ⟨hfaults, renderings, hall, -⟩ := compile_eq_ok.mp h
      obtain ⟨htable, hcommands⟩ := faults_eq_nil.mp hfaults
      exact ⟨htable, hcommands, renderings, hall⟩
    · rintro ⟨htable, hcommands, renderings, hall⟩
      exact ⟨_, compile_eq_ok.mpr ⟨faults_eq_nil.mpr ⟨htable, hcommands⟩, renderings, hall, rfl⟩⟩
  rw [hcompile, forall_resolvedCommands]
  constructor
  · rintro ⟨htable, hcommands⟩
    refine ⟨htable, ?_⟩
    intro command hcommand
    exact Command.compilesWithIndexes_iff.mp (hcommands command hcommand)
  · intro h
    refine ⟨h.table, ?_⟩
    intro command hcommand
    exact Command.compilesWithIndexes_iff.mpr (h.commands command hcommand)

end Blueprint

end SchemaDraft
