import SchemaDraft.Proofs.Blueprint.Arrangement
import SchemaDraft.Proofs.Blueprint.Rendering

/-!
An index declared on a column or by a call of its own. Where a column is created, nothing is said
of an index on it; the index has a statement of its own, behind those of all commands. So a run that
declares indexes on columns compiles to the same as the one that declares them at its end, in the
order of the columns.
-/

namespace SchemaDraft

/-- The column as it is without the index declared on it. -/
def Column.withoutIndex (column : Column) : Column := { column with index := none }

/-- The command with no index declared on its columns. -/
def Command.withoutInlineIndexes : Command → Command
  | .createTable definition =>
    .createTable { definition with columns := definition.columns.map Column.withoutIndex }
  | .addColumns columns => .addColumns (columns.map Column.withoutIndex)
  | command => command

/-- Whether the index is one that a method of a column declares: a unique one is a B-tree. -/
def InlineIndex.isPlain (index : InlineIndex) : Bool := !index.unique || index.method == .btree

/-- The call on the blueprint that declares the same index as the one on the column. -/
def InlineIndex.declaration (column : String) (index : InlineIndex) : Call :=
  let handled := (index.name.map IndexCall.named).toList
  if index.unique then .unique [column] handled else .index [column] index.method handled

/-- The index that a call on a column declares. -/
def ColumnCall.index? : ColumnCall → Option InlineIndex
  | .index declared => some declared
  | _ => none

namespace Call

/-- Whether all indexes declared on the column that the call adds are plain. -/
def declaresPlain : Call → Bool
  | .addColumn _ _ calls => (calls.filterMap ColumnCall.index?).all InlineIndex.isPlain
  | _ => true

/-- The call without the declarations of indexes on the column it adds. -/
def withoutInlineIndexes : Call → Call
  | .addColumn name type calls => .addColumn name type (calls.filter (·.index?.isNone))
  | call => call

/-- The call on the blueprint that matches the index declared on the added column: if there are
several, the last. -/
def declaration? : Call → Option Call
  | .addColumn name _ calls =>
    (calls.filterMap ColumnCall.index?).getLast?.map (InlineIndex.declaration name)
  | _ => none

end Call

/-- The run that declares no index on a column, and all these indexes at its end, in the order of
the columns. -/
def declaredApart (calls : List Call) : List Call :=
  calls.map Call.withoutInlineIndexes ++ calls.filterMap Call.declaration?

section Forgotten

variable {d : Dialect} {table : String}

theorem renderEach_map {α β γ : Type} {f : β → Except RenderError γ} {g : α → Except RenderError γ}
    {change : α → β} (h : ∀ a, f (change a) = g a) (as : List α) :
    renderEach f (as.map change) = renderEach g as := by
  refine renderEach_eq_of_forall₂ ?_
  rw [List.forall₂_map_left_iff]
  exact List.forall₂_same.mpr fun a _ => h a

theorem Column.renderComments_withoutIndex (columns : List Column) :
    renderComments d table (columns.map withoutIndex) = renderComments d table columns := by
  rw [renderComments, renderComments, List.filterMap_map]
  rfl

theorem Column.additionStatements_withoutIndex (columns : List Column) :
    additionStatements d table (columns.map withoutIndex) = additionStatements d table columns := by
  have hadditions : renderEach (renderAddition d) (columns.map withoutIndex) =
      renderEach (renderAddition d) columns := renderEach_map (fun _ => rfl) columns
  rw [additionStatements, additionStatements, renderAdditions?, renderAdditions?, hadditions,
    renderComments_withoutIndex]

theorem CreateTable.statements_withoutIndex (definition : CreateTable) :
    CreateTable.statements d table
        { definition with columns := definition.columns.map Column.withoutIndex } =
      definition.statements d table := by
  have hcolumns : renderEach (Column.render d) (definition.columns.map Column.withoutIndex) =
      renderEach (Column.render d) definition.columns := renderEach_map (fun _ => rfl) _
  rw [CreateTable.statements, CreateTable.statements, CreateTable.render, CreateTable.render,
    hcolumns, Column.renderComments_withoutIndex]

namespace Command

/-- The statements of a command say nothing of indexes on its columns. -/
theorem render_withoutInlineIndexes (command : Command) :
    command.withoutInlineIndexes.render d table = command.render d table := by
  cases command with
  | createTable definition =>
    rw [withoutInlineIndexes, render, render, CreateTable.statements_withoutIndex]
  | addColumns columns =>
    rw [withoutInlineIndexes, render, render, Column.additionStatements_withoutIndex]
  | _ => rfl

theorem kind_withoutInlineIndexes (command : Command) :
    command.withoutInlineIndexes.kind = command.kind := by
  cases command <;> rfl

theorem faults_withoutInlineIndexes (command : Command) :
    command.withoutInlineIndexes.faults table = command.faults table := by
  have hcolumns (columns : List Column) :
      (columns.map Column.withoutIndex).flatMap Column.faults = columns.flatMap Column.faults := by
    rw [List.flatMap_map]
    rfl
  cases command with
  | createTable definition =>
    simp only [faults, withoutInlineIndexes, columns, ownFaults, CreateTable.faults, hcolumns,
      List.isEmpty_map]
  | addColumns added => simp only [faults, withoutInlineIndexes, columns, ownFaults, hcolumns]
  | _ => rfl

end Command

theorem Blueprint.renderCommands_withoutInlineIndexes (commands : List Command) :
    renderCommands d table (commands.map Command.withoutInlineIndexes) =
      renderCommands d table commands := by
  induction commands with
  | nil => rfl
  | cons command commands ih =>
    rw [List.map_cons, renderCommands_cons, renderCommands_cons, ih,
      Command.render_withoutInlineIndexes, Command.kind_withoutInlineIndexes]

/-- Blueprints of one table whose commands are the same but for indexes on columns, those that
these stand for included, compile to the same. -/
theorem Blueprint.compilation_congr {b other : Blueprint} (htable : b.table = other.table)
    (hcommands : b.resolvedCommands.map Command.withoutInlineIndexes = other.resolvedCommands) :
    b.compilation d = other.compilation d := by
  have hfaults : b.faults = other.faults := by
    rw [faults, faults, ← hcommands, List.flatMap_map, htable]
    simp only [Command.faults_withoutInlineIndexes]
  rw [compilation, compilation, hfaults, ← hcommands, renderCommands_withoutInlineIndexes, htable]

end Forgotten

namespace ColumnCall

theorem name_foldl (calls : List ColumnCall) (column : Column) :
    (calls.foldl apply column).name = column.name := by
  induction calls generalizing column with
  | nil => rfl
  | cons call calls ih =>
    rw [List.foldl_cons, ih]
    cases call <;> rfl

/-- The last declaration of an index on a column counts. -/
theorem index_foldl (calls : List ColumnCall) (column : Column) :
    (calls.foldl apply column).index = (calls.filterMap index?).getLast?.or column.index := by
  induction calls using List.reverseRecOn with
  | nil => rfl
  | append_singleton calls call ih =>
    rw [List.foldl_append, List.filterMap_append]
    cases call with
    | index declared => simp [apply, index?, Column.withIndex]
    | _ => exact ih.trans (by simp [index?])

theorem foldl_withoutIndex (calls : List ColumnCall) (column : Column) :
    (calls.filter (·.index?.isNone)).foldl apply column.withoutIndex =
      (calls.foldl apply column).withoutIndex := by
  induction calls generalizing column with
  | nil => rfl
  | cons call calls ih =>
    rw [List.foldl_cons, ← ih]
    cases call <;> rfl

end ColumnCall

section Calls

variable {call : Call} {calls : List Call} {table : String} {creates : Bool}

namespace Call

theorem column?_withoutInlineIndexes (call : Call) :
    call.withoutInlineIndexes.column? = call.column?.map Column.withoutIndex := by
  cases call with
  | addColumn name type calls =>
    exact congrArg some (ColumnCall.foldl_withoutIndex calls (.of name type))
  | _ => rfl

theorem concern_withoutInlineIndexes (call : Call) :
    call.withoutInlineIndexes.concern = call.concern := by
  cases call <;> rfl

theorem isFluent_withoutInlineIndexes (call : Call) :
    call.withoutInlineIndexes.isFluent = call.isFluent := by
  cases call <;> rfl

theorem asksIfNotExists_withoutInlineIndexes (call : Call) :
    call.withoutInlineIndexes.asksIfNotExists = call.asksIfNotExists := by
  cases call <;> rfl

theorem likeClause?_withoutInlineIndexes (call : Call) :
    call.withoutInlineIndexes.likeClause? = call.likeClause? := by
  cases call <;> rfl

theorem command?_withoutInlineIndexes (call : Call) :
    call.withoutInlineIndexes.command? table = call.command? table := by
  cases call <;> rfl

end Call

theorem InlineIndex.declaration_parts (column : String) (index : InlineIndex) :
    (index.declaration column).concern = .ownCommand ∧
      (index.declaration column).isFluent = true := by
  rw [declaration]
  split <;> exact ⟨rfl, rfl⟩

theorem InlineIndex.command?_declaration {index : InlineIndex} (h : index.isPlain = true)
    (column : String) :
    (index.declaration column).command? table =
      some (.createIndex
        { name := index.name, columns := [column], method := index.method,
          unique := index.unique }) := by
  obtain ⟨unique, method, name⟩ := index
  cases unique with
  | true =>
    obtain rfl : method = .btree := by simpa [isPlain] using h
    cases name <;> rfl
  | false => cases name <;> rfl

theorem Call.exists_of_declaration? {declared : Call} (h : call.declaration? = some declared) :
    ∃ column index, declared = InlineIndex.declaration column index := by
  cases call with
  | addColumn name type calls =>
    obtain ⟨index, -, rfl⟩ := Option.map_eq_some_iff.mp h
    exact ⟨name, index, rfl⟩
  | _ => cases h

/-- The call that matches the index on a column makes the command that the index stands for. -/
theorem Call.command?_declaration? (h : call.declaresPlain = true) :
    call.declaration?.bind (command? table) = call.column?.bind Column.indexCommand? := by
  cases call with
  | addColumn name type calls =>
    have hindex : (calls.foldl ColumnCall.apply (.of name type)).index =
        (calls.filterMap ColumnCall.index?).getLast? :=
      (ColumnCall.index_foldl calls (.of name type)).trans Option.or_none
    have hname : (calls.foldl ColumnCall.apply (.of name type)).name = name :=
      ColumnCall.name_foldl calls (.of name type)
    rw [declaration?, column?, Option.bind_some, Column.indexCommand?, hindex, hname]
    cases hlast : (calls.filterMap ColumnCall.index?).getLast? with
    | none => rfl
    | some index =>
      have hplain : index.isPlain = true :=
        List.all_eq_true.mp h index (List.mem_of_getLast? hlast)
      exact InlineIndex.command?_declaration hplain name
  | _ => rfl

theorem parts_of_mem_declarations {made : Call}
    (hmade : made ∈ calls.filterMap Call.declaration?) :
    made.concern = .ownCommand ∧ made.isFluent = true := by
  obtain ⟨call, -, hdeclaration⟩ := List.mem_filterMap.mp hmade
  obtain ⟨column, index, rfl⟩ := Call.exists_of_declaration? hdeclaration
  exact index.declaration_parts column

theorem isFluent_of_mem_declaredApart (hfluent : ∀ call ∈ calls, call.isFluent = true) :
    ∀ call ∈ declaredApart calls, call.isFluent = true := by
  intro made hmade
  rcases List.mem_append.mp hmade with hold | hdeclared
  · obtain ⟨call, hcall, rfl⟩ := List.mem_map.mp hold
    rw [call.isFluent_withoutInlineIndexes]
    exact hfluent call hcall
  · exact (parts_of_mem_declarations hdeclared).2

/-- What only calls without commands of their own contribute is not contributed by the calls at the
end. -/
theorem filterMap_declaredApart {α : Type} {f : Call → Option α}
    (h : ∀ call : Call, call.concern = .ownCommand → f call = none) (calls : List Call) :
    (declaredApart calls).filterMap f = calls.filterMap fun call => f call.withoutInlineIndexes := by
  have hdeclared : (calls.filterMap Call.declaration?).filterMap f = [] :=
    List.filterMap_eq_nil_iff.mpr fun made hmade => h made (parts_of_mem_declarations hmade).1
  rw [declaredApart, List.filterMap_append, List.filterMap_map, hdeclared, List.append_nil]
  rfl

theorem any_declaredApart {p : Call → Bool}
    (h : ∀ call : Call, call.concern = .ownCommand → p call = false) (calls : List Call) :
    (declaredApart calls).any p = calls.any fun call => p call.withoutInlineIndexes := by
  have hdeclared : (calls.filterMap Call.declaration?).any p = false :=
    List.any_eq_false.mpr fun made hmade => by simp [h made (parts_of_mem_declarations hmade).1]
  rw [declaredApart, List.any_append, List.any_map, hdeclared, Bool.or_false]
  rfl

theorem tableDefinition_declaredApart (calls : List Call) :
    tableDefinition (declaredApart calls) =
      { tableDefinition calls with
        columns := (tableDefinition calls).columns.map Column.withoutIndex } := by
  have hcolumns : (declaredApart calls).filterMap Call.column? =
      (calls.filterMap Call.column?).map Column.withoutIndex := by
    rw [filterMap_declaredApart fun call hcall => (Call.parts_of_ownCommand hcall).1,
      List.map_filterMap]
    simp only [Call.column?_withoutInlineIndexes]
  have hlike : (declaredApart calls).filterMap Call.likeClause? =
      calls.filterMap Call.likeClause? := by
    rw [filterMap_declaredApart fun call hcall => (Call.parts_of_ownCommand hcall).2.1]
    simp only [Call.likeClause?_withoutInlineIndexes]
  have hexists : (declaredApart calls).any Call.asksIfNotExists =
      calls.any Call.asksIfNotExists := by
    rw [any_declaredApart fun call hcall => (Call.parts_of_ownCommand hcall).2.2]
    simp only [Call.asksIfNotExists_withoutInlineIndexes]
  rw [tableDefinition, hcolumns, hlike, hexists, tableDefinition]

theorem createsTable_declaredApart (creates : Bool) (calls : List Call) :
    createsTable creates (declaredApart calls) = createsTable creates calls := by
  have hoption (call : Call) (hcall : call.concern = .ownCommand) :
      decide (call.concern = .tableOption) = false :=
    decide_eq_false fun h => nomatch hcall.symm.trans h
  rw [createsTable, createsTable, any_declaredApart hoption]
  simp only [Call.concern_withoutInlineIndexes]

theorem commands_declaredApart (hplain : ∀ call ∈ calls, call.declaresPlain = true) :
    (declaredApart calls).filterMap (Call.command? table) =
      calls.filterMap (Call.command? table) ++
        (calls.filterMap Call.column?).filterMap Column.indexCommand? := by
  have hdeclared : (calls.filterMap Call.declaration?).filterMap (Call.command? table) =
      (calls.filterMap Call.column?).filterMap Column.indexCommand? := by
    rw [List.filterMap_filterMap, List.filterMap_filterMap]
    exact List.filterMap_congr fun call hcall => Call.command?_declaration? (hplain call hcall)
  rw [declaredApart, List.filterMap_append, List.filterMap_map, hdeclared]
  simp only [Function.comp_def, Call.command?_withoutInlineIndexes]

/-- The columns of an arranged blueprint stand in the order of the calls that add them. -/
theorem columns_arranged (hfluent : ∀ call ∈ calls, call.isFluent = true) :
    (Blueprint.arranged creates table calls).columns = calls.filterMap Call.column? := by
  have hfront (creates : Bool) (definition : CreateTable) :
      (frontCommands creates definition).flatMap Command.columns = definition.columns := by
    cases creates with
    | true => simp [frontCommands, Command.columns]
    | false => cases hcolumns : definition.columns <;> simp [frontCommands, Command.columns, hcolumns]
  have hown : (calls.filterMap (Call.command? table)).flatMap Command.columns = [] :=
    List.flatMap_eq_nil_iff.mpr fun command hcommand =>
      Command.columns_eq_nil (forall_carriesColumns_eq_false table hfluent command hcommand)
  rw [Blueprint.columns, Blueprint.arranged, List.flatMap_append, hfront, hown, List.append_nil]
  rfl

theorem Command.withoutInlineIndexes_eq_self {command : Command}
    (h : command.carriesColumns = false) : command.withoutInlineIndexes = command := by
  cases command with
  | createTable _ | addColumns _ => cases h
  | _ => rfl

theorem map_withoutInlineIndexes_eq_self {commands : List Command}
    (h : ∀ command ∈ commands, command.carriesColumns = false) :
    commands.map Command.withoutInlineIndexes = commands :=
  (List.map_congr_left fun command hcommand =>
    Command.withoutInlineIndexes_eq_self (h command hcommand)).trans commands.map_id

theorem map_frontCommands (creates : Bool) (definition : CreateTable) :
    (frontCommands creates definition).map Command.withoutInlineIndexes =
      frontCommands creates
        { definition with columns := definition.columns.map Column.withoutIndex } := by
  cases creates with
  | true => rfl
  | false =>
    cases hcolumns : definition.columns <;>
      simp [frontCommands, hcolumns, Command.withoutInlineIndexes]

theorem resolvedCommands_declaredApart (creates : Bool) (table : String)
    (hfluent : ∀ call ∈ calls, call.isFluent = true)
    (hplain : ∀ call ∈ calls, call.declaresPlain = true) :
    (Blueprint.arranged creates table calls).resolvedCommands.map Command.withoutInlineIndexes =
      (Blueprint.arranged creates table (declaredApart calls)).resolvedCommands := by
  have hown : (calls.filterMap (Call.command? table)).map Command.withoutInlineIndexes =
      calls.filterMap (Call.command? table) :=
    map_withoutInlineIndexes_eq_self (forall_carriesColumns_eq_false table hfluent)
  have hinline (columns : List Column) :
      (columns.filterMap Column.indexCommand?).map Command.withoutInlineIndexes =
        columns.filterMap Column.indexCommand? := by
    refine map_withoutInlineIndexes_eq_self fun command hcommand => ?_
    obtain ⟨column, -, hcolumn⟩ := List.mem_filterMap.mp hcommand
    obtain ⟨index, -, rfl⟩ := Option.map_eq_some_iff.mp hcolumn
    rfl
  -- Without indexes on columns, no command is left for them to stand for.
  have hnone : (Blueprint.arranged creates table (declaredApart calls)).inlineIndexes = [] := by
    have hcolumns : (declaredApart calls).filterMap Call.column? =
        (tableDefinition calls).columns.map Column.withoutIndex :=
      congrArg CreateTable.columns (tableDefinition_declaredApart calls)
    rw [Blueprint.inlineIndexes, columns_arranged (isFluent_of_mem_declaredApart hfluent), hcolumns,
      List.filterMap_map]
    exact List.filterMap_eq_nil_iff.mpr fun column _ => rfl
  rw [Blueprint.resolvedCommands, Blueprint.resolvedCommands, hnone, List.append_nil,
    Blueprint.inlineIndexes, columns_arranged hfluent, List.map_append, hinline]
  simp only [Blueprint.arranged, List.map_append, map_frontCommands, hown,
    tableDefinition_declaredApart, createsTable_declaredApart, commands_declaredApart hplain,
    List.append_assoc]

/-- It makes no difference whether an index is declared on a column or by a call of its own at the
end of the run, the columns in order: both runs come to the same commands but for the indexes on the
columns, those that these stand for included, and both compile in every dialect to the same
statements or the same error, with the same events on the way. -/
theorem Blueprint.run_declaredApart (creates : Bool) (table : String)
    (hfluent : ∀ call ∈ calls, call.isFluent = true)
    (hplain : ∀ call ∈ calls, call.declaresPlain = true) :
    let inline := (start creates table).run calls
    let apart := (start creates table).run (declaredApart calls)
    inline.resolvedCommands.map Command.withoutInlineIndexes = apart.resolvedCommands ∧
      ∀ d, inline.compile d = apart.compile d ∧ inline.compilation d = apart.compilation d := by
  intro inline apart
  have hinline : inline = .arranged creates table calls := run_eq_arranged hfluent
  have hapart : apart = .arranged creates table (declaredApart calls) :=
    run_eq_arranged (isFluent_of_mem_declaredApart hfluent)
  have hcommands : inline.resolvedCommands.map Command.withoutInlineIndexes =
      apart.resolvedCommands := by
    rw [hinline, hapart]
    exact resolvedCommands_declaredApart creates table hfluent hplain
  have htable : inline.table = apart.table := by
    rw [hinline, hapart]
    rfl
  refine ⟨hcommands, fun d => ?_⟩
  have hcompilation : inline.compilation d = apart.compilation d :=
    compilation_congr htable hcommands
  exact ⟨congrArg Compilation.result hcompilation, hcompilation⟩

/-- The last index declared on a column counts, and the indexes on columns come after an index that
was declared later than they were. -/
theorem Blueprint.run_declaredApart_renamed :
    let name : Call := .addColumn "name" .text
      [.index { method := .gin }, .allowNull, .index { unique := true, name := some "u" }]
    let both : Call := .index ["name", "area"] .btree []
    let area : Call := .addColumn "area" .tsRange [.index { method := .gist }]
    let calls := [name, both, area, .ifNotExists]
    let inline := (start false "t").run calls
    let apart := (start false "t").run
      [.addColumn "name" .text [.allowNull], both, .addColumn "area" .tsRange [], .ifNotExists,
       .unique ["name"] [.named "u"], .index ["area"] .gist []]
    (∀ call ∈ calls, call.isFluent = true) ∧ (∀ call ∈ calls, call.declaresPlain = true) ∧
      inline.resolvedCommands.map Command.withoutInlineIndexes = apart.resolvedCommands ∧
      apart.resolvedCommands.drop 1 =
        [.createIndex { columns := ["name", "area"] },
         .createIndex { name := some "u", columns := ["name"], unique := true },
         .createIndex { columns := ["area"], method := .gist }] ∧
      ∀ d, inline.compile d = apart.compile d := by
  intro name both area calls inline apart
  have hfluent : ∀ call ∈ calls, call.isFluent = true := by decide
  have hplain : ∀ call ∈ calls, call.declaresPlain = true := by decide
  obtain ⟨hcommands, hcompile⟩ := run_declaredApart false "t" hfluent hplain
  exact ⟨hfluent, hplain, hcommands, rfl, fun d => (hcompile d).1⟩

end Calls

end SchemaDraft
