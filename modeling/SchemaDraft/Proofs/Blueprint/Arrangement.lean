import Mathlib.Data.List.Induction
import SchemaDraft.Blueprint.Calls
import SchemaDraft.Blueprint.Compile
import SchemaDraft.Proofs.Blueprint.Carrier

/-!
Where the calls of a run end up. A call is about a column, about an option of the table, or it
appends a command of its own. A run sorts them: at most one command in front holds all columns and
table options, and the other commands follow in the order of their calls. So it does not matter how
the three concerns are mixed.
-/

namespace SchemaDraft

inductive Concern where
  | column
  | tableOption
  | ownCommand
  deriving DecidableEq

namespace Call

def concern : Call → Concern
  | .addColumn _ _ _ => .column
  | .ifNotExists | .like _ _ => .tableOption
  | _ => .ownCommand

/-- Whether the call is not one that appends columns behind the back of the builder. -/
def isFluent : Call → Bool
  | .push command => !command.carriesColumns
  | _ => true

/-- The column that a call adds. -/
def column? : Call → Option Column
  | .addColumn name type calls => some (calls.foldl ColumnCall.apply (.of name type))
  | _ => none

def asksIfNotExists : Call → Bool
  | .ifNotExists => true
  | _ => false

def likeClause? : Call → Option LikeClause
  | .like source calls => some (calls.foldl LikeCall.apply { source })
  | _ => none

/-- The command of its own that a call makes in a blueprint of the table. -/
def command? (table : String) : Call → Option Command
  | .index columns method calls =>
    some (.createIndex (IndexCall.applyAll { columns, method } calls).1)
  | .unique columns calls =>
    some (.createIndex (IndexCall.applyAll { columns, unique := true } calls).1)
  | .uniquePartial columns calls =>
    some (.createIndex (calls.foldl PartialIndexCall.apply { columns, unique := true }))
  | .createTrigger name timing event function calls =>
    some (.createTrigger (calls.foldl TriggerCall.apply
      { name, timing, events := [event], table, function }))
  | .createView select materialize => some (.createView { name := table, select, materialize })
  | .dropTable ifExists => some (.dropTable ifExists)
  | .dropIndex name => some (.dropIndex name)
  | .dropUnique name => some (.dropUnique name)
  | .dropView materialized => some (.dropView table materialized)
  | .dropTrigger name => some (.dropTrigger name)
  | .attachPartition partition bounds => some (.attachPartition partition bounds)
  | .detachPartition partition => some (.detachPartition partition)
  | .push command => some command
  | .addColumn _ _ _ | .ifNotExists | .like _ _ | .hasIndex _ _ => none

end Call

/-- Whether a run creates its table: it starts so, or a call about the table asks for it. -/
def createsTable (creates : Bool) (calls : List Call) : Bool :=
  creates || calls.any (·.concern = .tableOption)

/-- What the calls about columns and the table define. -/
def tableDefinition (calls : List Call) : CreateTable :=
  { columns := calls.filterMap Call.column?
    ifNotExists := calls.any Call.asksIfNotExists
    like := (calls.filterMap Call.likeClause?).getLast? }

/-- The command in front, if there is any: it creates the table, or it only adds columns. -/
def frontCommands (creates : Bool) (definition : CreateTable) : List Command :=
  if creates then [.createTable definition]
  else if definition.columns.isEmpty then []
  else [.addColumns definition.columns]

namespace Blueprint

/-- The blueprint of a table that a run starts from. -/
def start (creates : Bool) (table : String) : Blueprint :=
  if creates then create table else alter table

/-- What a run of calls comes to. -/
def arranged (creates : Bool) (table : String) (calls : List Call) : Blueprint :=
  { table
    commands := frontCommands (createsTable creates calls) (tableDefinition calls) ++
      calls.filterMap (Call.command? table) }

end Blueprint

section Front

variable {table : String} {creates : Bool} {definition : CreateTable} {rest : List Command}
  {column : Column} {edit : CreateTable → CreateTable}

theorem appendToFirst?_eq_none (h : ∀ c ∈ rest, c.carriesColumns = false) :
    appendToFirst? column rest = none := by
  rw [appendToFirst?_eq]
  exact changeFirst?_eq_none_iff.mpr h

theorem defineFirst?_eq_none (h : ∀ c ∈ rest, c.carriesColumns = false) :
    defineFirst? edit rest = none := by
  rw [defineFirst?_eq]
  exact changeFirst?_eq_none_iff.mpr h

theorem Blueprint.addColumn_front (h : ∀ c ∈ rest, c.carriesColumns = false) :
    Blueprint.addColumn { table, commands := frontCommands creates definition ++ rest } column =
      { table, commands :=
          frontCommands creates { definition with columns := definition.columns ++ [column] } ++
            rest } := by
  obtain ⟨columns, ifNotExists, like⟩ := definition
  cases creates with
  | true => rfl
  | false =>
    cases columns with
    | nil => simp [frontCommands, addColumn, appendToFirst?_eq_none h]
    | cons first others => rfl

/-- Columns that are only added have no options of a table with them, so none are lost when the
command comes to create the table. -/
theorem Blueprint.define_front (h : ∀ c ∈ rest, c.carriesColumns = false)
    (hplain : creates = false → definition = { columns := definition.columns }) :
    Blueprint.define { table, commands := frontCommands creates definition ++ rest } edit =
      { table, commands := .createTable (edit definition) :: rest } := by
  cases creates with
  | true => rfl
  | false =>
    rw [hplain rfl]
    cases definition.columns with
    | nil => simp [frontCommands, define, defineFirst?_eq_none h]
    | cons first others => rfl

end Front

section Calls

variable {creates : Bool} {table : String} {calls : List Call} {call : Call}

theorem Call.carriesColumns_of_command? {command : Command} (hfluent : call.isFluent = true)
    (h : call.command? table = some command) : command.carriesColumns = false := by
  cases call with
  | push pushed =>
    obtain rfl := Option.some.inj h
    simpa [Call.isFluent] using hfluent
  | addColumn _ _ _ | ifNotExists | like _ _ | hasIndex _ _ => cases h
  | _ =>
    obtain rfl := Option.some.inj h
    rfl

theorem Call.apply_of_ownCommand (b : Blueprint) (h : call.concern = .ownCommand) :
    (call.apply b).1 =
      { b with commands := b.commands ++ (call.command? b.table).toList } := by
  cases call with
  | addColumn _ _ _ | ifNotExists | like _ _ => cases h
  | hasIndex columns unique => simp [Call.apply, Call.command?]
  | _ => rfl

theorem Call.parts_of_ownCommand (h : call.concern = .ownCommand) :
    call.column? = none ∧ call.likeClause? = none ∧ call.asksIfNotExists = false := by
  cases call with
  | addColumn _ _ _ | ifNotExists | like _ _ => cases h
  | _ => exact ⟨rfl, rfl, rfl⟩

theorem forall_carriesColumns_eq_false (table : String)
    (hfluent : ∀ call ∈ calls, call.isFluent = true) :
    ∀ c ∈ calls.filterMap (Call.command? table), c.carriesColumns = false := by
  intro command hcommand
  obtain ⟨call, hcall, hmade⟩ := List.mem_filterMap.mp hcommand
  exact Call.carriesColumns_of_command? (hfluent call hcall) hmade

theorem Call.options_of_concern_ne (h : call.concern ≠ .tableOption) :
    call.likeClause? = none ∧ call.asksIfNotExists = false := by
  cases call with
  | ifNotExists | like _ _ => exact absurd rfl h
  | _ => exact ⟨rfl, rfl⟩

/-- A run that does not create its table has set no option of it. -/
theorem tableDefinition_of_not_creates (h : createsTable creates calls = false) :
    tableDefinition calls = { columns := (tableDefinition calls).columns } := by
  have hplain : ∀ call ∈ calls, call.likeClause? = none ∧ call.asksIfNotExists = false := by
    intro call hcall
    apply Call.options_of_concern_ne
    simp only [createsTable, Bool.or_eq_false_iff, List.any_eq_false, decide_eq_true_eq] at h
    exact h.2 call hcall
  have hlike : calls.filterMap Call.likeClause? = [] :=
    List.filterMap_eq_nil_iff.mpr fun call hcall => (hplain call hcall).1
  have hexists : calls.any Call.asksIfNotExists = false :=
    List.any_eq_false.mpr fun call hcall => by simp [(hplain call hcall).2]
  simp only [tableDefinition, hlike, hexists, List.getLast?_nil]

/-- One more call keeps a blueprint arranged. -/
theorem apply_arranged (hfluent : ∀ call ∈ calls, call.isFluent = true) :
    (call.apply (.arranged creates table calls)).1 = .arranged creates table (calls ++ [call]) := by
  have hrest := forall_carriesColumns_eq_false table hfluent
  cases hconcern : call.concern with
  | ownCommand =>
    obtain ⟨hcolumn, hlike, hexists⟩ := Call.parts_of_ownCommand hconcern
    rw [Call.apply_of_ownCommand _ hconcern]
    cases hcommand : call.command? table <;>
      simp [Blueprint.arranged, tableDefinition, createsTable, hconcern, hcolumn, hlike, hexists,
        hcommand]
  | column =>
    cases call with
    | addColumn name type columnCalls =>
      rw [Call.apply, Blueprint.arranged, Blueprint.addColumn_front hrest]
      simp [Blueprint.arranged, tableDefinition, createsTable, Call.concern, Call.column?,
        Call.likeClause?, Call.asksIfNotExists, Call.command?]
    | _ => cases hconcern
  | tableOption =>
    have hplain : createsTable creates calls = false → _ := tableDefinition_of_not_creates
    cases call with
    | ifNotExists =>
      rw [Call.apply, Blueprint.arranged, Blueprint.ifNotExists,
        Blueprint.define_front hrest hplain]
      simp [Blueprint.arranged, frontCommands, tableDefinition, createsTable, Call.concern,
        Call.column?, Call.likeClause?, Call.asksIfNotExists, Call.command?]
    | like source likeCalls =>
      rw [Call.apply, Blueprint.arranged, Blueprint.like, Blueprint.define_front hrest hplain]
      simp [Blueprint.arranged, frontCommands, tableDefinition, createsTable, Call.concern,
        Call.column?, Call.likeClause?, Call.asksIfNotExists, Call.command?]
    | _ => cases hconcern

theorem run_eq_arranged (hfluent : ∀ call ∈ calls, call.isFluent = true) :
    (Blueprint.start creates table).run calls = .arranged creates table calls := by
  induction calls using List.reverseRecOn with
  | nil => cases creates <;> rfl
  | append_singleton calls call ih =>
    have hbefore : ∀ call ∈ calls, call.isFluent = true := fun c hc =>
      hfluent c (List.mem_append_left _ hc)
    rw [← apply_arranged hbefore, ← ih hbefore]
    simp only [Blueprint.run, List.foldl_append, List.foldl_cons, List.foldl_nil]

end Calls

/-- The calls of a run about one concern, in order. -/
def callsAbout (concern : Concern) (calls : List Call) : List Call :=
  calls.filter (·.concern = concern)

/-- What only calls about one concern contribute can be read off those calls. -/
theorem filterMap_callsAbout {α : Type} {concern : Concern} {f : Call → Option α}
    (h : ∀ call : Call, call.concern ≠ concern → f call = none) (calls : List Call) :
    (callsAbout concern calls).filterMap f = calls.filterMap f := by
  rw [callsAbout, List.filterMap_filter]
  congr 1
  funext call
  split
  · rfl
  · rename_i hcall
    exact (h call (by simpa using hcall)).symm

theorem any_callsAbout {concern : Concern} {p : Call → Bool}
    (h : ∀ call : Call, call.concern ≠ concern → p call = false) (calls : List Call) :
    (callsAbout concern calls).any p = calls.any p := by
  rw [callsAbout, List.any_filter]
  congr 1
  funext call
  cases hcall : decide (call.concern = concern) with
  | true => rfl
  | false => exact (h call (of_decide_eq_false hcall)).symm

/-- What a run comes to depends on nothing but the calls about each concern. -/
theorem arranged_congr {creates : Bool} {table : String} {calls others : List Call}
    (h : ∀ concern, callsAbout concern calls = callsAbout concern others) :
    Blueprint.arranged creates table calls = .arranged creates table others := by
  have hcolumns : calls.filterMap Call.column? = others.filterMap Call.column? := by
    have hcolumn (call : Call) (hcall : call.concern ≠ .column) : call.column? = none := by
      cases call with
      | addColumn _ _ _ => exact absurd rfl hcall
      | _ => rfl
    rw [← filterMap_callsAbout hcolumn, h, filterMap_callsAbout hcolumn]
  have hlike : calls.filterMap Call.likeClause? = others.filterMap Call.likeClause? := by
    have hlike (call : Call) (hcall : call.concern ≠ .tableOption) : call.likeClause? = none :=
      (Call.options_of_concern_ne hcall).1
    rw [← filterMap_callsAbout hlike, h, filterMap_callsAbout hlike]
  have hexists : calls.any Call.asksIfNotExists = others.any Call.asksIfNotExists := by
    have hexists (call : Call) (hcall : call.concern ≠ .tableOption) :
        call.asksIfNotExists = false :=
      (Call.options_of_concern_ne hcall).2
    rw [← any_callsAbout hexists, h, any_callsAbout hexists]
  have hcreates : createsTable creates calls = createsTable creates others := by
    have hoption (call : Call) (hcall : call.concern ≠ .tableOption) :
        decide (call.concern = .tableOption) = false :=
      decide_eq_false hcall
    rw [createsTable, createsTable, ← any_callsAbout hoption, h, any_callsAbout hoption]
  have hcommands :
      calls.filterMap (Call.command? table) = others.filterMap (Call.command? table) := by
    have hcommand (call : Call) (hcall : call.concern ≠ .ownCommand) :
        call.command? table = none := by
      cases call with
      | addColumn _ _ _ | ifNotExists | like _ _ => rfl
      | _ => exact absurd rfl hcall
    rw [← filterMap_callsAbout hcommand, h, filterMap_callsAbout hcommand]
  rw [Blueprint.arranged, Blueprint.arranged, tableDefinition, tableDefinition, hcolumns, hlike,
    hexists, hcreates, hcommands]

/-- A run of calls ends with one command in front for all columns and table options, if there are
any, and with the other commands after it in the order of their calls. Two runs that have the same
calls about each concern, in the same order, end in the same blueprint, however the concerns are
mixed, and it compiles to the same result in every dialect. -/
theorem Blueprint.run_mixed (creates : Bool) (table : String) (calls : List Call)
    (hfluent : ∀ call ∈ calls, call.isFluent = true) :
    (start creates table).run calls =
      { table
        commands := frontCommands (createsTable creates calls) (tableDefinition calls) ++
          calls.filterMap (Call.command? table) } ∧
    ∀ others : List Call, (∀ call ∈ others, call.isFluent = true) →
      (∀ concern, callsAbout concern calls = callsAbout concern others) →
        (start creates table).run calls = (start creates table).run others ∧
          ∀ d, ((start creates table).run calls).compilation d =
            ((start creates table).run others).compilation d := by
  refine ⟨run_eq_arranged hfluent, ?_⟩
  intro others hothers hsame
  have hequal : (start creates table).run calls = (start creates table).run others := by
    rw [run_eq_arranged hfluent, run_eq_arranged hothers, arranged_congr hsame]
  exact ⟨hequal, fun d => by rw [hequal]⟩

/-- Columns added before and after the table comes to be created stay together, and the last of two
LIKE clauses counts. -/
theorem Blueprint.run_mixed_created_late :
    let index : Call := .index ["a"] .gin [.named "i"]
    let a : Call := .addColumn "a" .increments [.comment "key"]
    let p : Call := .like "p" [.includeAll]
    let drop : Call := .push (.dropTable true)
    let b : Call := .addColumn "b" .text [.allowNull]
    let q : Call := .like "q" [.excluding .indexes]
    let calls := [index, a, p, drop, .ifNotExists, b, q]
    let others := [p, .ifNotExists, q, a, b, index, drop]
    (∀ call ∈ calls, call.isFluent = true) ∧ (∀ call ∈ others, call.isFluent = true) ∧
      (∀ concern, callsAbout concern calls = callsAbout concern others) ∧
      ((start false "t").run calls).commands =
        [.createTable
          { columns :=
              [{ name := "a", type := .increments, primaryKey := true, comment := some "key" },
               { name := "b", type := .text, nullable := true }]
            ifNotExists := true
            like := some { source := "q", options := .selected [⟨false, .indexes⟩] } },
         .createIndex { name := some "i", columns := ["a"], method := .gin }, .dropTable true] ∧
      (start false "t").run calls = (start false "t").run others := by
  intro index a p drop b q calls others
  have hcalls : ∀ call ∈ calls, call.isFluent = true := by decide
  have hothers : ∀ call ∈ others, call.isFluent = true := by decide
  have hsame : ∀ concern, callsAbout concern calls = callsAbout concern others := by
    intro concern
    cases concern <;> rfl
  obtain ⟨harranged, hequal⟩ := run_mixed false "t" calls hcalls
  refine ⟨hcalls, hothers, hsame, ?_, (hequal others hothers hsame).1⟩
  rw [harranged]
  rfl

end SchemaDraft
