import SchemaDraft.Proofs.Blueprint.Arrangement
import SchemaDraft.Proofs.Blueprint.Json
import SchemaDraft.Proofs.Blueprint.Rendering
import SchemaDraft.Proofs.Statement.Rendering
import SchemaDraft.Sql.Postgres

/-!
Tables whose columns are said by name and type alone, in JSON or by calls. Reading and building make
the same columns but for one thing: a call makes a counter the primary key, and a JSON object that
does not say so leaves it an ordinary column.
-/

namespace SchemaDraft

namespace Json

variable {α β : Type} {name : String} {members : List (String × Json)} {read : Json → Option α}

theorem defaulted_of_absent {absent : α} (h : member? name members = some none) :
    defaulted name absent read members = some absent := by
  rw [defaulted, h]

theorem optional_of_absent (h : member? name members = some none) :
    optional name read members = some none := by
  rw [optional, h]

theorem list?_of_forall₂ {make : β → α} {values : List β} {items : List Json}
    (h : List.Forall₂ (fun value item => read item = some (make value)) values items) :
    list? read (.arr items) = some (values.map make) := by
  rw [list?]
  induction h with
  | nil => rfl
  | cons hitem _ ih => simp [hitem, ih]

end Json

/-- The object gives a column by its name and type, and nothing else that a column has. -/
def GivesColumn (column : String × ColumnType) (json : Json) : Prop :=
  ∃ members, json = .obj members ∧ Json.required "name" Json.str? members = some column.1 ∧
    Json.required "type" ColumnType.ofJson? members = some column.2 ∧
    ∀ key ∈ ["nullable", "primary_key", "default", "comment", "index"],
      Json.member? key members = some none

/-- The object gives a table with one command, which creates it with these columns. -/
def GivesTable (table : String) (columns : List (String × ColumnType)) (json : Json) : Prop :=
  ∃ members command items, json = .obj members ∧
    Json.required "table" Json.str? members = some table ∧
    Json.member? "commands" members = some (some (.arr [.obj command])) ∧
    Json.required "command" Json.str? command = some "create_table" ∧
    Json.member? "columns" command = some (some (.arr items)) ∧
    (∀ key ∈ ["if_not_exists", "like"], Json.member? key command = some none) ∧
    List.Forall₂ GivesColumn columns items

/-- The calls that add these columns, and no more to them. -/
def plainCalls (columns : List (String × ColumnType)) : List Call :=
  columns.map fun column => .addColumn column.1 column.2 []

/-- A column of this name and type, which is the primary key if its type is said to be one. -/
def plainColumn (primary : ColumnType → Bool) (column : String × ColumnType) : Column :=
  { name := column.1, type := column.2, primaryKey := primary column.2 }

def plainTable (primary : ColumnType → Bool) (table : String)
    (columns : List (String × ColumnType)) : Blueprint :=
  { table, commands := [.createTable { columns := columns.map (plainColumn primary) }] }

def plainColumnText (d : Dialect) (primary : ColumnType → Bool) (column : String × ColumnType) :
    String :=
  d.quoteIdentifier column.1 ++ " " ++ column.2.sql ++
    if primary column.2 then " PRIMARY KEY" else " NOT NULL"

/-- The statement that creates a table of plain columns. -/
def plainTableText (d : Dialect) (primary : ColumnType → Bool) (table : String)
    (columns : List (String × ColumnType)) : String :=
  "CREATE TABLE " ++ d.quoteIdentifier table ++ " (" ++
    ", ".intercalate (columns.map (plainColumnText d primary)) ++ ")"

section Forms

variable {table : String} {columns : List (String × ColumnType)} {json : Json}

theorem GivesColumn.ofJson? {column : String × ColumnType} (h : GivesColumn column json) :
    Column.ofJson? .inside json = some (plainColumn (fun _ => false) column) := by
  obtain ⟨members, rfl, hname, htype, habsent⟩ := h
  simp only [List.forall_mem_cons] at habsent
  obtain ⟨hnullable, hprimary, hdefault, hcomment, hindex, -⟩ := habsent
  exact Json.bind_eq_some_of rfl <| Json.bind_eq_some_of hname <| Json.bind_eq_some_of htype <|
    Json.bind_eq_some_of (Json.defaulted_of_absent hnullable) <|
    Json.bind_eq_some_of (Json.defaulted_of_absent hprimary) <|
    Json.bind_eq_some_of (Json.optional_of_absent hdefault) <|
    Json.bind_eq_some_of (Json.optional_of_absent hcomment) <|
    Json.bind_eq_some_of (Json.optional_of_absent hindex) rfl

/-- What is left out when a table is read is as by default. -/
theorem GivesTable.ofJson? (h : GivesTable table columns json) :
    Blueprint.ofJson? json = some (plainTable (fun _ => false) table columns) := by
  obtain ⟨members, command, items, rfl, htable, hcommands, hkind, hitems, habsent, hcolumns⟩ := h
  simp only [List.forall_mem_cons] at habsent
  obtain ⟨hexists, hlike, -⟩ := habsent
  have hread : Json.defaulted "columns" [] Command.columns? command =
      some (columns.map (plainColumn fun _ => false)) := by
    rw [Json.defaulted, hitems]
    exact Json.list?_of_forall₂ (hcolumns.imp fun _ _ => GivesColumn.ofJson?)
  have hcommand : Command.ofJson? (.obj command) =
      some (.createTable { columns := columns.map (plainColumn fun _ => false) }) :=
    Json.bind_eq_some_of rfl <| Json.bind_eq_some_of hkind <| Json.bind_eq_some_of hread <|
      Json.bind_eq_some_of (Json.defaulted_of_absent hexists) <|
      Json.bind_eq_some_of (Json.optional_of_absent hlike) rfl
  have hread : Json.defaulted "commands" [] (Json.list? Command.ofJson?) members =
      some [.createTable { columns := columns.map (plainColumn fun _ => false) }] := by
    rw [Json.defaulted, hcommands]
    simp [Json.list?, hcommand]
  exact Json.bind_eq_some_of rfl <| Json.bind_eq_some_of htable <| Json.bind_eq_some_of hread rfl

/-- A call makes a counter the primary key. -/
theorem run_plainCalls :
    (Blueprint.create table).run (plainCalls columns) =
      plainTable ColumnType.isSerial table columns := by
  have hfluent : ∀ call ∈ plainCalls columns, call.isFluent = true := by
    intro call hcall
    obtain ⟨column, -, rfl⟩ := List.mem_map.mp hcall
    rfl
  have hdefinition : tableDefinition (plainCalls columns) =
      { columns := columns.map (plainColumn ColumnType.isSerial) } := by
    have hmade : (plainCalls columns).filterMap Call.column? =
        columns.map (plainColumn ColumnType.isSerial) := by
      rw [plainCalls, List.filterMap_map, ← List.filterMap_eq_map]
      rfl
    have hlike : (plainCalls columns).filterMap Call.likeClause? = [] := by
      simp [plainCalls, List.filterMap_map, Call.likeClause?]
    have hexists : (plainCalls columns).any Call.asksIfNotExists = false := by
      simp [plainCalls, Call.asksIfNotExists]
    rw [tableDefinition, hmade, hlike, hexists]
    rfl
  have hcommands : (plainCalls columns).filterMap (Call.command? table) = [] := by
    simp [plainCalls, List.filterMap_map, Call.command?]
  have harranged : (Blueprint.start true table).run (plainCalls columns) =
      .arranged true table (plainCalls columns) := run_eq_arranged hfluent
  rw [Blueprint.arranged, hdefinition, hcommands] at harranged
  exact harranged

theorem resolvedCommands_plainTable (primary : ColumnType → Bool) :
    (plainTable primary table columns).resolvedCommands =
      [.createTable { columns := columns.map (plainColumn primary) }] := by
  have hindexes : (columns.map (plainColumn primary)).filterMap Column.indexCommand? = [] := by
    simp [List.filterMap_eq_nil_iff, plainColumn, Column.indexCommand?]
  simp [Blueprint.resolvedCommands, Blueprint.inlineIndexes, Blueprint.columns, Command.columns,
    plainTable, hindexes]

/-- Primary keys have no part in what is at fault. -/
theorem faults_plainTable (primary other : ColumnType → Bool) :
    (plainTable primary table columns).faults = (plainTable other table columns).faults := by
  have hnames (primary : ColumnType → Bool) :
      (columns.map (plainColumn primary)).flatMap Column.faults =
        columns.flatMap fun column => nameFaults .column column.1 :=
    List.flatMap_map ..
  have hown (primary : ColumnType → Bool) :
      CreateTable.faults table { columns := columns.map (plainColumn primary) } =
        CreateTable.faults table { columns := columns.map (plainColumn fun _ => false) } := by
    rw [CreateTable.faults, CreateTable.faults, List.isEmpty_map, List.isEmpty_map]
  have hfaults (primary : ColumnType → Bool) :
      (plainTable primary table columns).faults =
        nameFaults .table table ++ ((columns.flatMap fun column => nameFaults .column column.1) ++
          CreateTable.faults table { columns := columns.map (plainColumn fun _ => false) }) := by
    rw [Blueprint.faults, resolvedCommands_plainTable, List.flatMap_singleton, ← hnames primary,
      ← hown primary]
    rfl
  rw [hfaults, hfaults]

theorem compile_plainTable {d : Dialect} {primary : ColumnType → Bool}
    (h : (plainTable primary table columns).faults = []) :
    (plainTable primary table columns).compile d =
      .ok [plainTableText d primary table columns] := by
  have hcolumns : renderEach (Column.render d) (columns.map (plainColumn primary)) =
      .ok (columns.map (plainColumnText d primary)) := by
    rw [renderEach_eq_ok, List.forall₂_map_left_iff, List.forall₂_map_right_iff,
      List.forall₂_same]
    intro column _
    simp [Column.render, Column.renderDefault, plainColumn, plainColumnText, Column.constraintText,
      pure_eq_ok]
  have hcomments : (columns.map (plainColumn primary)).filterMap (Column.renderComment? d table) =
      [] := by
    simp [List.filterMap_eq_nil_iff, plainColumn, Column.renderComment?]
  have hdefinition : CreateTable.render d table
      { columns := columns.map (plainColumn primary) } =
        .ok (plainTableText d primary table columns) := by
    refine bind_eq_ok.mpr ⟨_, hcolumns, pure_eq_ok.mpr ?_⟩
    delta plainTableText
    simp
  have hrenderComments : Column.renderComments d table (columns.map (plainColumn primary)) =
      .ok [] := by
    rw [Column.renderComments, hcomments]
    rfl
  have hstatements : CreateTable.statements d table
      { columns := columns.map (plainColumn primary) } =
        .ok [plainTableText d primary table columns] :=
    bind_eq_ok.mpr ⟨_, hdefinition, bind_eq_ok.mpr ⟨_, hrenderComments, rfl⟩⟩
  have hrender : Command.render d table
      (.createTable { columns := columns.map (plainColumn primary) }) =
        .ok (.single (plainTableText d primary table columns)) :=
    bind_eq_ok.mpr ⟨_, hstatements, rfl⟩
  refine Blueprint.compile_eq_ok.mpr
    ⟨h, [.single (plainTableText d primary table columns)], ?_, rfl⟩
  rw [resolvedCommands_plainTable]
  exact .cons hrender .nil

theorem length_intercalate (separator : String) {texts : List String} (h : texts ≠ []) :
    (separator.intercalate texts).length + separator.length =
      (texts.map fun text => text.length + separator.length).sum := by
  induction texts with
  | nil => exact absurd rfl h
  | cons text texts ih =>
    cases texts with
    | nil => simp
    | cons next texts =>
      have hrest := ih (by simp)
      rw [String.intercalate_cons_cons, List.map_cons, List.sum_cons, ← hrest, String.length_append,
        String.length_append]
      omega

/-- A primary key takes more room than NOT NULL, so one column that is a primary key in one text
alone makes the texts differ, whatever the names and types are. -/
theorem plainTableText_eq_iff {d : Dialect} {primary : ColumnType → Bool} :
    plainTableText d (fun _ => false) table columns = plainTableText d primary table columns ↔
      ∀ column ∈ columns, primary column.2 = false := by
  have hkeyword (isPrimary : Bool) :
      (if isPrimary then " PRIMARY KEY" else " NOT NULL").length = if isPrimary then 12 else 9 := by
    cases isPrimary <;> rfl
  have hlength (primary : ColumnType → Bool) (column : String × ColumnType) :
      (plainColumnText d primary column).length =
        (d.quoteIdentifier column.1 ++ " " ++ column.2.sql).length +
          if primary column.2 then 12 else 9 := by
    rw [plainColumnText, String.length_append, hkeyword]
  constructor
  · intro heq column hmem
    by_contra hprimary
    have hne (primary : ColumnType → Bool) : columns.map (plainColumnText d primary) ≠ [] := by
      simpa using List.ne_nil_of_mem hmem
    have hlist : ", ".intercalate (columns.map (plainColumnText d fun _ => false)) =
        ", ".intercalate (columns.map (plainColumnText d primary)) :=
      (String.append_right_inj _).mp ((String.append_left_inj ")").mp heq)
    have hsum := length_intercalate ", " (hne primary)
    rw [← hlist, length_intercalate ", " (hne fun _ => false), List.map_map, List.map_map] at hsum
    refine (List.sum_lt_sum _ _ ?_ ?_).ne hsum
    · intro column _
      simp only [Function.comp_apply, hlength]
      cases primary column.2 <;> simp
    · refine ⟨column, hmem, ?_⟩
      simp only [Bool.not_eq_false] at hprimary
      simp [hlength, hprimary]
  · intro hnone
    have htexts : columns.map (plainColumnText d fun _ => false) =
        columns.map (plainColumnText d primary) := by
      apply List.map_congr_left
      intro column hmem
      simp [plainColumnText, hnone column hmem]
    delta plainTableText
    rw [htexts]

end Forms

/-- A table whose columns are said by name and type alone is read from JSON as it is built by calls,
and refused for the same reason, but its counters are not read as primary keys. So the two compile
to the same, in any dialect, exactly if there is no counter or they are refused. -/
theorem Blueprint.compile_read_eq_built_iff {table : String} {columns : List (String × ColumnType)}
    {json : Json} (h : GivesTable table columns json) (d : Dialect) :
    let built := (create table).run (plainCalls columns)
    ∃ read, ofJson? json = some read ∧
      ((∃ e, read.compile d = .error e ∧ built.compile d = .error e) ∨
        read.compile d = .ok [plainTableText d (fun _ => false) table columns] ∧
          built.compile d = .ok [plainTableText d ColumnType.isSerial table columns]) ∧
      (read.compile d = built.compile d ↔
        (∀ column ∈ columns, column.2.isSerial = false) ∨ ∃ e, built.compile d = .error e) := by
  intro built
  have hbuilt : built = plainTable ColumnType.isSerial table columns := run_plainCalls
  refine ⟨_, h.ofJson?, ?_⟩
  have hfaults : (plainTable (fun _ => false) table columns).faults =
      (plainTable ColumnType.isSerial table columns).faults := faults_plainTable _ _
  rw [hbuilt]
  cases hcase : (plainTable ColumnType.isSerial table columns).faults with
  | cons fault others =>
    have hread : (plainTable (fun _ => false) table columns).compile d =
        .error (.structure fault) := by
      rw [compile, compilation_of_fault (hfaults.trans hcase)]
    have hbuilt : (plainTable ColumnType.isSerial table columns).compile d =
        .error (.structure fault) := by
      rw [compile, compilation_of_fault hcase]
    exact ⟨.inl ⟨_, hread, hbuilt⟩, by simp [hread, hbuilt]⟩
  | nil =>
    have hread := compile_plainTable (d := d) (hfaults.trans hcase)
    have hbuilt := compile_plainTable (d := d) hcase
    refine ⟨.inr ⟨hread, hbuilt⟩, ?_⟩
    simp [hread, hbuilt, plainTableText_eq_iff]

/-- Members in any order, and one that no column has. -/
theorem Blueprint.compile_read_eq_built_iff_reordered :
    let first : Json := .obj
      [("type", .obj [("length", .int 40), ("type", .str "string")]), ("name", .str "a")]
    let second : Json := .obj
      [("name", .str "B"), ("note", .null), ("type", .obj [("type", .str "text")])]
    let command : Json := .obj
      [("columns", .arr [first, second]), ("command", .str "create_table")]
    let json : Json := .obj [("commands", .arr [command]), ("table", .str "t")]
    let columns : List (String × ColumnType) := [("a", .string 40), ("B", .text)]
    GivesTable "t" columns json ∧
      ∃ read, ofJson? json = some read ∧
        read.compile Postgres.dialect = ((create "t").run (plainCalls columns)).compile
          Postgres.dialect ∧
        read.compile Postgres.dialect =
          .ok ["CREATE TABLE t (a varchar(40) NOT NULL, \"B\" text NOT NULL)"] := by
  intro first second command json columns
  have hfirst : GivesColumn ("a", .string 40) first :=
    ⟨_, rfl, rfl, rfl, by simp [Json.member?]⟩
  have hsecond : GivesColumn ("B", .text) second := ⟨_, rfl, rfl, rfl, by simp [Json.member?]⟩
  have hgives : GivesTable "t" columns json :=
    ⟨_, _, _, rfl, rfl, rfl, rfl, rfl, by simp [Json.member?], .cons hfirst (.cons hsecond .nil)⟩
  obtain ⟨read, hread, -, hiff⟩ := compile_read_eq_built_iff hgives Postgres.dialect
  have hsame := hiff.mpr (.inl (by decide))
  refine ⟨hgives, read, hread, hsame, ?_⟩
  rw [hsame]
  decide +kernel

/-- A counter that is written in JSON is no primary key. -/
theorem Blueprint.compile_read_ne_built :
    let column : Json := .obj [("name", .str "id"), ("type", .obj [("type", .str "increments")])]
    let command : Json := .obj [("command", .str "create_table"), ("columns", .arr [column])]
    let json : Json := .obj [("table", .str "t"), ("commands", .arr [command])]
    let columns : List (String × ColumnType) := [("id", .increments)]
    (¬ ∀ table columns json, GivesTable table columns json →
        ∀ (d : Dialect) (read : Blueprint), ofJson? json = some read →
          read.compile d = ((create table).run (plainCalls columns)).compile d) ∧
      GivesTable "t" columns json ∧
      (ofJson? json).map (compile Postgres.dialect) =
        some (.ok ["CREATE TABLE t (id serial NOT NULL)"]) ∧
      ((create "t").run (plainCalls columns)).compile Postgres.dialect =
        .ok ["CREATE TABLE t (id serial PRIMARY KEY)"] := by
  intro column command json columns
  have hcolumn : GivesColumn ("id", .increments) column :=
    ⟨_, rfl, rfl, rfl, by simp [Json.member?]⟩
  have hgives : GivesTable "t" columns json :=
    ⟨_, _, _, rfl, rfl, rfl, rfl, rfl, by simp [Json.member?], .cons hcolumn .nil⟩
  have hread : (ofJson? json).map (compile Postgres.dialect) =
      some (.ok ["CREATE TABLE t (id serial NOT NULL)"]) := by decide +kernel
  have hbuilt : ((create "t").run (plainCalls columns)).compile Postgres.dialect =
      .ok ["CREATE TABLE t (id serial PRIMARY KEY)"] := by decide +kernel
  refine ⟨?_, hgives, hread, hbuilt⟩
  intro hall
  obtain ⟨read, hjson, hcompile⟩ := Option.map_eq_some_iff.mp hread
  have hsame := hall "t" columns json hgives Postgres.dialect read hjson
  rw [hcompile, hbuilt] at hsame
  revert hsame
  decide

end SchemaDraft
