import SchemaDraft.Proofs.Blueprint.Rendering
import SchemaDraft.Proofs.Statement.Rendering
import SchemaDraft.Sql.Postgres

/-!
Where the statements of a blueprint come from, and in which order they stand. A command that creates
columns has one statement that creates them all, and after it one for each comment on them; a
command that adds no columns has none, and every other command has one. The indexes that are
declared on columns come after all commands, one statement each. So whatever refers to a column
stands after the statement that creates it.
-/

namespace SchemaDraft

/-- What a statement comes from. -/
inductive Origin where
  /-- The command itself. The columns of the command, if it has any, are created here. -/
  | ofCommand (command : Command)
  | ofComment (column : Column)
  | ofIndex (column : Column)

namespace Origin

/-- The comments on columns, in order. -/
def comments (columns : List Column) : List Origin :=
  (columns.filter (·.comment.isSome)).map .ofComment

/-- The indexes declared on columns, in order. -/
def indexes (columns : List Column) : List Origin :=
  (columns.filter (·.index.isSome)).map .ofIndex

def command? : Origin → Option Command
  | .ofCommand command => some command
  | _ => none

def commentedColumn? : Origin → Option Column
  | .ofComment column => some column
  | _ => none

def indexedColumn? : Origin → Option Column
  | .ofIndex column => some column
  | _ => none

/-- The statement that comes from here. -/
def Renders (d : Dialect) (table : String) : Origin → String → Prop
  | .ofCommand (.createTable definition), sql => definition.render d table = .ok sql
  | .ofCommand (.addColumns columns), sql =>
    ∃ additions, renderEach (Column.renderAddition d) columns = .ok additions ∧
      "ALTER TABLE " ++ d.quoteIdentifier table ++ " " ++ ", ".intercalate additions = sql
  | .ofCommand command, sql =>
    ∃ predicate, command.render d table = .ok { predicate, statements := [sql] }
  | .ofComment column, sql => column.renderComment? d table = some (.ok sql)
  | .ofIndex column, sql =>
    ∃ index predicate, column.indexCommand? = some (.createIndex index) ∧
      index.render d table = .ok (sql, predicate)

end Origin

/-- Whether the command creates no column although this is all it could do. -/
def Command.isIdle : Command → Bool
  | .addColumns columns => columns.isEmpty
  | _ => false

/-- What the statements of a command come from, in order. -/
def Command.origins : Command → List Origin
  | .createTable definition =>
    .ofCommand (.createTable definition) :: Origin.comments definition.columns
  | .addColumns columns =>
    if columns.isEmpty then [] else .ofCommand (.addColumns columns) :: Origin.comments columns
  | command => [.ofCommand command]

/-- What the statements of a blueprint come from, in order. -/
def Blueprint.origins (b : Blueprint) : List Origin :=
  b.commands.flatMap Command.origins ++ Origin.indexes b.columns

theorem Command.origins_of_not_isIdle {command : Command} (h : command.isIdle = false) :
    command.origins = .ofCommand command :: Origin.comments command.columns := by
  cases command with
  | addColumns columns => exact if_neg (by simpa [isIdle] using h)
  | _ => rfl

theorem exists_append_of_forall₂ {α β : Type} {R : α → β → Prop} {as others : List α} {bs : List β}
    (h : List.Forall₂ R (as ++ others) bs) :
    ∃ before after, bs = before ++ after ∧ List.Forall₂ R as before ∧
      List.Forall₂ R others after :=
  ⟨bs.take as.length, bs.drop as.length, (List.take_append_drop _ _).symm,
    (List.forall₂_take_append _ _ _ h.flip).flip, (List.forall₂_drop_append _ _ _ h.flip).flip⟩

section Rendering

variable {d : Dialect} {table : String} {columns : List Column} {statements : List String}

theorem Column.renders_comments (h : renderComments d table columns = .ok statements) :
    List.Forall₂ (Origin.Renders d table) (Origin.comments columns) statements := by
  rw [renderComments, renderEach_eq_ok] at h
  induction columns generalizing statements with
  | nil =>
    cases h
    exact .nil
  | cons column columns ih =>
    cases hcomment : column.comment with
    | none =>
      have hrender : column.renderComment? d table = none := by simp [renderComment?, hcomment]
      rw [List.filterMap_cons_none hrender] at h
      simpa [Origin.comments, hcomment] using ih h
    | some comment =>
      obtain ⟨rendered, hrender⟩ : ∃ rendered, column.renderComment? d table = some rendered := by
        simp [renderComment?, hcomment]
      rw [List.filterMap_cons_some hrender] at h
      cases h with
      | cons hstatement hrest =>
        have hfirst : (Origin.ofComment column).Renders d table _ :=
          hrender.trans (congrArg some hstatement)
        simpa [Origin.comments, hcomment] using List.Forall₂.cons hfirst (ih hrest)

theorem Column.renders_additions (h : additionStatements d table columns = .ok statements) :
    List.Forall₂ (Origin.Renders d table) (Command.addColumns columns).origins statements := by
  rcases additionStatements_eq_ok.mp h with
    ⟨rfl, rfl⟩ | ⟨hcolumns, additions, comments, hadditions, hcomments, rfl⟩
  · exact .nil
  · rw [Command.origins, if_neg (by simpa using hcolumns)]
    exact .cons ⟨additions, hadditions, rfl⟩ (renders_comments hcomments)

theorem Command.renders_origins {command : Command} {rendering : Rendering}
    (h : command.render d table = .ok rendering) :
    List.Forall₂ (Origin.Renders d table) command.origins rendering.statements := by
  cases command with
  | createTable definition =>
    simp only [render, CreateTable.statements, bind_eq_ok, pure_eq_ok] at h
    obtain ⟨_, ⟨sql, hsql, comments, hcomments, rfl⟩, rfl⟩ := h
    exact .cons hsql (Column.renders_comments hcomments)
  | addColumns columns =>
    simp only [render, bind_eq_ok, pure_eq_ok] at h
    obtain ⟨statements, hstatements, rfl⟩ := h
    exact Column.renders_additions hstatements
  | createIndex index =>
    obtain ⟨⟨sql, predicate⟩, -, hrest⟩ := bind_eq_ok.mp h
    obtain rfl := Except.ok.inj hrest
    exact .cons ⟨predicate, h⟩ .nil
  | createTrigger trigger =>
    obtain ⟨sql, -, hrest⟩ := bind_eq_ok.mp h
    obtain rfl := Except.ok.inj hrest
    exact .cons ⟨none, h⟩ .nil
  | attachPartition partition bounds =>
    obtain ⟨sql, -, hrest⟩ := bind_eq_ok.mp h
    obtain rfl := Except.ok.inj hrest
    exact .cons ⟨none, h⟩ .nil
  | _ =>
    obtain rfl := Except.ok.inj h
    exact .cons ⟨none, h⟩ .nil

theorem Column.renders_indexes {renderings : List Rendering}
    (h : Blueprint.RendersTo d table (columns.filterMap indexCommand?) renderings) :
    List.Forall₂ (Origin.Renders d table) (Origin.indexes columns)
      (renderings.flatMap Rendering.statements) := by
  unfold Blueprint.RendersTo at h
  induction columns generalizing renderings with
  | nil =>
    cases h
    exact .nil
  | cons column columns ih =>
    cases hindex : column.index with
    | none =>
      have hcommand : column.indexCommand? = none := by simp [indexCommand?, hindex]
      rw [List.filterMap_cons_none hcommand] at h
      simpa [Origin.indexes, hindex] using ih h
    | some index =>
      obtain ⟨made, hcommand⟩ : ∃ made, column.indexCommand? = some (.createIndex made) := by
        simp [indexCommand?, hindex]
      rw [List.filterMap_cons_some hcommand] at h
      cases h with
      | cons hrendering hrest =>
        obtain ⟨⟨sql, predicate⟩, hsql, hrendered⟩ := bind_eq_ok.mp hrendering
        obtain rfl := Except.ok.inj hrendered
        have hfirst : (Origin.ofIndex column).Renders d table sql :=
          ⟨made, predicate, hcommand, hsql⟩
        simpa [Origin.indexes, hindex] using List.Forall₂.cons hfirst (ih hrest)

theorem Blueprint.RendersTo.origins {commands : List Command} {renderings : List Rendering}
    (h : RendersTo d table commands renderings) :
    List.Forall₂ (Origin.Renders d table) (commands.flatMap Command.origins)
      (renderings.flatMap Rendering.statements) := by
  unfold RendersTo at h
  induction h with
  | nil => exact .nil
  | cons hcommand _ ih =>
    rw [List.flatMap_cons, List.flatMap_cons]
    exact List.rel_append (Command.renders_origins hcommand) ih

theorem Blueprint.renders_origins {b : Blueprint} (h : b.compile d = .ok statements) :
    List.Forall₂ (Origin.Renders d b.table) b.origins statements := by
  obtain ⟨-, renderings, hrenderings, rfl⟩ := compile_eq_ok.mp h
  obtain ⟨explicit, declared, rfl, hexplicit, hdeclared⟩ := exists_append_of_forall₂ hrenderings
  rw [List.flatMap_append]
  exact List.rel_append (RendersTo.origins hexplicit) (Column.renders_indexes hdeclared)

end Rendering

/-- Two of the statements, the second anywhere after the first, and what the statements before and
between them come from. -/
def Origin.InOrder (d : Dialect) (table : String) (statements : List String)
    (before : List Origin) (first : Origin) (between : List Origin) (second : Origin) : Prop :=
  ∃ earlier sql middle later sql', statements = earlier ++ sql :: (middle ++ sql' :: later) ∧
    List.Forall₂ (Origin.Renders d table) before earlier ∧ first.Renders d table sql ∧
    List.Forall₂ (Origin.Renders d table) between middle ∧ second.Renders d table sql'

theorem Origin.inOrder {d : Dialect} {table : String} {statements : List String}
    {before between after : List Origin} {first second : Origin}
    (h : List.Forall₂ (Origin.Renders d table)
      (before ++ first :: (between ++ second :: after)) statements) :
    Origin.InOrder d table statements before first between second := by
  obtain ⟨earlier, _, rfl, hearlier, hfrom⟩ := exists_append_of_forall₂ h
  obtain _ | ⟨hfirst, hrest⟩ := hfrom
  obtain ⟨middle, _, rfl, hmiddle, hto⟩ := exists_append_of_forall₂ hrest
  obtain _ | ⟨hsecond, -⟩ := hto
  exact ⟨earlier, _, middle, _, _, rfl, hearlier, hfirst, hmiddle, hsecond⟩

section Projections

variable (columns : List Column) (command : Command)

theorem Origin.filterMap_comments :
    (comments columns).filterMap command? = [] ∧
      (comments columns).filterMap commentedColumn? = columns.filter (·.comment.isSome) ∧
      (comments columns).filterMap indexedColumn? = [] := by
  simp [comments, List.filterMap_map, Function.comp_def, command?, commentedColumn?,
    indexedColumn?]

theorem Origin.filterMap_indexes :
    (indexes columns).filterMap command? = [] ∧
      (indexes columns).filterMap commentedColumn? = [] ∧
      (indexes columns).filterMap indexedColumn? = columns.filter (·.index.isSome) := by
  simp [indexes, List.filterMap_map, Function.comp_def, command?, commentedColumn?,
    indexedColumn?]

theorem Command.origins_of_isIdle {command : Command} (h : command.isIdle = true) :
    command.origins = [] ∧ command.columns = [] := by
  cases command with
  | addColumns columns =>
    obtain rfl : columns = [] := List.isEmpty_iff.mp h
    exact ⟨rfl, rfl⟩
  | _ => cases h

theorem Command.filterMap_origins :
    command.origins.filterMap Origin.command? = [command].filter (!·.isIdle) ∧
      command.origins.filterMap Origin.commentedColumn? =
        command.columns.filter (·.comment.isSome) ∧
      command.origins.filterMap Origin.indexedColumn? = [] := by
  obtain ⟨hcommand, hcomments, hindexes⟩ := Origin.filterMap_comments command.columns
  cases hidle : command.isIdle with
  | true =>
    obtain ⟨horigins, hcolumns⟩ := origins_of_isIdle hidle
    simp [horigins, hcolumns, hidle]
  | false =>
    rw [origins_of_not_isIdle hidle]
    have hself : (Origin.ofCommand command).command? = some command := rfl
    refine ⟨?_, ?_, ?_⟩
    · rw [List.filterMap_cons_some hself, hcommand]
      simp [hidle]
    · rw [List.filterMap_cons_none rfl, hcomments]
    · rw [List.filterMap_cons_none rfl, hindexes]

theorem filterMap_flatMap_origins (commands : List Command) :
    (commands.flatMap Command.origins).filterMap Origin.command? = commands.filter (!·.isIdle) ∧
      (commands.flatMap Command.origins).filterMap Origin.commentedColumn? =
        (commands.flatMap Command.columns).filter (·.comment.isSome) ∧
      (commands.flatMap Command.origins).filterMap Origin.indexedColumn? = [] := by
  induction commands with
  | nil => exact ⟨rfl, rfl, rfl⟩
  | cons command commands ih =>
    obtain ⟨hcommands, hcomments, hindexes⟩ := ih
    obtain ⟨hcommand, hcomment, hindex⟩ := command.filterMap_origins
    simp only [List.flatMap_cons, List.filterMap_append, List.filter_append, hcommand, hcomment,
      hindex, hcommands, hcomments, hindexes, List.append_nil, and_true]
    rw [← List.filter_append, List.singleton_append]

end Projections

section Order

variable {d : Dialect} {b : Blueprint} {statements : List String} {before after : List Command}
  {command : Command} {left right : List Column} {column : Column}

theorem Origin.comments_append_cons (h : column.comment.isSome) :
    comments (left ++ column :: right) = comments left ++ .ofComment column :: comments right := by
  simp [comments, h]

theorem Origin.indexes_append_cons (h : column.index.isSome) :
    indexes (left ++ column :: right) = indexes left ++ .ofIndex column :: indexes right := by
  simp [indexes, h]

theorem Command.origins_of_columns (h : command.columns = left ++ column :: right) :
    command.origins = .ofCommand command :: Origin.comments command.columns := by
  cases hidle : command.isIdle with
  | false => exact origins_of_not_isIdle hidle
  | true => simp [(origins_of_isIdle hidle).2] at h

/-- A comment stands after the statement that creates its column, and only other comments on columns
of the same command stand between them. -/
theorem Blueprint.inOrder_comment (h : b.compile d = .ok statements)
    (hcommands : b.commands = before ++ command :: after)
    (hcolumns : command.columns = left ++ column :: right) (hcomment : column.comment.isSome) :
    Origin.InOrder d b.table statements (before.flatMap Command.origins) (.ofCommand command)
      (Origin.comments left) (.ofComment column) := by
  have horigins := renders_origins h
  rw [origins, hcommands, List.flatMap_append, List.flatMap_cons,
    Command.origins_of_columns hcolumns, hcolumns, Origin.comments_append_cons hcomment] at horigins
  apply Origin.inOrder
  simpa only [List.append_assoc, List.cons_append] using horigins

/-- An index that is declared on a column stands after all commands, and after the indexes of the
columns before it. -/
theorem Blueprint.inOrder_index (h : b.compile d = .ok statements)
    (hcommands : b.commands = before ++ command :: after)
    (hcolumns : command.columns = left ++ column :: right) (hindex : column.index.isSome) :
    Origin.InOrder d b.table statements (before.flatMap Command.origins) (.ofCommand command)
      (Origin.comments command.columns ++ after.flatMap Command.origins ++
        Origin.indexes (before.flatMap Command.columns ++ left)) (.ofIndex column) := by
  have horigins := renders_origins h
  have hall : b.columns = (before.flatMap Command.columns ++ left) ++
      column :: (right ++ after.flatMap Command.columns) := by
    simp [columns, hcommands, hcolumns]
  rw [origins, hall, Origin.indexes_append_cons hindex, hcommands, List.flatMap_append,
    List.flatMap_cons, Command.origins_of_columns hcolumns] at horigins
  apply Origin.inOrder
  simpa only [List.append_assoc, List.cons_append] using horigins

end Order

/-- The statements of a blueprint are those of its commands in order, each followed by the comments
on the columns it creates, and then one for each index declared on a column. No command, comment or
index is lost or counted twice. A comment and an index stand after the statement that creates the
column. -/
theorem Blueprint.statements_in_order {d : Dialect} {b : Blueprint} {statements : List String}
    (h : b.compile d = .ok statements) :
    List.Forall₂ (Origin.Renders d b.table)
      (b.commands.flatMap Command.origins ++ Origin.indexes b.columns) statements ∧
    b.origins.filterMap Origin.command? = b.commands.filter (!·.isIdle) ∧
    b.origins.filterMap Origin.commentedColumn? = b.columns.filter (·.comment.isSome) ∧
    b.origins.filterMap Origin.indexedColumn? = b.columns.filter (·.index.isSome) ∧
    ∀ before command after left column right, b.commands = before ++ command :: after →
      command.columns = left ++ column :: right →
      (column.comment.isSome → Origin.InOrder d b.table statements
        (before.flatMap Command.origins) (.ofCommand command)
        (Origin.comments left) (.ofComment column)) ∧
      (column.index.isSome → Origin.InOrder d b.table statements
        (before.flatMap Command.origins) (.ofCommand command)
        (Origin.comments command.columns ++ after.flatMap Command.origins ++
          Origin.indexes (before.flatMap Command.columns ++ left)) (.ofIndex column)) := by
  obtain ⟨hcommands, hcomments, hindexes⟩ := filterMap_flatMap_origins b.commands
  obtain ⟨hcommand, hcomment, hindex⟩ := Origin.filterMap_indexes b.columns
  refine ⟨renders_origins h, ?_, ?_, ?_, ?_⟩
  · rw [origins, List.filterMap_append, hcommands, hcommand, List.append_nil]
  · rw [origins, List.filterMap_append, hcomments, hcomment, List.append_nil]
    rfl
  · rw [origins, List.filterMap_append, hindexes, hindex, List.nil_append]
  · intro before command after left column right hbefore hcolumns
    exact ⟨inOrder_comment h hbefore hcolumns, inOrder_index h hbefore hcolumns⟩

/-- A table that gets a column later: the index on its first column comes after that. -/
theorem Blueprint.statements_in_order_added_later :
    let key : Column :=
      { name := "id", type := .bigInteger, comment := some "key", index := some {} }
    let note : Column := { name := "note", type := .text, nullable := true, comment := some "" }
    let create : Command := .createTable { columns := [key] }
    let b : Blueprint := { table := "t", commands :=
      [create, .addColumns [], .dropUnique "u", .addColumns [note]] }
    let statements :=
      ["CREATE TABLE t (id bigint NOT NULL)", "COMMENT ON COLUMN t.id IS 'key'",
       "ALTER TABLE t DROP CONSTRAINT u", "ALTER TABLE t ADD COLUMN note text",
       "COMMENT ON COLUMN t.note IS ''", "CREATE INDEX t_id_index ON t USING btree (id)"]
    b.compile Postgres.dialect = .ok statements ∧
      List.Forall₂ (Origin.Renders Postgres.dialect "t")
        [.ofCommand create, .ofComment key, .ofCommand (.dropUnique "u"),
          .ofCommand (.addColumns [note]), .ofComment note, .ofIndex key] statements ∧
      Origin.InOrder Postgres.dialect "t" statements [] (.ofCommand create)
        [.ofComment key, .ofCommand (.dropUnique "u"), .ofCommand (.addColumns [note]),
          .ofComment note] (.ofIndex key) := by
  intro key note create b statements
  have hcompile : b.compile Postgres.dialect = .ok statements := by decide +kernel
  obtain ⟨hrender, -, -, -, horder⟩ := statements_in_order hcompile
  exact ⟨hcompile, hrender, (horder [] _ _ [] key [] rfl rfl).2 rfl⟩

end SchemaDraft
