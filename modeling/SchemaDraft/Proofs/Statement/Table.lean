import SchemaDraft.Proofs.Blueprint.Faults
import SchemaDraft.Proofs.Table.Element

/-!
What the statement that creates a table or adds columns tells: whether the table may exist already,
the LIKE clause, and each column in its place. It leaves out the comments and the indexes of columns
and whether a primary key allows NULL, and otherwise only how names and defaults are given.
-/

namespace SchemaDraft

open Sql Postgres

structure CreateTable.DefinedAlike (d : Dialect) (definition other : CreateTable) : Prop where
  ifNotExists : definition.ifNotExists = other.ifNotExists
  like : Option.Rel (LikeClause.SpelledAlike d) definition.like other.like
  columns : List.Forall₂ (Column.DefinedAlike d) definition.columns other.columns

/-- Two commands that create tables, or that add columns, and define everything alike. -/
inductive Command.DefinesAlike (d : Dialect) : Command → Command → Prop where
  | created {definition other : CreateTable} (h : definition.DefinedAlike d other) :
    DefinesAlike d (.createTable definition) (.createTable other)
  | added {columns others : List Column} (h : List.Forall₂ (Column.DefinedAlike d) columns others) :
    DefinesAlike d (.addColumns columns) (.addColumns others)

variable {table sql : String}

namespace Column

variable {columns others : List Column} {texts : List String}

theorem forall₂_definedAlike (hfree : columns.all verbatimFree = true)
    (hfree' : others.all verbatimFree = true)
    (h : renderEach (render dialect) columns = .ok texts)
    (h' : renderEach (render dialect) others = .ok texts) :
    List.Forall₂ (DefinedAlike dialect) columns others := by
  refine forall₂_of_common ?_ (renderEach_eq_ok.mp h) (renderEach_eq_ok.mp h')
  intro column hmem other hmem' text htext htext'
  have hcolumn := List.all_eq_true.mp hfree column hmem
  have hother := List.all_eq_true.mp hfree' other hmem'
  exact (append_inj hcolumn hother htext htext' endsElement_nil endsElement_nil rfl).1

theorem renderEach_eq_of_definedAlike {d : Dialect}
    (h : List.Forall₂ (DefinedAlike d) columns others) :
    renderEach (render d) columns = renderEach (render d) others :=
  renderEach_eq_of_forall₂ (h.imp fun _ _ halike => halike.render_eq)

end Column

namespace CreateTable

variable {definition other : CreateTable}

theorem ifNotExists_append_inj {create create' : Bool} {rest rest' : List Char}
    (h : (if create then "IF NOT EXISTS " else "").toList ++
        ((quoteIdentifier table).toList ++ rest) =
      (if create' then "IF NOT EXISTS " else "").toList ++
        ((quoteIdentifier table).toList ++ rest')) :
    create = create' ∧ rest = rest' := by
  cases create <;> cases create' <;>
    simp only [Bool.false_eq_true, if_false, if_true, String.toList_empty, List.nil_append] at h
  case false.false => exact ⟨rfl, List.append_cancel_left h⟩
  case false.true => exact absurd h quoteIdentifier_append_ne
  case true.false => exact absurd h.symm quoteIdentifier_append_ne
  case true.true => exact ⟨rfl, List.append_cancel_left (List.append_cancel_left h)⟩

theorem isElement_of_mem {texts : List String}
    (hfree : definition.columns.all Column.verbatimFree = true)
    (h : renderEach (Column.render dialect) definition.columns = .ok texts) :
    ∀ text ∈ (definition.like.map (LikeClause.render dialect)).toList ++ texts,
      IsElement text.toList := by
  refine List.forall_mem_append.mpr ⟨?_, ?_⟩
  · intro text htext
    obtain ⟨clause, -, rfl⟩ := Option.map_eq_some_iff.mp (Option.mem_toList.mp htext)
    exact .like clause
  · intro text htext
    obtain ⟨column, hmem, hcolumn⟩ := exists_left_of_forall₂ (renderEach_eq_ok.mp h) htext
    exact .column (List.all_eq_true.mp hfree column hmem) hcolumn

/-- The LIKE clause is the only element that is not a column. -/
theorem elements_inj {texts texts' : List String}
    (h : renderEach (Column.render dialect) definition.columns = .ok texts)
    (h' : renderEach (Column.render dialect) other.columns = .ok texts')
    (hsame : (definition.like.map (LikeClause.render dialect)).toList ++ texts =
      (other.like.map (LikeClause.render dialect)).toList ++ texts') :
    Option.Rel (LikeClause.SpelledAlike dialect) definition.like other.like ∧ texts = texts' := by
  have hne {clause : LikeClause} {columns : List Column} {texts others : List String}
      (h : renderEach (Column.render dialect) columns = .ok texts) :
      texts ≠ clause.render dialect :: others := by
    rintro rfl
    obtain ⟨column, -, hcolumn⟩ := exists_left_of_forall₂ (renderEach_eq_ok.mp h)
      List.mem_cons_self
    exact LikeClause.render_append_ne hcolumn [] [] rfl
  cases hlike : definition.like <;> cases hlike' : other.like <;> rw [hlike, hlike'] at hsame
  case none.none => exact ⟨.none, hsame⟩
  case none.some clause => exact absurd hsame (hne h)
  case some.none clause => exact absurd hsame.symm (hne h')
  case some.some clause clause' =>
    obtain ⟨hclause, htexts⟩ := List.cons.inj hsame
    have hclauses : (clause.render dialect).toList ++ [] =
        (clause'.render dialect).toList ++ [] := by
      rw [hclause]
    exact ⟨.some (LikeClause.append_inj endsElement_nil endsElement_nil hclauses).1, htexts⟩

theorem definedAlike_of_render (hvalid : definition.faults table = [])
    (hvalid' : other.faults table = [])
    (hfree : definition.columns.all Column.verbatimFree = true)
    (hfree' : other.columns.all Column.verbatimFree = true)
    (h : definition.render dialect table = .ok sql) (h' : other.render dialect table = .ok sql) :
    definition.DefinedAlike dialect other := by
  have hclosed : EndsElement [')'] ∧ ¬ ", ".toList <+: [')'] := by simp [EndsElement]
  have hne {definition : CreateTable} {texts : List String}
      (hvalid : definition.faults table = [])
      (h : renderEach (Column.render dialect) definition.columns = .ok texts) :
      (definition.like.map (LikeClause.render dialect)).toList ++ texts ≠ [] := by
    intro hnone
    obtain ⟨hlike, rfl⟩ := List.append_eq_nil_iff.mp hnone
    have hcolumns : definition.columns = [] := by
      simpa using (renderEach_eq_ok.mp h).length_eq
    have hlike : definition.like = none := by simpa using hlike
    rcases (faults_eq_nil.mp hvalid).1 with hsome | hsome
    · exact hsome hcolumns
    · exact hsome hlike
  simp only [render, bind_eq_ok, pure_eq_ok] at h h'
  obtain ⟨texts', htexts', rfl⟩ := h'
  obtain ⟨texts, htexts, hsame⟩ := h
  have hsame := congrArg String.toList hsame
  simp only [String.toList_append, List.append_assoc] at hsame
  obtain ⟨hexists, hbody⟩ := ifNotExists_append_inj (List.append_cancel_left hsame)
  obtain ⟨helements, -⟩ := intercalate_append_inj (hne hvalid htexts) (hne hvalid' htexts')
    (fun s hs t ht => (isElement_of_mem hfree htexts s hs).endAlike
      (isElement_of_mem hfree' htexts' t ht))
    (fun after => by simp [EndsElement]) hclosed hclosed (List.append_cancel_left hbody)
  obtain ⟨hlike, rfl⟩ := elements_inj htexts htexts' helements
  exact ⟨hexists, hlike, Column.forall₂_definedAlike hfree hfree' htexts htexts'⟩

theorem DefinedAlike.render_eq {d : Dialect} (h : definition.DefinedAlike d other) :
    definition.render d table = other.render d table := by
  obtain ⟨hexists, hlike, hcolumns⟩ := h
  have hclause : definition.like.map (LikeClause.render d) =
      other.like.map (LikeClause.render d) := by
    generalize definition.like = like at hlike ⊢
    generalize other.like = like' at hlike ⊢
    cases hlike with
    | none => rfl
    | some halike => rw [Option.map_some, Option.map_some, halike.render_eq]
  rw [render, render, hexists, hclause, Column.renderEach_eq_of_definedAlike hcolumns]

end CreateTable

namespace Column

variable {columns others : List Column} {comments : List String}

/-- The statement that adds columns, if it is the first of several. -/
theorem exists_texts_of_additionStatements {d : Dialect}
    (h : additionStatements d table columns = .ok (sql :: comments)) :
    ∃ texts, renderEach (render d) columns = .ok texts ∧ texts ≠ [] ∧
      "ALTER TABLE " ++ d.quoteIdentifier table ++ " " ++
        ", ".intercalate (texts.map ("ADD COLUMN " ++ ·)) = sql := by
  obtain ⟨-, hnone⟩ | ⟨hcolumns, additions, comments', hadditions, -, hsame⟩ :=
    additionStatements_eq_ok.mp h
  · exact absurd hnone (List.cons_ne_nil _ _)
  obtain ⟨texts, htexts, rfl⟩ := renderEach_map_eq_ok.mp hadditions
  refine ⟨texts, htexts, ?_, (List.cons.inj hsame).1⟩
  rintro rfl
  cases renderEach_eq_ok.mp htexts
  exact hcolumns rfl

theorem forall₂_definedAlike_of_additionStatements {comments' : List String}
    (hfree : columns.all verbatimFree = true) (hfree' : others.all verbatimFree = true)
    (h : additionStatements dialect table columns = .ok (sql :: comments))
    (h' : additionStatements dialect table others = .ok (sql :: comments')) :
    List.Forall₂ (DefinedAlike dialect) columns others := by
  obtain ⟨texts', htexts', hne', rfl⟩ := exists_texts_of_additionStatements h'
  obtain ⟨texts, htexts, hne, hsame⟩ := exists_texts_of_additionStatements h
  have hnothing : EndsElement [] ∧ ¬ ", ".toList <+: [] := ⟨endsElement_nil, by simp⟩
  have hends : ∀ s ∈ texts.map ("ADD COLUMN " ++ ·), ∀ t ∈ texts'.map ("ADD COLUMN " ++ ·),
      EndAlike EndsElement s.toList t.toList := by
    simp only [List.forall_mem_map, String.toList_append]
    intro text htext text' htext'
    obtain ⟨column, hmem, hcolumn⟩ := exists_left_of_forall₂ (renderEach_eq_ok.mp htexts) htext
    obtain ⟨other, hmem', hother⟩ := exists_left_of_forall₂ (renderEach_eq_ok.mp htexts') htext'
    have helement := IsElement.column (List.all_eq_true.mp hfree column hmem) hcolumn
    exact (helement.endAlike (.column (List.all_eq_true.mp hfree' other hmem') hother)).prepend _
  have hsame := congrArg String.toList hsame
  simp only [String.toList_append, List.append_cancel_left_eq] at hsame
  have hadditions := (intercalate_append_inj (List.map_eq_nil_iff.not.mpr hne)
    (List.map_eq_nil_iff.not.mpr hne') hends (fun after => by simp [EndsElement]) hnothing hnothing
    (congrArg (· ++ []) hsame)).1
  obtain rfl : texts = texts' :=
    (List.map_inj_right fun _ _ => (String.append_right_inj _).mp).mp hadditions
  exact forall₂_definedAlike hfree hfree' htexts htexts'

end Column

namespace Command

variable {command other : Command} {rendering rendering' : Rendering} {sql' : String}

/-- The statement that creates the columns of a command, in one of two forms. -/
inductive TableForm (table : String) : Command → String → Prop where
  | created {definition : CreateTable} {sql : String} (hvalid : definition.faults table = [])
    (hfree : definition.columns.all Column.verbatimFree = true)
    (h : definition.render dialect table = .ok sql) :
    TableForm table (.createTable definition) sql
  | added {columns : List Column} {sql : String} {comments : List String}
    (hfree : columns.all Column.verbatimFree = true)
    (h : Column.additionStatements dialect table columns = .ok (sql :: comments)) :
    TableForm table (.addColumns columns) sql

theorem tableForm_of_render (hcolumns : command.carriesColumns = true)
    (hvalid : command.faults table = []) (hfree : command.verbatimFree = true)
    (hrender : command.render dialect table = .ok rendering)
    (hsql : rendering.statements.head? = some sql) : TableForm table command sql := by
  obtain ⟨comments, hstatements⟩ := List.head?_eq_some_iff.mp hsql
  cases command with
  | createTable definition =>
    simp only [Command.render, CreateTable.statements, bind_eq_ok, pure_eq_ok] at hrender
    obtain ⟨_, ⟨text, htext, _, _, rfl⟩, rfl⟩ := hrender
    obtain ⟨rfl, -⟩ := List.cons.inj hstatements
    exact .created (List.append_eq_nil_iff.mp hvalid).2 hfree htext
  | addColumns columns =>
    simp only [Command.render, bind_eq_ok, pure_eq_ok] at hrender
    obtain ⟨statements, hadded, rfl⟩ := hrender
    obtain rfl : statements = sql :: comments := hstatements
    exact .added hfree hadded
  | _ => cases hcolumns

theorem TableForm.eq_iff (h : TableForm table command sql) (h' : TableForm table other sql') :
    sql = sql' ↔ command.DefinesAlike dialect other := by
  -- a statement that creates a table begins unlike one that alters it
  have hforms {definition : CreateTable} {columns : List Column} {sql : String}
      {comments : List String} (h : definition.render dialect table = .ok sql)
      (h' : Column.additionStatements dialect table columns = .ok (sql :: comments)) : False := by
    simp only [CreateTable.render, bind_eq_ok, pure_eq_ok] at h
    obtain ⟨_, _, rfl⟩ := h
    obtain ⟨_, _, _, hsame⟩ := Column.exists_texts_of_additionStatements h'
    simpa using congrArg String.toList hsame
  constructor
  · rintro rfl
    cases h with
    | created hvalid hfree hsql =>
      cases h' with
      | created hvalid' hfree' hsql' =>
        exact .created (CreateTable.definedAlike_of_render hvalid hvalid' hfree hfree' hsql hsql')
      | added _ hadded' => exact (hforms hsql hadded').elim
    | added hfree hadded =>
      cases h' with
      | created _ _ hsql' => exact (hforms hsql' hadded).elim
      | added hfree' hadded' =>
        exact .added
          (Column.forall₂_definedAlike_of_additionStatements hfree hfree' hadded hadded')
  · rintro (halike | halike)
    · cases h with
      | created _ _ hsql =>
        cases h' with
        | created _ _ hsql' =>
          rw [halike.render_eq, hsql'] at hsql
          exact (Except.ok.inj hsql).symm
    · cases h with
      | added _ hadded =>
        cases h' with
        | added _ hadded' =>
          obtain ⟨texts, htexts, -, rfl⟩ := Column.exists_texts_of_additionStatements hadded
          obtain ⟨texts', htexts', -, rfl⟩ := Column.exists_texts_of_additionStatements hadded'
          rw [Column.renderEach_eq_of_definedAlike halike, htexts'] at htexts
          rw [Except.ok.inj htexts]

/-- Two commands that create tables or add columns, without faults, types and defaults of the user's
own SQL, create a table of the same name, or the columns of such a table, with the same statement
exactly if they define everything alike; the comments are statements of their own. -/
theorem tableStatement_eq_iff (hcolumns : command.carriesColumns = true)
    (hcolumns' : other.carriesColumns = true) (hvalid : command.faults table = [])
    (hvalid' : other.faults table = []) (hfree : command.verbatimFree = true)
    (hfree' : other.verbatimFree = true)
    (hrender : command.render dialect table = .ok rendering)
    (hrender' : other.render dialect table = .ok rendering')
    (hsql : rendering.statements.head? = some sql)
    (hsql' : rendering'.statements.head? = some sql') :
    sql = sql' ↔ command.DefinesAlike dialect other := by
  have hform := tableForm_of_render hcolumns hvalid hfree hrender hsql
  have hform' := tableForm_of_render hcolumns' hvalid' hfree' hrender' hsql'
  exact hform.eq_iff hform'

/-- Names with quotes of their own and without, no choice and a plain source, NULL allowed in a
primary key and not, a date and its text, and a comment on one side only. -/
theorem tableStatement_eq_iff_respelled :
    let definition : CreateTable :=
      { columns := [{ name := "id", type := .bigIncrements, primaryKey := true, nullable := true },
          { name := "due, at", type := .date, comment := some "leap day",
            defaultValue := some (.literal (.text "2024-02-29")) }],
        ifNotExists := true, like := some ⟨"Base", .selected []⟩ }
    let other : CreateTable :=
      { columns := [{ name := "id", type := .bigIncrements, primaryKey := true },
          { name := "\"due, at\"", type := .date,
            defaultValue := some (.literal (.date ⟨2024, 2, 29, by decide⟩)) }],
        ifNotExists := true, like := some ⟨"\"Base\"", .plain⟩ }
    let sql := "CREATE TABLE IF NOT EXISTS t (LIKE \"Base\", id bigserial PRIMARY KEY, " ++
      "\"due, at\" date NOT NULL DEFAULT '2024-02-29')"
    let comment := "COMMENT ON COLUMN t.\"due, at\" IS 'leap day'"
    (Command.createTable definition).faults "t" = [] ∧ (Command.createTable other).faults "t" = [] ∧
      (Command.createTable definition).verbatimFree = true ∧
      (Command.createTable other).verbatimFree = true ∧
      (Command.createTable definition).render dialect "t" = .ok ⟨none, [sql, comment]⟩ ∧
      (Command.createTable other).render dialect "t" = .ok ⟨none, [sql]⟩ ∧
      (Command.createTable definition).DefinesAlike dialect (.createTable other) := by
  intro definition other sql comment
  have hvalid : (Command.createTable definition).faults "t" = [] := by decide +kernel
  have hvalid' : (Command.createTable other).faults "t" = [] := by decide +kernel
  have hrender : (Command.createTable definition).render dialect "t" =
      .ok ⟨none, [sql, comment]⟩ := by decide +kernel
  have hrender' : (Command.createTable other).render dialect "t" = .ok ⟨none, [sql]⟩ := by
    decide +kernel
  have halike : (Command.createTable definition).DefinesAlike dialect (.createTable other) :=
    (tableStatement_eq_iff rfl rfl hvalid hvalid' rfl rfl hrender hrender' rfl rfl).mp rfl
  exact ⟨hvalid, hvalid', rfl, rfl, hrender, hrender', halike⟩

end Command

end SchemaDraft
