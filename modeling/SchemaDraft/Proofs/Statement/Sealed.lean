import SchemaDraft.Blueprint.Compile
import SchemaDraft.Proofs.Condition.NormalForm
import SchemaDraft.Proofs.Sql.Lexical
import SchemaDraft.Proofs.Statement.Rendering

/-!
Commands without SQL text of the user's own, and the statements they are rendered to in PostgreSQL.
Every text that a statement is put together from is sealed: the fixed words of it, the names and the
literals. So is the statement, whatever characters the names and literals contain.
-/

namespace SchemaDraft

open Sql Postgres

def ColumnType.verbatimFree : ColumnType → Bool
  | .custom _ => false
  | _ => true

def DefaultValue.verbatimFree : DefaultValue → Bool
  | .expression _ => false
  | .literal _ => true

def Column.verbatimFree (column : Column) : Bool :=
  column.type.verbatimFree && column.defaultValue.all DefaultValue.verbatimFree

def PartitionBounds.verbatimFree : PartitionBounds → Bool
  | .raw _ => false
  | _ => true

/-- Whether all SQL text in the statements of a command is made here. -/
def Command.verbatimFree : Command → Bool
  | .createIndex index => index.predicate.all Condition.fragmentFree
  | .createView _ => false
  | .attachPartition _ bounds => bounds.verbatimFree
  | command => command.columns.all Column.verbatimFree

def Blueprint.verbatimFree (b : Blueprint) : Bool := b.commands.all Command.verbatimFree

theorem sealedFrom_hyphen_cons {c : Char} {rest : List Char} (hc : c ≠ '-')
    (h : sealedFrom none false (c :: rest) = true) :
    sealedFrom none false ('-' :: c :: rest) = true := by
  simpa [sealedFrom, openAfter, isQuoteMark, hc] using h

theorem sealedFrom_number {text : List Char} (h : IsNumber text) :
    sealedFrom none false text = true := by
  obtain ⟨digit, rest, rfl, hdigit, hrest⟩ := h
  have hchars : ∀ c ∈ digit :: rest, c.isDigit = true ∨ c = '.' := by
    intro c hc
    rcases List.mem_cons.mp hc with rfl | hc
    · exact .inl hdigit
    · exact hrest c hc
  apply sealedFrom_of_outside (p := fun c => c.isDigit || c = '.')
  · intro c hc
    refine ⟨?_, ?_, ?_⟩ <;> (rintro rfl; revert hc; decide)
  · apply outside_of_forall
    intro c hc
    refine ⟨by simpa using hchars c hc, ?_⟩
    apply isQuoteMark_eq_false_of_isLiteralChar
    rcases hchars c hc with h | h <;> simp [isLiteralChar, h]

theorem sealedFrom_literalText {text : List Char} (h : LiteralText text) :
    sealedFrom none false text = true := by
  cases h with
  | keyword hword =>
    have hkeywords : keywords.all (fun word => sealedFrom none false word.toList) = true := by
      decide
    exact List.all_eq_true.mp hkeywords _ hword
  | number hnumber => exact sealedFrom_number hnumber
  | negative hnumber =>
    have hsealed := sealedFrom_number hnumber
    obtain ⟨digit, rest, rfl, hdigit, -⟩ := hnumber
    have hne : digit ≠ '-' := by
      rintro rfl
      revert hdigit
      decide
    exact sealedFrom_hyphen_cons hne hsealed
  | quoted content =>
    have hquoted : Outside (fun _ => false) none (quotedWith '\x27' content) :=
      outside_quotedWith content rfl
    exact sealedFrom_of_outside (by simp) hquoted

theorem isSealed_repr (n : Nat) : IsSealed n.repr := by
  rw [IsSealed, Nat.toList_repr]
  exact sealedFrom_number (isNumber_toDigits n)

/-- Texts with commas between them. -/
theorem isSealed_commas {texts : List String} (h : ∀ text ∈ texts, IsSealed text) :
    IsSealed (", ".intercalate texts) :=
  isSealed_intercalate (isSealed_ofList (by decide)) h

theorem isSealed_quoteAll (names : List String) : IsSealed (dialect.quoteAll names) := by
  apply isSealed_commas
  intro text htext
  obtain ⟨name, -, rfl⟩ := List.mem_map.mp htext
  exact isSealed_quoteIdentifier name

theorem isSealed_formatLiteral {value : Literal} {text : String}
    (h : dialect.formatLiteral value = .ok text) : IsSealed text :=
  sealedFrom_literalText (literalText_of_formatLiteral h)

theorem isSealed_formatLiterals {values : List Literal} {texts : List String}
    (h : dialect.formatLiterals values = .ok texts) : ∀ text ∈ texts, IsSealed text := by
  intro text htext
  obtain ⟨value, -, hvalue⟩ := exists_left_of_forall₂ (Dialect.formatLiterals_eq_ok.mp h) htext
  exact isSealed_formatLiteral hvalue

theorem isSealed_tupleAt {site : LiteralSite} {values : List Literal} {text : String}
    (h : dialect.tupleAt site values = .ok text) : IsSealed text := by
  obtain ⟨texts, htexts, rfl⟩ := Dialect.tupleAt_eq_ok.mp h
  have hlist := isSealed_commas (isSealed_formatLiterals htexts)
  exact (hlist.prepend (by decide)).close (by decide)

theorem ColumnType.isSealed_precisionText (precision : Option UInt8) :
    IsSealed (precisionText precision) := by
  cases precision with
  | none => exact rfl
  | some precision => exact ((isSealed_repr _).prepend (by decide)).close (by decide)

theorem ColumnType.isSealed_sql {type : ColumnType} (h : type.verbatimFree = true) :
    IsSealed type.sql := by
  cases type with
  | custom name => cases h
  | string length => exact ((isSealed_repr _).prepend (by decide)).close (by decide)
  | timestamp precision =>
    exact ((isSealed_precisionText precision).prepend (by decide)).close (by decide)
  | timestampTz precision =>
    exact ((isSealed_precisionText precision).prepend (by decide)).close (by decide)
  | decimal precision scale =>
    have hprecision := isSealed_repr precision.toNat
    exact ((hprecision.prepend (by decide)).link (by decide) (isSealed_repr _)).close (by decide)
  | _ => exact isSealed_ofList (by decide)

theorem LikeOption.isSealed_sql (option : LikeOption) : IsSealed option.sql := by
  have hchoice : IsSealed (if option.including then " INCLUDING " else " EXCLUDING ") := by
    split <;> exact isSealed_ofList (by decide)
  have hfeature : IsSealed option.feature.sql := by
    cases option.feature <;> exact isSealed_ofList (by decide)
  exact hchoice.append hfeature

theorem LikeOptions.isSealed_sql (options : LikeOptions) : IsSealed options.sql := by
  cases options with
  | plain => exact rfl
  | includingAll => exact isSealed_ofList (by decide)
  | selected options =>
    apply isSealed_join
    intro text htext
    obtain ⟨option, -, rfl⟩ := List.mem_map.mp htext
    exact option.isSealed_sql

theorem LikeClause.isSealed_render (clause : LikeClause) : IsSealed (clause.render dialect) := by
  have hsource := isSealed_quoteIdentifier clause.source
  exact (hsource.prepend (by decide)).append clause.options.isSealed_sql

namespace Column

variable {table : String} {column : Column} {columns : List Column}

theorem isSealed_constraintText (column : Column) : IsSealed column.constraintText := by
  unfold constraintText
  cases column.primaryKey <;> cases column.nullable <;> exact isSealed_ofList (by decide)

theorem isSealed_renderDefault {text : String} (hfree : column.verbatimFree = true)
    (h : column.renderDefault dialect = .ok text) : IsSealed text := by
  unfold renderDefault at h
  cases hdefault : column.defaultValue with
  | none =>
    rw [hdefault] at h
    obtain rfl := Except.ok.inj h
    exact rfl
  | some value =>
    cases value with
    | expression sql => simp [verbatimFree, hdefault, DefaultValue.verbatimFree] at hfree
    | literal value =>
      simp only [hdefault, bind_eq_ok, pure_eq_ok, Dialect.literalAt_eq_ok] at h
      obtain ⟨literal, hliteral, rfl⟩ := h
      exact (isSealed_formatLiteral hliteral).prepend (by decide)

theorem isSealed_render {text : String} (hfree : column.verbatimFree = true)
    (h : column.render dialect = .ok text) : IsSealed text := by
  simp only [render, bind_eq_ok, pure_eq_ok] at h
  obtain ⟨default, hdefault, rfl⟩ := h
  have htype : column.type.verbatimFree = true := by
    simp only [verbatimFree, Bool.and_eq_true] at hfree
    exact hfree.1
  have hname := isSealed_quoteIdentifier column.name
  exact ((hname.link (by decide) (ColumnType.isSealed_sql htype)).append
    column.isSealed_constraintText).append (isSealed_renderDefault hfree hdefault)

/-- A comment is a literal, so there is nothing to ask of the column. -/
theorem isSealed_renderComments {comments : List String}
    (h : renderComments dialect table columns = .ok comments) :
    ∀ sql ∈ comments, IsSealed sql := by
  intro sql hsql
  obtain ⟨rendered, hmem, hrendered⟩ := exists_left_of_forall₂ (renderEach_eq_ok.mp h) hsql
  obtain ⟨column, -, hcomment⟩ := List.mem_filterMap.mp hmem
  obtain ⟨comment, -, rfl⟩ := Option.map_eq_some_iff.mp hcomment
  simp only [id_eq, bind_eq_ok, pure_eq_ok, Dialect.literalAt_eq_ok] at hrendered
  obtain ⟨literal, hliteral, rfl⟩ := hrendered
  have htable := isSealed_quoteIdentifier table
  have hname := isSealed_quoteIdentifier column.name
  have hvalue := isSealed_formatLiteral hliteral
  exact ((htable.prepend (by decide)).link (by decide) hname).link (by decide) hvalue

theorem isSealed_renderEach {texts : List String} (hfree : columns.all verbatimFree = true)
    (h : renderEach (render dialect) columns = .ok texts) : ∀ text ∈ texts, IsSealed text := by
  intro text htext
  obtain ⟨column, hmem, hcolumn⟩ := exists_left_of_forall₂ (renderEach_eq_ok.mp h) htext
  exact isSealed_render (List.all_eq_true.mp hfree column hmem) hcolumn

theorem isSealed_additionStatements {statements : List String}
    (hfree : columns.all verbatimFree = true)
    (h : additionStatements dialect table columns = .ok statements) :
    ∀ sql ∈ statements, IsSealed sql := by
  obtain ⟨rfl, rfl⟩ | ⟨-, additions, comments, hadditions, hcomments, rfl⟩ :=
    additionStatements_eq_ok.mp h
  · simp
  have hadded : ∀ text ∈ additions, IsSealed text := by
    intro text htext
    obtain ⟨column, hmem, hcolumn⟩ :=
      exists_left_of_forall₂ (renderEach_eq_ok.mp hadditions) htext
    simp only [renderAddition, bind_eq_ok, pure_eq_ok] at hcolumn
    obtain ⟨definition, hdefinition, rfl⟩ := hcolumn
    have hcolumnFree := List.all_eq_true.mp hfree column hmem
    exact (isSealed_render hcolumnFree hdefinition).prepend (by decide)
  have htable := isSealed_quoteIdentifier table
  exact List.forall_mem_cons.mpr
    ⟨(htable.prepend (by decide)).link (by decide) (isSealed_commas hadded),
      isSealed_renderComments hcomments⟩

end Column

theorem CreateTable.isSealed_statements {table : String} {definition : CreateTable}
    {statements : List String} (hfree : definition.columns.all Column.verbatimFree = true)
    (h : definition.statements dialect table = .ok statements) :
    ∀ sql ∈ statements, IsSealed sql := by
  simp only [CreateTable.statements, CreateTable.render, bind_eq_ok, pure_eq_ok] at h
  obtain ⟨sql, ⟨columns, hcolumns, rfl⟩, comments, hcomments, rfl⟩ := h
  have hlike : ∀ text ∈ (definition.like.map (LikeClause.render dialect)).toList,
      IsSealed text := by
    intro text htext
    obtain ⟨clause, -, rfl⟩ := Option.map_eq_some_iff.mp (Option.mem_toList.mp htext)
    exact clause.isSealed_render
  have hparts := isSealed_commas
    (List.forall_mem_append.mpr ⟨hlike, Column.isSealed_renderEach hfree hcolumns⟩)
  have hexists : IsSealed (if definition.ifNotExists then "IF NOT EXISTS " else "") := by
    split <;> exact isSealed_ofList (by decide)
  have htable := isSealed_quoteIdentifier table
  exact List.forall_mem_cons.mpr
    ⟨(((hexists.prepend (by decide)).append htable).link (by decide) hparts).close (by decide),
      Column.isSealed_renderComments hcomments⟩

theorem NormalForm.isSealed_text {form : NormalForm} (h : form.IsPostgres) :
    IsSealed form.text := by
  have hcolumn {text : String} (hname : IsColumn text) : IsSealed text := by
    obtain ⟨name, rfl⟩ := hname
    exact isSealed_quoteIdentifier name
  have hliteral {text : String} (htext : IsLiteral text) : IsSealed text :=
    sealedFrom_literalText htext
  have hoperator (operator : Comparison) : IsSealed operator.sql := by
    cases operator <;> exact isSealed_ofList (by decide)
  induction form with
  | constant value => cases value <;> exact isSealed_ofList (by decide)
  | comparison column operator literal =>
    exact ((hcolumn h.1).link (by decide) (hoperator operator)).link (by decide) (hliteral h.2)
  | columnComparison left operator right =>
    exact ((hcolumn h.1).link (by decide) (hoperator operator)).link (by decide) (hcolumn h.2)
  | membership column literals negated =>
    have htest : IsSealed (if negated then " <> ALL " else " = ANY ") := by
      cases negated <;> exact isSealed_ofList (by decide)
    have helements := isSealed_commas fun text htext => hliteral (h.2.2 text htext)
    have harray : IsSealed (arrayText literals) :=
      (helements.prepend (by decide)).close (by decide)
    exact (((hcolumn h.1).append htest).link (by decide) harray).close (by decide)
  | nullCheck column isNull =>
    refine (hcolumn h).append ?_
    cases isNull <;> exact isSealed_ofList (by decide)
  | conjunction left right ihl ihr =>
    exact (((ihl h.1).prepend (by decide)).link (by decide) (ihr h.2)).close (by decide)
  | disjunction left right ihl ihr =>
    exact (((ihl h.1).prepend (by decide)).link (by decide) (ihr h.2)).close (by decide)

theorem Condition.isSealed_render {e : Condition} {text : String}
    (hfree : e.fragmentFree = true) (h : e.render dialect = .ok text) : IsSealed text := by
  obtain ⟨form, hform, rfl⟩ := normalForm_of_render hfree h
  exact NormalForm.isSealed_text (isPostgres_of_normalForm hform)

theorem Index.isSealed_render {table sql : String} {index : Index} {predicate : Option String}
    (hfree : index.predicate.all Condition.fragmentFree = true)
    (h : index.render dialect table = .ok (sql, predicate)) : IsSealed sql := by
  have hname := isSealed_quoteIdentifier (index.resolvedName table)
  have hcolumns := isSealed_quoteAll index.columns
  have hmethod : IsSealed index.method.sql := by
    cases index.method <;> exact isSealed_ofList (by decide)
  have htable := isSealed_quoteIdentifier table
  have hhead : IsSealed ("INDEX " ++ dialect.quoteIdentifier (index.resolvedName table) ++ " ON " ++
      dialect.quoteIdentifier table ++ " USING " ++ index.method.sql ++ " (" ++
      dialect.quoteAll index.columns ++ ")") :=
    ((((hname.prepend (by decide)).link (by decide) htable).link (by decide) hmethod).link
      (by decide) hcolumns).close (by decide)
  obtain ⟨hrendered, rfl⟩ := render_eq_ok.mp h
  unfold Index.statement
  generalize index.predicate = condition at hrendered hfree
  cases hrendered with
  | none =>
    simp only
    split_ifs
    · exact (((htable.prepend (by decide)).link (by decide) hname).link (by decide)
        hcolumns).close (by decide)
    · exact hhead.prepend (by decide)
  | some htext =>
    have hunique : IsSealed (if index.unique then "UNIQUE " else "") := by
      split <;> exact isSealed_ofList (by decide)
    have hcondition := Condition.isSealed_render (by simpa using hfree) htext
    exact (((hunique.prepend (by decide)).append hhead).link (by decide) hcondition).close
      (by decide)

theorem PartitionBounds.isSealed_render {partition text : String} {bounds : PartitionBounds}
    (hfree : bounds.verbatimFree = true) (h : bounds.render dialect partition = .ok text) :
    IsSealed text := by
  cases bounds with
  | raw clause => cases hfree
  | range lower upper =>
    simp only [PartitionBounds.render, bind_eq_ok, pure_eq_ok] at h
    obtain ⟨lowerText, hlower, upperText, hupper, rfl⟩ := h
    exact ((isSealed_tupleAt hlower).prepend (by decide)).link (by decide) (isSealed_tupleAt hupper)
  | list values =>
    simp only [PartitionBounds.render, bind_eq_ok, pure_eq_ok] at h
    obtain ⟨valuesText, hvalues, rfl⟩ := h
    exact (isSealed_tupleAt hvalues).prepend (by decide)
  | hash modulus remainder =>
    obtain rfl := Except.ok.inj h
    have hmodulus := isSealed_repr modulus.toNat
    exact ((hmodulus.prepend (by decide)).link (by decide) (isSealed_repr _)).close (by decide)
  | rest =>
    obtain rfl := Except.ok.inj h
    exact isSealed_ofList (by decide)

theorem isSealed_renderAttachment {table partition sql : String} {bounds : PartitionBounds}
    (hfree : bounds.verbatimFree = true)
    (h : renderAttachment dialect table partition bounds = .ok sql) : IsSealed sql := by
  simp only [renderAttachment, bind_eq_ok, pure_eq_ok] at h
  obtain ⟨text, htext, rfl⟩ := h
  have htable := isSealed_quoteIdentifier table
  have hpartition := isSealed_quoteIdentifier partition
  have hbounds := PartitionBounds.isSealed_render hfree htext
  exact ((htable.prepend (by decide)).link (by decide) hpartition).link (by decide) hbounds

theorem TriggerEvent.isSealed_render (event : TriggerEvent) : IsSealed (event.render dialect) := by
  cases event with
  | updateOf columns => exact (isSealed_quoteAll columns).prepend (by decide)
  | _ => exact isSealed_ofList (by decide)

theorem Trigger.isSealed_render {trigger : Trigger} {sql : String}
    (h : trigger.render dialect = .ok sql) : IsSealed sql := by
  simp only [Trigger.render, bind_eq_ok, pure_eq_ok] at h
  obtain ⟨arguments, harguments, rfl⟩ := h
  have hname := isSealed_quoteIdentifier trigger.name
  have htiming : IsSealed trigger.timing.sql := by
    cases trigger.timing <;> exact isSealed_ofList (by decide)
  have hevents : ∀ text ∈ trigger.events.map (TriggerEvent.render dialect), IsSealed text := by
    intro text htext
    obtain ⟨event, -, rfl⟩ := List.mem_map.mp htext
    exact event.isSealed_render
  have hlist : IsSealed (" OR ".intercalate (trigger.events.map (TriggerEvent.render dialect))) :=
    isSealed_intercalate (isSealed_ofList (by decide)) hevents
  have htable := isSealed_quoteIdentifier trigger.table
  have hlevel : IsSealed trigger.level.sql := by
    cases trigger.level <;> exact isSealed_ofList (by decide)
  have hroutine : IsSealed trigger.routine.sql := by
    cases trigger.routine <;> exact isSealed_ofList (by decide)
  have hfunction := isSealed_quoteIdentifier trigger.function
  have hfires : IsSealed ("CREATE TRIGGER " ++ dialect.quoteIdentifier trigger.name ++ " " ++
      trigger.timing.sql ++ " " ++
      " OR ".intercalate (trigger.events.map (TriggerEvent.render dialect))) :=
    ((hname.prepend (by decide)).link (by decide) htiming).link (by decide) hlist
  exact ((((hfires.link (by decide) htable).link (by decide) hlevel).link (by decide)
    hroutine).link (by decide) hfunction).append (isSealed_tupleAt harguments)

theorem isSealed_viewKeyword (materialized : Bool) : IsSealed (viewKeyword materialized) := by
  cases materialized <;> exact isSealed_ofList (by decide)

/-- Every statement of a command that holds no SQL text of the user's own is sealed. -/
theorem Command.isSealed_render {table : String} {command : Command} {rendering : Rendering}
    (hfree : command.verbatimFree = true) (h : command.render dialect table = .ok rendering) :
    ∀ sql ∈ rendering.statements, IsSealed sql := by
  have htable := isSealed_quoteIdentifier table
  cases command with
  | createTable definition =>
    simp only [Command.render, bind_eq_ok, pure_eq_ok] at h
    obtain ⟨statements, hstatements, rfl⟩ := h
    exact CreateTable.isSealed_statements hfree hstatements
  | addColumns columns =>
    simp only [Command.render, bind_eq_ok, pure_eq_ok] at h
    obtain ⟨statements, hstatements, rfl⟩ := h
    exact Column.isSealed_additionStatements hfree hstatements
  | dropTable ifExists =>
    obtain rfl := Except.ok.inj h
    have hexists : IsSealed (if ifExists then "IF EXISTS " else "") := by
      split <;> exact isSealed_ofList (by decide)
    exact List.forall_mem_singleton.mpr ((hexists.prepend (by decide)).append htable)
  | createIndex index =>
    simp only [Command.render, bind_eq_ok, pure_eq_ok] at h
    obtain ⟨⟨sql, predicate⟩, hindex, rfl⟩ := h
    exact List.forall_mem_singleton.mpr (Index.isSealed_render hfree hindex)
  | dropIndex name =>
    obtain rfl := Except.ok.inj h
    exact List.forall_mem_singleton.mpr ((isSealed_quoteIdentifier name).prepend (by decide))
  | dropUnique name =>
    obtain rfl := Except.ok.inj h
    have hname := isSealed_quoteIdentifier name
    exact List.forall_mem_singleton.mpr ((htable.prepend (by decide)).link (by decide) hname)
  | createView view => cases hfree
  | dropView name materialized =>
    obtain rfl := Except.ok.inj h
    have hname := isSealed_quoteIdentifier name
    exact List.forall_mem_singleton.mpr
      (((isSealed_viewKeyword materialized).prepend (by decide)).append hname)
  | createTrigger trigger =>
    simp only [Command.render, bind_eq_ok, pure_eq_ok] at h
    obtain ⟨sql, htrigger, rfl⟩ := h
    exact List.forall_mem_singleton.mpr (Trigger.isSealed_render htrigger)
  | dropTrigger name =>
    obtain rfl := Except.ok.inj h
    have hname := isSealed_quoteIdentifier name
    exact List.forall_mem_singleton.mpr ((hname.prepend (by decide)).link (by decide) htable)
  | attachPartition partition bounds =>
    simp only [Command.render, bind_eq_ok, pure_eq_ok] at h
    obtain ⟨sql, hattachment, rfl⟩ := h
    exact List.forall_mem_singleton.mpr (isSealed_renderAttachment hfree hattachment)
  | detachPartition partition =>
    obtain rfl := Except.ok.inj h
    have hpartition := isSealed_quoteIdentifier partition
    exact List.forall_mem_singleton.mpr ((htable.prepend (by decide)).link (by decide) hpartition)

end SchemaDraft
