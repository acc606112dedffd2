import Mathlib.Data.Option.Defs
import SchemaDraft.Proofs.Blueprint.Faults
import SchemaDraft.Proofs.Literal.Formatting
import SchemaDraft.Proofs.Sql.Boundary
import SchemaDraft.Proofs.Statement.Rendering

/-!
What the statement of an index tells. A unique index without a predicate is written as a constraint,
which names no method, and a predicate is written for every index that has one; but an index without
faults is unique only with the default method, and has a predicate only if it is unique. So each
part of such an index can be told from its statement as far as it is spelled there.
-/

namespace SchemaDraft

theorem IndexMethod.mem_all (method : IndexMethod) : method ∈ all := by
  cases method <;> decide

namespace Index

open Sql

/-- Indexes of a table with the same parts, these as a dialect spells them. -/
structure SpelledAlike (d : Dialect) (table : String) (index other : Index) : Prop where
  name : d.quoteIdentifier (index.resolvedName table) = d.quoteIdentifier (other.resolvedName table)
  columns : index.columns.map d.quoteIdentifier = other.columns.map d.quoteIdentifier
  unique : index.unique = other.unique
  method : index.method = other.method
  /-- Either both have no predicate, or both have one with the same text. -/
  predicate : Option.Rel (fun e e' => ∃ text, e.render d = .ok text ∧ e'.render d = .ok text)
    index.predicate other.predicate

theorem SpelledAlike.render_eq {d : Dialect} {table : String} {index other : Index}
    (h : SpelledAlike d table index other) : index.render d table = other.render d table := by
  obtain ⟨hname, hcolumns, hunique, hmethod, hpredicate⟩ := h
  unfold Index.render Index.statement Dialect.quoteAll
  rw [hname, hcolumns, hunique, hmethod]
  generalize index.predicate = predicate at hpredicate ⊢
  generalize other.predicate = predicate' at hpredicate ⊢
  cases hpredicate with
  | none => rfl
  | some hsame =>
    obtain ⟨text, htext, htext'⟩ := hsame
    simp only [htext, htext']

variable {table : String} {index other : Index}

/-- What stands from the name of an index on, where it is created as an index, with a clause behind
the columns. -/
def body (table : String) (index : Index) (clause : List Char) : List Char :=
  (quoteIdentifier (index.resolvedName table)).toList ++ ' ' :: ("ON ".toList ++
    ((quoteIdentifier table).toList ++ ' ' :: ("USING ".toList ++
      (index.method.sql.toList ++ ' ' :: '(' ::
        ((Postgres.dialect.quoteAll index.columns).toList ++ ')' :: clause)))))

theorem body_inj {clause clause' : List Char} (hcolumns : index.columns ≠ [])
    (hcolumns' : other.columns ≠ []) (h : index.body table clause = other.body table clause') :
    quoteIdentifier (index.resolvedName table) = quoteIdentifier (other.resolvedName table) ∧
      index.method = other.method ∧
      index.columns.map quoteIdentifier = other.columns.map quoteIdentifier ∧
      clause = clause' := by
  obtain ⟨hname, h⟩ := quoteIdentifier_append_inj h
  obtain ⟨-, h⟩ := quoteIdentifier_append_inj (List.append_cancel_left h)
  obtain ⟨hmethod, h⟩ := append_inj_of_prefixFree (by decide) index.method.mem_all
    other.method.mem_all (List.append_cancel_left h)
  obtain ⟨hnames, hclause⟩ :=
    quoteAll_append_inj hcolumns hcolumns' (List.cons.inj (List.cons.inj h).2).2
  exact ⟨hname, hmethod, hnames, hclause⟩

/-- The statement of an index without faults, in one of three forms. -/
inductive StatementForm (table : String) (index : Index) : List Char → Prop where
  | constraint (hpredicate : index.predicate = none) (hunique : index.unique = true)
    (hmethod : index.method = .btree) :
    StatementForm table index ("ALTER TABLE ".toList ++ ((quoteIdentifier table).toList ++
      ' ' :: ("ADD CONSTRAINT ".toList ++ ((quoteIdentifier (index.resolvedName table)).toList ++
        ' ' :: ("UNIQUE (".toList ++
          ((Postgres.dialect.quoteAll index.columns).toList ++ [')']))))))
  | whole (hpredicate : index.predicate = none) (hunique : index.unique = false) :
    StatementForm table index ("CREATE INDEX ".toList ++ index.body table [])
  | narrowed {condition : Condition} {text : String} (hpredicate : index.predicate = some condition)
    (hunique : index.unique = true) (hmethod : index.method = .btree)
    (htext : condition.render Postgres.dialect = .ok text) :
    StatementForm table index ("CREATE UNIQUE INDEX ".toList ++
      index.body table (" WHERE (".toList ++ (text.toList ++ [')'])))

theorem statementForm_of_render {sql : String} {predicate : Option String}
    (hvalid : index.faults table = [])
    (h : index.render Postgres.dialect table = .ok (sql, predicate)) :
    StatementForm table index sql.toList := by
  obtain ⟨-, -, hbtree, hcondition⟩ := faults_eq_nil.mp hvalid
  obtain ⟨hrendered, rfl⟩ := render_eq_ok.mp h
  unfold Index.statement
  cases hpredicate : index.predicate with
  | none =>
    rw [hpredicate] at hrendered
    cases hrendered
    simp only
    split_ifs with hunique
    · have hform : StatementForm table index _ := .constraint hpredicate hunique (hbtree hunique)
      simpa [Postgres.dialect] using hform
    · have hform : StatementForm table index _ := .whole hpredicate (by simpa using hunique)
      simpa [Postgres.dialect, body] using hform
  | some condition =>
    obtain ⟨hunique, -⟩ := hcondition condition hpredicate
    rw [hpredicate] at hrendered
    cases hrendered with
    | some htext =>
      have hform : StatementForm table index _ :=
        .narrowed hpredicate hunique (hbtree hunique) htext
      simpa [Postgres.dialect, body, hunique] using hform

/-- Statements in different forms begin with different words. In the same form they have the same
parts one after the other. -/
theorem StatementForm.spelledAlike {text text' : List Char} (hcolumns : index.columns ≠ [])
    (hcolumns' : other.columns ≠ []) (h : StatementForm table index text)
    (h' : StatementForm table other text') (hsame : text = text') :
    SpelledAlike Postgres.dialect table index other := by
  cases h with
  | constraint hpredicate hunique hmethod =>
    cases h' with
    | constraint hpredicate' hunique' hmethod' =>
      have hrest := (quoteIdentifier_append_inj (List.append_cancel_left hsame)).2
      obtain ⟨hname, hrest⟩ := quoteIdentifier_append_inj (List.append_cancel_left hrest)
      have hnames := quoteAll_append_inj hcolumns hcolumns' (List.append_cancel_left hrest)
      refine ⟨hname, hnames.1, hunique.trans hunique'.symm, hmethod.trans hmethod'.symm, ?_⟩
      rw [hpredicate, hpredicate']
      exact .none
    | whole | narrowed => simp at hsame
  | whole hpredicate hunique =>
    cases h' with
    | whole hpredicate' hunique' =>
      obtain ⟨hname, hmethod, hnames, -⟩ :=
        body_inj hcolumns hcolumns' (List.append_cancel_left hsame)
      refine ⟨hname, hnames, hunique.trans hunique'.symm, hmethod, ?_⟩
      rw [hpredicate, hpredicate']
      exact .none
    | constraint | narrowed => simp at hsame
  | @narrowed condition predicate hpredicate hunique hmethod hrender =>
    cases h' with
    | @narrowed condition' predicate' hpredicate' hunique' hmethod' hrender' =>
      obtain ⟨hname, -, hnames, hclause⟩ :=
        body_inj hcolumns hcolumns' (List.append_cancel_left hsame)
      have htext := List.append_cancel_right (List.append_cancel_left hclause)
      obtain rfl := String.toList_inj.mp htext
      refine ⟨hname, hnames, hunique.trans hunique'.symm, hmethod.trans hmethod'.symm, ?_⟩
      rw [hpredicate, hpredicate']
      exact .some ⟨predicate, hrender, hrender'⟩
    | constraint | whole => simp at hsame

/-- Two commands that create indexes of a table, and that have no faults, have the same statement
exactly if the indexes agree in name and columns as they are spelled, in being unique, in the method
and in the text of the predicate, verbatim text included. -/
theorem statements_eq_iff {rendering rendering' : Rendering}
    (hvalid : (Command.createIndex index).faults table = [])
    (hvalid' : (Command.createIndex other).faults table = [])
    (hrender : (Command.createIndex index).render Postgres.dialect table = .ok rendering)
    (hrender' : (Command.createIndex other).render Postgres.dialect table = .ok rendering') :
    rendering.statements = rendering'.statements ↔
      SpelledAlike Postgres.dialect table index other := by
  have hindex : index.faults table = [] := hvalid
  have hother : other.faults table = [] := hvalid'
  simp only [Command.render, bind_eq_ok, pure_eq_ok] at hrender hrender'
  obtain ⟨⟨sql, predicate⟩, hsql, rfl⟩ := hrender
  obtain ⟨⟨sql', predicate'⟩, hsql', rfl⟩ := hrender'
  constructor
  · intro hsame
    obtain rfl : sql = sql' := (List.cons.inj hsame).1
    have hcolumns := (faults_eq_nil.mp hindex).2.1.1
    have hcolumns' := (faults_eq_nil.mp hother).2.1.1
    exact (statementForm_of_render hindex hsql).spelledAlike hcolumns hcolumns'
      (statementForm_of_render hother hsql') rfl
  · intro halike
    rw [halike.render_eq, hsql'] at hsql
    obtain ⟨rfl, -⟩ := Prod.mk.inj (Except.ok.inj hsql)
    rfl

/-- A name that is given and one that is made up, a column with quotes and one without, a bound
value and a template that has it already. -/
theorem statements_eq_iff_respelled :
    let index : Index :=
      { columns := ["A b"], unique := true,
        predicate := some (.fragment "x) = ? --" [.text "')"]) }
    let other : Index :=
      { name := some "\"t_a b_unique\"", columns := ["\"A b\""], unique := true,
        predicate := some (.fragment "x) = ''')' --" []) }
    let statements := ["CREATE UNIQUE INDEX \"t_a b_unique\" ON t USING btree (\"A b\") " ++
      "WHERE (x) = ''')' --)"]
    let rendering : Rendering := ⟨some "x) = ''')' --", statements⟩
    (Command.createIndex index).faults "t" = [] ∧ (Command.createIndex other).faults "t" = [] ∧
      (Command.createIndex index).render Postgres.dialect "t" = .ok rendering ∧
      (Command.createIndex other).render Postgres.dialect "t" = .ok rendering ∧
      SpelledAlike Postgres.dialect "t" index other := by
  intro index other statements rendering
  have hvalid : (Command.createIndex index).faults "t" = [] := by decide +kernel
  have hvalid' : (Command.createIndex other).faults "t" = [] := by decide +kernel
  have hrender : (Command.createIndex index).render Postgres.dialect "t" = .ok rendering := by
    decide +kernel
  have hrender' : (Command.createIndex other).render Postgres.dialect "t" = .ok rendering := by
    decide +kernel
  exact ⟨hvalid, hvalid', hrender, hrender',
    (statements_eq_iff hvalid hvalid' hrender hrender').mp rfl⟩

end Index

end SchemaDraft
