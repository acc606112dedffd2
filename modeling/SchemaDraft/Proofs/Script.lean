import SchemaDraft.Document
import SchemaDraft.Proofs.Blueprint.Rendering
import SchemaDraft.Proofs.Statement.Sealed

/-!
Scripts of blueprints without SQL text of the user's own. Each statement in them is lexically
closed, so the semicolons outside quotes are the ones that end statements, and a reader that cuts
the script there finds the statements again.
-/

namespace SchemaDraft

open Sql Postgres

/-- Indexes that are declared on columns have no predicates. -/
theorem Column.verbatimFree_of_indexCommand? {column : Column} {command : Command}
    (h : column.indexCommand? = some command) : command.verbatimFree = true := by
  obtain ⟨index, -, rfl⟩ := Option.map_eq_some_iff.mp h
  rfl

theorem Blueprint.verbatimFree_of_mem {b : Blueprint} {command : Command}
    (hfree : b.verbatimFree = true) (h : command ∈ b.resolvedCommands) :
    command.verbatimFree = true := by
  rcases List.mem_append.mp h with h | h
  · exact List.all_eq_true.mp hfree command h
  · obtain ⟨column, -, hcolumn⟩ := List.mem_filterMap.mp h
    exact Column.verbatimFree_of_indexCommand? hcolumn

theorem Blueprint.isSealed_compile {b : Blueprint} {statements : List String}
    (hfree : b.verbatimFree = true) (h : b.compile dialect = .ok statements) :
    ∀ sql ∈ statements, IsSealed sql := by
  obtain ⟨-, renderings, hall, rfl⟩ := Blueprint.compile_eq_ok.mp h
  intro sql hsql
  obtain ⟨rendering, hrendering, hsql⟩ := List.mem_flatMap.mp hsql
  obtain ⟨command, hcommand, hrender⟩ := exists_left_of_forall₂ hall hrendering
  exact Command.isSealed_render (Blueprint.verbatimFree_of_mem hfree hcommand) hrender sql hsql

/-- A script is its statements with a semicolon and a line feed between them, and a last piece that
is empty. -/
theorem toList_renderScript (compiled : List CompiledBlueprint) :
    (renderScript compiled).toList =
      [';', '\n'].intercalate ((allStatements compiled).map String.toList ++ [[]]) := by
  rw [renderScript]
  induction allStatements compiled with
  | nil => rfl
  | cons sql statements ih =>
    rw [List.map_cons, String.join_cons, String.toList_append, ih]
    cases statements with
    | nil => simp [List.intercalate_cons_cons]
    | cons next statements => simp [List.intercalate_cons_cons]

/-- Statements of blueprints without SQL text of the user's own are lexically closed, whatever
characters the names, text values and comments contain, and cutting their script at the semicolons
outside quotes gives back these statements and nothing after them. -/
theorem cutAt_renderScript {blueprints : List Blueprint} {compiled : List CompiledBlueprint}
    (hfree : ∀ b ∈ blueprints, b.verbatimFree = true)
    (hcompiled : List.Forall₂ (fun b c => b.compile dialect = .ok c.statements) blueprints
      compiled) :
    (∀ sql ∈ allStatements compiled, LexicallyClosed sql.toList) ∧
      cutAt ';' '\n' (renderScript compiled).toList =
        (allStatements compiled).map String.toList ++ [[]] := by
  have hclosed : ∀ sql ∈ allStatements compiled, LexicallyClosed sql.toList := by
    intro sql hsql
    obtain ⟨c, hc, hsql⟩ := List.mem_flatMap.mp hsql
    obtain ⟨b, hb, hcompile⟩ := exists_left_of_forall₂ hcompiled hc
    exact (Blueprint.isSealed_compile (hfree b hb) hcompile sql hsql).lexicallyClosed
  refine ⟨hclosed, ?_⟩
  rw [toList_renderScript]
  apply cutAt_intercalate (by decide) (by decide) (by decide) (by simp)
  intro text htext
  rcases List.mem_append.mp htext with htext | htext
  · obtain ⟨sql, hsql, rfl⟩ := List.mem_map.mp htext
    exact (hclosed sql hsql).outside
  · obtain rfl := List.mem_singleton.mp htext
    exact rfl

/-- Names and values that seem to end quotes, statements or the script stay in one piece each. -/
theorem cutAt_renderScript_misleading :
    let column : Column :=
      { name := "x\";--", type := .text, defaultValue := some (.literal (.text "';\n")),
        comment := some "*/ ; /*" }
    let index : Index :=
      { name := some "/*;", columns := ["x"], unique := true,
        predicate := some (.comparison "x" .gt (.integer (-1))) }
    let blueprints : List Blueprint :=
      [{ table := "a;b", commands := [.createTable { columns := [column] }] },
       { table := "t", commands := [.createIndex index] }]
    let compiled : List CompiledBlueprint :=
      [{ source := "first.json", table := "a;b", statements :=
          ["CREATE TABLE \"a;b\" (\"x\"\";--\" text NOT NULL DEFAULT ''';\n')",
           "COMMENT ON COLUMN \"a;b\".\"x\"\";--\" IS '*/ ; /*'"] },
       { source := "second.json", table := "t", statements :=
          ["CREATE UNIQUE INDEX \"/*;\" ON t USING btree (x) WHERE (x > -1)"] }]
    (∀ b ∈ blueprints, b.verbatimFree = true) ∧
      List.Forall₂ (fun b c => b.compile dialect = .ok c.statements) blueprints compiled ∧
      cutAt ';' '\n' (renderScript compiled).toList =
        (allStatements compiled).map String.toList ++ [[]] := by
  intro column index blueprints compiled
  have hfree : ∀ b ∈ blueprints, b.verbatimFree = true := by decide
  have hcompiled : List.Forall₂ (fun b c => b.compile dialect = .ok c.statements) blueprints
      compiled := by
    decide +kernel
  exact ⟨hfree, hcompiled, (cutAt_renderScript hfree hcompiled).2⟩

end SchemaDraft
