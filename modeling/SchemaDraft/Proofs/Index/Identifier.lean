import SchemaDraft.Proofs.Blueprint.Acceptance
import SchemaDraft.Proofs.Index.Name
import SchemaDraft.Proofs.Sql.NameParts

/-!
The identifier that the conventional name of an index is spelled as. The names it is made up from
may be qualified, and quotes in them may be closed or not; but it has no dot that could qualify it
and does not end like a quoted text. So it is taken as it is, one part from end to end, both where
the index is created and where it is dropped.
-/

namespace SchemaDraft

open Sql Postgres

/-- Behind the opening words of a statement stands a name, spelled and read as one identifier with
this one part. -/
def NamesAfter (opening name sql : String) : Prop :=
  ∃ rest, sql = opening ++ quoteIdentifier name ++ rest ∧
    readIdentifier ((quoteIdentifier name).toList ++ rest.toList) =
      some ([name.toList], rest.toList)

/-- The only statement of a command names something so. -/
def Command.NamesAfter (table opening name : String) (command : Command) : Prop :=
  ∃ sql predicate, command.render dialect table = .ok ⟨predicate, [sql]⟩ ∧
    SchemaDraft.NamesAfter opening name sql

namespace Index

variable {table : String} {index : Index}

/-- What stands in front of the name where the index is created. -/
def opening (table : String) (index : Index) : String :=
  if index.unique then
    if index.predicate.isNone then "ALTER TABLE " ++ quoteIdentifier table ++ " ADD CONSTRAINT "
    else "CREATE UNIQUE INDEX "
  else "CREATE INDEX "

theorem nameParts_resolvedName (table : String) (h : index.name = none) :
    nameParts (index.resolvedName table).toList = [(index.resolvedName table).toList] := by
  have hresolved : index.resolvedName table =
      conventionalName table index.columns index.ending := by
    rw [resolvedName, h]
  rw [hresolved]
  exact nameParts_of_plain dot_notMem_conventionalName (getLast?_conventionalName_ne index)

theorem namesAfter_resolvedName {opening rest sql : String} (h : index.name = none)
    (hsql : opening ++ quoteIdentifier (index.resolvedName table) ++ rest = sql)
    (hrest : ∀ c ∈ rest.toList.head?, c = ' ') :
    NamesAfter opening (index.resolvedName table) sql := by
  have hends : EndsIdentifier rest.toList := by
    intro c hc
    obtain rfl := hrest c hc
    decide
  refine ⟨rest, hsql.symm, ?_⟩
  rw [toList_quoteIdentifier, readIdentifier_spellName _ hends, nameParts_resolvedName table h]

theorem namesAfter_of_render {sql : String} {predicate : Option String} (hname : index.name = none)
    (h : index.render dialect table = .ok (sql, predicate)) :
    NamesAfter (index.opening table) (index.resolvedName table) sql := by
  obtain ⟨hrendered, rfl⟩ := render_eq_ok.mp h
  unfold Index.statement
  cases hpredicate : index.predicate with
  | none =>
    rw [hpredicate] at hrendered
    cases hrendered
    simp only
    split_ifs with hunique
    · have hopening : index.opening table =
          "ALTER TABLE " ++ quoteIdentifier table ++ " ADD CONSTRAINT " := by
        simp [opening, hunique, hpredicate]
      rw [hopening]
      exact namesAfter_resolvedName hname (by simp only [String.append_assoc]; rfl) (by simp)
    · have hopening : index.opening table = "CREATE " ++ "INDEX " := by
        simp [opening, hunique]
      rw [hopening]
      exact namesAfter_resolvedName hname (by simp only [String.append_assoc]; rfl) (by simp)
  | some condition =>
    rw [hpredicate] at hrendered
    cases hrendered
    have hopening : index.opening table =
        "CREATE " ++ (if index.unique then "UNIQUE " else "") ++ "INDEX " := by
      cases hunique : index.unique <;> simp [opening, hunique, hpredicate]
    rw [hopening]
    exact namesAfter_resolvedName hname (by simp only [String.append_assoc]; rfl) (by simp)

/-- The conventional name of an index is one identifier without a qualifier, which stands for the
name itself. It is this identifier that the statement that creates the index names it by, as an
index or as a constraint, and that the commands that drop an index and a constraint of this name
name it by. -/
theorem resolvedName_identifier (table : String) (hname : index.name = none) :
    let name := index.resolvedName table
    identifierParts? (quoteIdentifier name) = some [name.toList] ∧
      ((∀ e ∈ index.predicate, ∃ text, e.render dialect = .ok text) →
        (Command.createIndex index).NamesAfter table (index.opening table) name) ∧
      ((Command.dropIndex name).faults table = [] ∧
        (Command.dropIndex name).NamesAfter table "DROP INDEX " name) ∧
      (Command.dropUnique name).faults table = [] ∧
        (Command.dropUnique name).NamesAfter table
          ("ALTER TABLE " ++ quoteIdentifier table ++ " DROP CONSTRAINT ") name := by
  intro name
  have hne : name ≠ "" := resolvedName_ne_empty table (by simp [hname])
  have hdropped {opening : String} : SchemaDraft.NamesAfter opening name
      (opening ++ quoteIdentifier name) :=
    namesAfter_resolvedName hname String.append_empty (by simp)
  refine ⟨?_, ?_, ⟨?_, ?_⟩, ?_, ?_⟩
  · rw [identifierParts?_eq_nameParts, nameParts_resolvedName table hname]
  · intro hpredicate
    obtain ⟨⟨sql, predicate⟩, hsql⟩ := exists_render.mpr hpredicate
    refine ⟨sql, predicate, ?_, namesAfter_of_render hname hsql⟩
    rw [Command.render, hsql]
    rfl
  · exact nameFaults_eq_nil.mpr hne
  · exact ⟨_, none, rfl, hdropped⟩
  · exact nameFaults_eq_nil.mpr hne
  · exact ⟨_, none, rfl, hdropped⟩

/-- A qualified and quoted table, and half of a quoted name in a column. -/
theorem resolvedName_identifier_halfQuoted :
    let index : Index := { columns := ["a\".B", "c"], method := .gin }
    let table := "S.\"T\""
    let name := "s_\"t\"_a\"_b_c_gin"
    index.resolvedName table = name ∧
      identifierParts? "\"s_\"\"t\"\"_a\"\"_b_c_gin\"" = some [name.toList] ∧
      (Command.createIndex index).NamesAfter table "CREATE INDEX " name ∧
      (Command.dropIndex name).NamesAfter table "DROP INDEX " name := by
  intro index table name
  have hresolved : index.resolvedName table = name := by decide +kernel
  have hspelled : quoteIdentifier name = "\"s_\"\"t\"\"_a\"\"_b_c_gin\"" := by decide +kernel
  obtain ⟨hparts, hcreate, ⟨-, hdrop⟩, -⟩ := @resolvedName_identifier index table rfl
  rw [hresolved] at hparts hcreate hdrop
  rw [hspelled] at hparts
  exact ⟨hresolved, hparts, hcreate (by simp [index]), hdrop⟩

end Index

end SchemaDraft
