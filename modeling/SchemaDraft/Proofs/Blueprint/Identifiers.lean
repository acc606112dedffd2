import SchemaDraft.Proofs.Blueprint.Mentions
import SchemaDraft.Proofs.Sql.NameParts
import SchemaDraft.Sql.Postgres

/-!
Which identifiers in the statements of a blueprint PostgreSQL can take: all parts of them have to
have a content, and none a NUL. The search for faults only asks for names that are not empty, so
this is up to the names that the blueprint gives. A conventional name is as good as what it is made
up from.
-/

namespace SchemaDraft

namespace Sql

/-- Whether PostgreSQL can take a text as an identifier: it is one, and each part of it has a
content without a NUL. -/
def Usable (spelled : String) : Prop :=
  ∃ parts, identifierParts? spelled = some parts ∧ ∀ part ∈ parts, part ≠ [] ∧ '\x00' ∉ part

/-- A name without a NUL, and without a piece that is nothing, be it between double quotes. -/
structure WellNamed (name : String) : Prop where
  nul : '\x00' ∉ name.toList
  pieces : ∀ pieces, CutAtDots name.toList pieces → [] ∉ pieces ∧ ['"', '"'] ∉ pieces

section Content

variable {mark c : Char} {content piece name : List Char}

theorem mem_doubled : c ∈ doubled mark content ↔ c ∈ content := by
  induction content with
  | nil => simp
  | cons d content ih =>
    rw [doubled]
    split_ifs with hd
    · simp [ih, hd]
    · simp [ih]

/-- A piece is one quoted text, or stands for itself. -/
theorem pieceContent_cases (piece : List Char) :
    piece = quotedWith '"' (pieceContent piece) ∨ pieceContent piece = piece := by
  unfold pieceContent
  cases hquoted : quotedContent? '"' piece with
  | none => exact .inr rfl
  | some content => exact .inl (eq_quotedWith_of_quotedContent? hquoted)

theorem pieceContent_eq_nil : pieceContent piece = [] ↔ piece = [] ∨ piece = ['"', '"'] := by
  constructor
  · intro hempty
    rcases pieceContent_cases piece with hpiece | hpiece
    · rw [hempty] at hpiece
      exact .inr hpiece
    · exact .inl (hpiece ▸ hempty)
  · rintro (rfl | rfl) <;> decide

theorem nul_mem_pieceContent : '\x00' ∈ pieceContent piece ↔ '\x00' ∈ piece := by
  rcases pieceContent_cases piece with hpiece | hpiece
  · nth_rewrite 2 [hpiece]
    simp [quotedWith, mem_doubled]
  · rw [hpiece]

theorem nul_mem_splitParts : (∃ piece ∈ splitParts false name, '\x00' ∈ piece) ↔ '\x00' ∈ name := by
  have hdot : '\x00' ∉ ['.'] := by decide
  rw [← Text.mem_intercalate hdot, (cutFrom_splitParts false name).2]

end Content

theorem wellNamed_iff {name : String} :
    WellNamed name ↔ '\x00' ∉ name.toList ∧ [] ∉ splitParts false name.toList ∧
      ['"', '"'] ∉ splitParts false name.toList := by
  constructor
  · rintro ⟨hnul, hpieces⟩
    exact ⟨hnul, hpieces _ (cutAtDots_iff.mpr rfl)⟩
  · rintro ⟨hnul, hpieces⟩
    refine ⟨hnul, ?_⟩
    intro pieces hcut
    obtain rfl := cutAtDots_iff.mp hcut
    exact hpieces

theorem usable_quoteIdentifier {name : String} :
    Usable (quoteIdentifier name) ↔ WellNamed name := by
  have hparts : Usable (quoteIdentifier name) ↔
      ∀ piece ∈ splitParts false name.toList,
        pieceContent piece ≠ [] ∧ '\x00' ∉ pieceContent piece := by
    simp only [Usable, identifierParts?_eq_nameParts, Option.some.injEq, exists_eq_left',
      nameParts, List.forall_mem_map]
  rw [hparts, wellNamed_iff, ← nul_mem_splitParts]
  simp only [ne_eq, pieceContent_eq_nil, nul_mem_pieceContent]
  grind

end Sql

open Sql

theorem Index.wellNamed_resolvedName {index : Index} {table : String} (hname : index.name = none)
    (htable : '\x00' ∉ table.toList) (hcolumns : ∀ column ∈ index.columns, '\x00' ∉ column.toList) :
    WellNamed (index.resolvedName table) := by
  have hresolved : index.resolvedName table =
      conventionalName table index.columns index.ending := by
    rw [resolvedName, hname]
  have hunderscore : '_' ∈ (index.resolvedName table).toList :=
    hresolved ▸ underscore_mem_conventionalName
  have hdot : '.' ∉ (index.resolvedName table).toList := hresolved ▸ dot_notMem_conventionalName
  rw [wellNamed_iff, splitParts_of_notMem hdot, List.mem_singleton, List.mem_singleton]
  refine ⟨?_, ?_, ?_⟩
  · intro hnul
    rw [hresolved] at hnul
    rcases nul_mem_of_mem_conventionalName hnul with hmem | ⟨column, hcolumn, hmem⟩ | hmem
    · exact htable hmem
    · exact hcolumns column hcolumn hmem
    · exact nul_notMem_ending index hmem
  · intro hempty
    simp [← hempty] at hunderscore
  · intro hquotes
    simp [← hquotes] at hunderscore

theorem Command.forall_wellNamed {table : String} {command : Command} :
    (∀ name ∈ command.names table, WellNamed name) ↔
      ∀ name ∈ command.givenNames table, WellNamed name := by
  rw [names, List.forall_mem_append]
  refine and_iff_left_of_imp ?_
  intro hgiven
  cases command with
  | createIndex index =>
    intro name hmem
    obtain ⟨hname, rfl⟩ : index.name = none ∧ name = index.resolvedName table := by
      simpa [conventionalNames] using hmem
    apply Index.wellNamed_resolvedName hname
    · exact (hgiven table (by simp [givenNames])).nul
    · intro column hcolumn
      exact (hgiven column (by simp [givenNames, Index.givenNames, hcolumn])).nul
  | _ => simp [conventionalNames]

/-- Besides spellings of the names of a blueprint that compiles there is no identifier in its
statements, and each of these stands there. None of the names is empty, but that is not enough:
PostgreSQL can take all of the identifiers exactly if the names that the blueprint gives have no NUL
and no piece that is nothing. -/
theorem Blueprint.usable_iff_wellNamed {b : Blueprint} {statements : List String}
    (h : b.compile Postgres.dialect = .ok statements) :
    (∀ d : Dialect, d.AgreesOn (· ∈ b.names) Postgres.dialect → b.compile d = .ok statements) ∧
      (∀ name ∈ b.names, name ≠ "" ∧ ∃ sql ∈ statements, StandsIn (quoteIdentifier name) sql) ∧
      ((∀ name ∈ b.names, Usable (quoteIdentifier name)) ↔
        ∀ name ∈ b.givenNames, WellNamed name) := by
  refine ⟨?_, ?_, ?_⟩
  · intro d hagree
    rw [← h, compile, compile, hagree.compilation]
  · intro name hname
    exact ⟨names_ne_empty (compile_eq_ok.mp h).1 name hname, standsIn_of_compile h name hname⟩
  · simp only [usable_quoteIdentifier, names, givenNames, List.forall_mem_flatMap,
      Command.forall_wellNamed]

/-- The conventional name of an index is good whatever the names in it are like. -/
theorem Blueprint.usable_iff_wellNamed_qualified :
    let index : Index := { columns := ["A.b"] }
    let b : Blueprint := { table := "app.\"Order.s\"", commands := [.createIndex index] }
    let sql := "CREATE INDEX \"app_\"\"order_s\"\"_a_b_index\" ON app.\"Order.s\" USING btree " ++
      "(\"A\".b)"
    b.compile Postgres.dialect = .ok [sql] ∧
      ∀ name ∈ b.names, name ≠ "" ∧ StandsIn (quoteIdentifier name) sql ∧
        Usable (quoteIdentifier name) := by
  intro index b sql
  have hcompile : b.compile Postgres.dialect = .ok [sql] := by decide +kernel
  obtain ⟨-, hstands, husable⟩ := usable_iff_wellNamed hcompile
  have hgiven : ∀ name ∈ b.givenNames, WellNamed name := by
    simp only [wellNamed_iff]
    decide +kernel
  refine ⟨hcompile, ?_⟩
  intro name hname
  obtain ⟨hne, found, hfound, hin⟩ := hstands name hname
  obtain rfl := List.mem_singleton.mp hfound
  exact ⟨hne, hin, husable.mpr hgiven name hname⟩

/-- A table whose name ends in a dot is accepted, and its last part is empty. So is one with a NUL
in its name. -/
theorem Blueprint.not_usable_of_accepted :
    let b : Blueprint := { table := "a.", commands := [.dropTable false] }
    let b' : Blueprint := { table := "a\x00b", commands := [.dropTable false] }
    (¬ ∀ (b : Blueprint) (statements : List String), b.compile Postgres.dialect = .ok statements →
        ∀ name ∈ b.names, Usable (quoteIdentifier name)) ∧
      b.compile Postgres.dialect = .ok ["DROP TABLE a.\"\""] ∧
      identifierParts? "a.\"\"" = some [['a'], []] ∧
      b'.compile Postgres.dialect = .ok ["DROP TABLE \"a\x00b\""] ∧
      identifierParts? "\"a\x00b\"" = some [['a', '\x00', 'b']] := by
  intro b b'
  have hcompile : b.compile Postgres.dialect = .ok ["DROP TABLE a.\"\""] := by decide +kernel
  refine ⟨?_, hcompile, by decide +kernel, by decide +kernel, by decide +kernel⟩
  intro hall
  have husable := hall _ _ hcompile "a." (by decide)
  have hempty : [] ∉ splitParts false "a.".toList :=
    (wellNamed_iff.mp (usable_quoteIdentifier.mp husable)).2.1
  exact hempty (by decide)

end SchemaDraft
