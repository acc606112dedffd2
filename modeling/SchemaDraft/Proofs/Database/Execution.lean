import Mathlib.Data.List.Forall2
import SchemaDraft.CommandLine.Run
import SchemaDraft.Proofs.Document.Batch

/-!
What applying blueprint files does to a database. Nothing is executed unless all files compile; then
their statements are executed in order up to the first that the database refuses, that one included.
A database may judge a statement by all that was executed before.
-/

namespace SchemaDraft

/-- Statements without parameters, as they are given to a database. -/
def executions (statements : List String) : List Execution := statements.map ({ sql := · })

/-- After what is done, the database accepts each of the statements in its turn. -/
def Database.Accepts (db : Database) (done : List Execution) (statements : List String) : Prop :=
  ∀ before sql after, statements = before ++ sql :: after →
    ∃ rows, db.answer (done ++ executions before) { sql := sql } = .ok rows

/-- After what is done, `sql` is the first of the statements that the database refuses, and those in
`before` stand before it. -/
structure Database.Refuses (db : Database) (done : List Execution) (statements before : List String)
    (sql message : String) : Prop where
  place : ∃ after, statements = before ++ sql :: after
  accepts : db.Accepts done before
  refusal : db.answer (done ++ executions before) { sql := sql } = .error message

section Statements

variable {db : Database} {done : List Execution} {statements others : List String}
  {sql message : String}

theorem executions_append :
    executions (statements ++ others) = executions statements ++ executions others :=
  List.map_append

theorem Database.accepts_nil : db.Accepts done [] := by
  intro before sql after h
  simp at h

theorem Database.accepts_cons :
    db.Accepts done (sql :: statements) ↔
      (∃ rows, db.answer done { sql := sql } = .ok rows) ∧
        db.Accepts (done ++ [{ sql := sql }]) statements := by
  constructor
  · intro h
    refine ⟨by simpa [executions] using h [] sql statements rfl, ?_⟩
    intro before next after hstatements
    simpa [executions] using h (sql :: before) next after (by rw [hstatements]; rfl)
  · rintro ⟨hfirst, hrest⟩ before next after hstatements
    cases before with
    | nil =>
      obtain ⟨rfl, -⟩ := List.cons.inj hstatements
      simpa [executions] using hfirst
    | cons first before =>
      obtain ⟨rfl, hrestStatements⟩ := List.cons.inj hstatements
      simpa [executions] using hrest before next after hrestStatements

theorem Database.accepts_append :
    db.Accepts done (statements ++ others) ↔
      db.Accepts done statements ∧ db.Accepts (done ++ executions statements) others := by
  induction statements generalizing done with
  | nil => simp [accepts_nil, executions]
  | cons sql statements ih =>
    rw [List.cons_append, accepts_cons, accepts_cons, ih, and_assoc]
    simp [executions]

end Statements

namespace Progress

variable {db : Database} {p q r : Progress} {statements others : List String}

/-- From `p` on the statements were executed, and this is how far it went. -/
def Leads (db : Database) (p : Progress) (statements : List String) (q : Progress) : Prop :=
  (q.refusal = none ∧ db.Accepts p.executed statements ∧
    q.executed = p.executed ++ executions statements) ∨
  ∃ before sql message, q.refusal = some message ∧
    db.Refuses p.executed statements before sql message ∧
      q.executed = p.executed ++ executions (before ++ [sql])

theorem leads_execute (db : Database) (p : Progress) (sql : String) (h : p.refusal = none) :
    Leads db p [sql] (p.execute db sql) := by
  cases hanswer : db.answer p.executed { sql := sql } with
  | ok rows =>
    have hexecute : p.execute db sql =
        { p.report (.executing sql) with executed := p.executed ++ [{ sql := sql }] } := by
      simp only [execute, hanswer]
    rw [hexecute]
    exact .inl ⟨h, Database.accepts_cons.mpr ⟨⟨rows, hanswer⟩, Database.accepts_nil⟩, rfl⟩
  | error message =>
    have hexecute : p.execute db sql =
        { p.report (.executing sql) with
          executed := p.executed ++ [{ sql := sql }], refusal := some message } := by
      simp only [execute, hanswer]
    rw [hexecute]
    refine .inr ⟨[], sql, message, rfl, ⟨⟨[], rfl⟩, Database.accepts_nil, ?_⟩, rfl⟩
    rw [← hanswer]
    simp [executions]

/-- What follows is executed only after statements that were all accepted. -/
theorem Leads.append (hfirst : Leads db p statements q)
    (hrest : q.refusal = none → Leads db q others r) (hstop : q.refusal.isSome → r = q) :
    Leads db p (statements ++ others) r := by
  rcases hfirst with
    ⟨hnone, haccepts, hexecuted⟩ | ⟨before, sql, message, hsome, hrefuses, hexecuted⟩
  · rcases hrest hnone with ⟨hend, hall, hdone⟩ | ⟨before, sql, message, hend, hrefuses, hdone⟩
    · refine .inl ⟨hend, Database.accepts_append.mpr ⟨haccepts, hexecuted ▸ hall⟩, ?_⟩
      rw [hdone, hexecuted, executions_append, List.append_assoc]
    · obtain ⟨⟨after, rfl⟩, hbefore, hrefusal⟩ := hrefuses
      refine .inr ⟨statements ++ before, sql, message, hend, ⟨⟨after, ?_⟩, ?_, ?_⟩, ?_⟩
      · rw [List.append_assoc]
      · exact Database.accepts_append.mpr ⟨haccepts, hexecuted ▸ hbefore⟩
      · rw [executions_append, ← List.append_assoc, ← hexecuted, hrefusal]
      · rw [hdone, hexecuted, List.append_assoc, List.append_assoc, ← executions_append]
  · obtain rfl := hstop (by simp [hsome])
    obtain ⟨⟨after, rfl⟩, hbefore, hrefusal⟩ := hrefuses
    refine .inr ⟨before, sql, message, hsome, ⟨⟨after ++ others, ?_⟩, hbefore, hrefusal⟩, hexecuted⟩
    rw [List.append_assoc, List.cons_append]

theorem leads_executeAll (db : Database) (p : Progress) (statements : List String)
    (h : p.refusal = none) : Leads db p statements (p.executeAll db statements) := by
  induction statements generalizing p with
  | nil => exact .inl ⟨h, Database.accepts_nil, by simp [executeAll, executions]⟩
  | cons sql rest ih =>
    rw [executeAll, ← List.singleton_append]
    apply (leads_execute db p sql h).append
    · intro hnone
      simpa [hnone] using ih _ hnone
    · intro hsome
      simp [hsome]

theorem leads_applyBlueprints (db : Database) (p : Progress) (compiled : List CompiledBlueprint)
    (h : p.refusal = none) :
    Leads db p (allStatements compiled) (p.applyBlueprints db compiled) := by
  induction compiled generalizing p with
  | nil =>
    exact .inl ⟨h, Database.accepts_nil, by simp [applyBlueprints, allStatements, executions]⟩
  | cons b rest ih =>
    have hall : allStatements (b :: rest) = b.statements ++ allStatements rest := rfl
    have hfirst : Leads db p b.statements (p.applyBlueprint db b) :=
      leads_executeAll db (p.report (.applying b.table b.source)) b.statements h
    rw [applyBlueprints, hall]
    apply hfirst.append
    · intro hnone
      rw [if_neg (by simp [hnone])]
      exact ih { p.applyBlueprint db b with
        count := (p.applyBlueprint db b).count + b.statements.length } hnone
    · intro hsome
      simp [hsome]

theorem count_execute (db : Database) (p : Progress) (sql : String) :
    (p.execute db sql).count = p.count := by
  cases hanswer : db.answer p.executed { sql := sql } <;> simp only [execute, hanswer] <;> rfl

theorem count_executeAll (db : Database) (p : Progress) (statements : List String) :
    (p.executeAll db statements).count = p.count := by
  induction statements generalizing p with
  | nil => rfl
  | cons sql rest ih =>
    rw [executeAll]
    split
    · exact count_execute db p sql
    · exact (ih _).trans (count_execute db p sql)

/-- If no statement is refused, the statements of all blueprints are counted. -/
theorem count_applyBlueprints (db : Database) (p : Progress) (compiled : List CompiledBlueprint)
    (h : (p.applyBlueprints db compiled).refusal = none) :
    (p.applyBlueprints db compiled).count = p.count + (allStatements compiled).length := by
  induction compiled generalizing p with
  | nil => rfl
  | cons b rest ih =>
    have hall : allStatements (b :: rest) = b.statements ++ allStatements rest := rfl
    have hfirst : (p.applyBlueprint db b).count = p.count :=
      count_executeAll db (p.report (.applying b.table b.source)) b.statements
    rw [applyBlueprints] at h ⊢
    split at h
    · rename_i hsome
      rw [h] at hsome
      cases hsome
    · rw [if_neg ‹_›, ih _ h, hall, List.length_append, hfirst, Nat.add_assoc]

end Progress

/-- A refused statement is one that is not accepted. -/
theorem Database.Refuses.not_accepts {db : Database} {done : List Execution}
    {statements before : List String} {sql message : String}
    (h : db.Refuses done statements before sql message) : ¬ db.Accepts done statements := by
  intro haccepts
  obtain ⟨after, hstatements⟩ := h.place
  obtain ⟨rows, hrows⟩ := haccepts before sql after hstatements
  rw [h.refusal] at hrows
  cases hrows

/-- Nothing that the database accepts in turn reaches as far as a refused statement. -/
theorem Database.Refuses.eq_nil_of_accepts {db : Database} {done : List Execution}
    {statements before others after : List String} {sql next message : String}
    (h : db.Refuses done statements before sql message)
    (haccepts : db.Accepts done (before ++ others))
    (hplace : statements = before ++ others ++ next :: after) : others = [] := by
  obtain ⟨rest, hstatements⟩ := h.place
  cases others with
  | nil => rfl
  | cons first others =>
    have hwhole : before ++ sql :: rest = before ++ first :: (others ++ next :: after) := by
      rw [← hstatements, hplace, List.append_assoc, List.cons_append]
    have htails := List.append_cancel_left hwhole
    obtain ⟨rfl, -⟩ := List.cons.inj htails
    obtain ⟨rows, hrows⟩ := haccepts before sql others rfl
    rw [h.refusal] at hrows
    cases hrows

theorem Database.Refuses.unique {db : Database} {done : List Execution}
    {statements before before' : List String} {sql sql' message message' : String}
    (h : db.Refuses done statements before sql message)
    (h' : db.Refuses done statements before' sql' message') :
    before = before' ∧ sql = sql' ∧ message = message' := by
  obtain ⟨after, hstatements⟩ := h.place
  obtain ⟨after', hstatements'⟩ := h'.place
  have hbefore : before = before' := by
    rcases List.append_eq_append_iff.mp (hstatements.symm.trans hstatements') with
      ⟨others, rfl, -⟩ | ⟨others, rfl, -⟩
    · rw [h.eq_nil_of_accepts h'.accepts hstatements', List.append_nil]
    · rw [h'.eq_nil_of_accepts h.accepts hstatements, List.append_nil]
  subst hbefore
  have hsql := List.append_cancel_left (hstatements.symm.trans hstatements')
  obtain ⟨rfl, -⟩ := List.cons.inj hsql
  exact ⟨rfl, rfl, Except.error.inj (h.refusal.symm.trans h'.refusal)⟩

/-- Applying either ends with every statement executed and accepted, or with the first statement
that is refused. -/
theorem applyAll_cases (db : Database) (compiled : List CompiledBlueprint) :
    (db.Accepts [] (allStatements compiled) ∧
      (applyAll db compiled).result = .ok (allStatements compiled).length ∧
        (applyAll db compiled).executed = executions (allStatements compiled)) ∨
    ∃ before sql message, db.Refuses [] (allStatements compiled) before sql message ∧
      (applyAll db compiled).result = .error (.refused message) ∧
        (applyAll db compiled).executed = executions (before ++ [sql]) := by
  rcases Progress.leads_applyBlueprints db {} compiled rfl with
    ⟨hnone, haccepts, hexecuted⟩ | ⟨before, sql, message, hsome, hrefuses, hexecuted⟩
  · have hcount := Progress.count_applyBlueprints db {} compiled hnone
    rw [Nat.zero_add] at hcount
    refine .inl ⟨haccepts, ?_, ?_⟩
    · simp only [applyAll, hnone, hcount]
    · simpa [applyAll, hnone] using hexecuted
  · refine .inr ⟨before, sql, message, hrefuses, ?_, ?_⟩
    · simp only [applyAll, hsome]
    · simpa [applyAll, hsome] using hexecuted

theorem result_applyAll_eq_ok {db : Database} {compiled : List CompiledBlueprint} {n : Nat} :
    (applyAll db compiled).result = .ok n ↔
      db.Accepts [] (allStatements compiled) ∧ n = (allStatements compiled).length := by
  rcases applyAll_cases db compiled with
    ⟨haccepts, hresult, -⟩ | ⟨before, sql, message, hrefuses, hresult, -⟩
  · simp [hresult, haccepts, eq_comm]
  · simp [hresult, hrefuses.not_accepts]

namespace CommandLine

/-- The options or the surroundings name this database, and it can be reached. -/
def Surroundings.Reaches (s : Surroundings) (options : Options) (db : Database) : Prop :=
  ∃ url, options.databaseUrl.or s.defaultUrl = some url ∧ (Connection.check url).error = none ∧
    s.database url = some db

variable {s : Surroundings} {options : Options} {paths : List String} {db : Database}

/-- The files that the surroundings have under these paths. -/
def Surroundings.files (s : Surroundings) (paths : List String) : List SourceFile :=
  paths.map fun path => ⟨path, s.file path⟩

theorem perform_apply_of_error (options : Options) {e : DocumentError}
    (h : compileFiles (s.files paths) = .error e) :
    let outcome := perform s ⟨options, .apply paths false⟩
    outcome.executed = [] ∧ outcome.failure = some (.document e) := by
  have hresult : (Batch.ofFiles (paths.map fun path => ⟨path, s.file path⟩)).result = .error e := h
  simp [perform, withFiles, hresult, Outcome.after, Outcome.failed]

theorem perform_apply_of_ok {compiled : List CompiledBlueprint} (hdb : s.Reaches options db)
    (h : compileFiles (s.files paths) = .ok compiled) :
    let outcome := perform s ⟨options, .apply paths false⟩
    outcome.executed = (applyAll db compiled).executed ∧
      outcome.failure = match (applyAll db compiled).result with
        | .ok _ => none
        | .error e => some (.database e) := by
  have hresult : (Batch.ofFiles (paths.map fun path => ⟨path, s.file path⟩)).result =
      .ok compiled := h
  obtain ⟨url, hurl, hcheck, hreached⟩ := hdb
  cases hall : (applyAll db compiled).result <;>
    simp [perform, withFiles, hresult, applyCompiled, withDatabase, hurl, hcheck, hreached,
      Outcome.after, hall]

/-- Applying files executes nothing unless every file can be loaded and all blueprints compile.
Otherwise the statements are executed in order, each once, up to the first that the database
refuses, that one included. The number of statements is returned exactly if none is refused, and
the error of the database otherwise. -/
theorem perform_apply (s : Surroundings) (options : Options) (paths : List String) :
    let outcome := perform s ⟨options, .apply paths false⟩
    ((∃ file ∈ s.files paths, ¬ file.Compiles) →
      outcome.executed = [] ∧ ∃ e, outcome.failure = some (.document e)) ∧
    ((∀ file ∈ s.files paths, file.Compiles) → ∀ db, s.Reaches options db →
      ∃ compiled, compileFiles (s.files paths) = .ok compiled ∧
        (∀ n, (applyAll db compiled).result = .ok n ↔
          db.Accepts [] (allStatements compiled) ∧ n = (allStatements compiled).length) ∧
        ((db.Accepts [] (allStatements compiled) ∧
            outcome.executed = executions (allStatements compiled) ∧ outcome.failure = none) ∨
          ∃ before sql message, db.Refuses [] (allStatements compiled) before sql message ∧
            outcome.executed = executions (before ++ [sql]) ∧
            (applyAll db compiled).result = .error (.refused message) ∧
            outcome.failure = some (.database (.refused message)))) := by
  intro outcome
  constructor
  · rintro ⟨file, hfile, hfails⟩
    cases hcompiled : compileFiles (s.files paths) with
    | ok compiled =>
      exact absurd (Batch.exists_result_ofFiles.mp ⟨compiled, hcompiled⟩ file hfile) hfails
    | error e =>
      obtain ⟨hexecuted, hfailure⟩ := perform_apply_of_error options hcompiled
      exact ⟨hexecuted, e, hfailure⟩
  · intro hfiles db hdb
    obtain ⟨compiled, hcompiled⟩ := Batch.exists_result_ofFiles.mpr hfiles
    obtain ⟨hexecuted, hfailure⟩ := perform_apply_of_ok hdb hcompiled
    refine ⟨compiled, hcompiled, fun n => result_applyAll_eq_ok, ?_⟩
    rcases applyAll_cases db compiled with
      ⟨haccepts, hresult, hall⟩ | ⟨before, sql, message, hrefuses, hresult, hsome⟩
    · refine .inl ⟨haccepts, hexecuted.trans hall, ?_⟩
      rw [hfailure, hresult]
    · refine .inr ⟨before, sql, message, hrefuses, hexecuted.trans hsome, hresult, ?_⟩
      rw [hfailure, hresult]

/-- The first statement of the second file is refused, after the only one of the first file was
accepted, and the statement behind it is not executed. -/
theorem perform_apply_refused :
    let first := "\x7b\"table\":\"t\",\"commands\":[\x7b\"command\":\"drop_table\"\x7d]\x7d"
    let second := "[\x7b\"table\":\"t\"\x7d,\x7b\"table\":\"u\",\"commands\":[" ++
      "\x7b\"command\":\"drop_index\",\"name\":\"i\"\x7d,\x7b\"command\":\"drop_table\"\x7d]\x7d]"
    let db : Database :=
      ⟨fun before _ => if before.isEmpty then .ok [] else .error "no such index"⟩
    let s : Surroundings :=
      { file := fun path => .bytes (if path = "a.json" then first else second).toUTF8
        defaultUrl := some "postgres://h/d"
        database := fun _ => some db }
    (∀ file ∈ s.files ["a.json", "b.json"], file.Compiles) ∧ s.Reaches {} db ∧
      (perform s ⟨{}, .apply ["a.json", "b.json"] false⟩).executed =
        executions ["DROP TABLE t", "DROP INDEX i"] := by
  intro first second db s
  have hcompiled : compileFiles (s.files ["a.json", "b.json"]) =
      .ok [⟨"a.json", "t", ["DROP TABLE t"]⟩, ⟨"b.json", "t", []⟩,
        ⟨"b.json", "u", ["DROP INDEX i", "DROP TABLE u"]⟩] := by
    decide +kernel
  have hfiles := Batch.exists_result_ofFiles.mp ⟨_, hcompiled⟩
  have hdb : s.Reaches {} db := ⟨"postgres://h/d", rfl, by decide +kernel, rfl⟩
  obtain ⟨compiled, hequal, -, houtcome⟩ :=
    (perform_apply s {} ["a.json", "b.json"]).2 hfiles db hdb
  refine ⟨hfiles, hdb, ?_⟩
  obtain rfl := Except.ok.inj (hcompiled.symm.trans hequal)
  have hrefuses : db.Refuses [] ["DROP TABLE t", "DROP INDEX i", "DROP TABLE u"] ["DROP TABLE t"]
      "DROP INDEX i" "no such index" :=
    ⟨⟨["DROP TABLE u"], rfl⟩, Database.accepts_cons.mpr ⟨⟨[], rfl⟩, Database.accepts_nil⟩, rfl⟩
  rcases houtcome with ⟨haccepts, -⟩ | ⟨before, sql, message, hstop, hexecuted, -⟩
  · exact absurd haccepts hrefuses.not_accepts
  · obtain ⟨rfl, rfl, -⟩ := hrefuses.unique hstop
    exact hexecuted

end CommandLine

end SchemaDraft
