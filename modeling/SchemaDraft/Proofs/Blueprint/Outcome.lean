import SchemaDraft.Document
import SchemaDraft.Proofs.Blueprint.Faults
import SchemaDraft.Proofs.Blueprint.Rendering
import SchemaDraft.Proofs.Condition.NormalForm

/-!
How compiling a blueprint ends, and what is logged on the way. A fault anywhere comes before
everything else and leaves no log. Without faults, the commands are rendered up to the first that
has no text; the log is that of the commands before it, which is all of them if there is none.
-/

namespace SchemaDraft

/-- The predicate of a command, if it is an index with one. -/
def Command.predicate? : Command → Option Condition
  | .createIndex index => index.predicate
  | _ => none

def predicateEntry (text : String) : LogEntry :=
  ⟨.trace, "Compiled predicate", [⟨"predicate", text, false⟩]⟩

def statementEntry (table kind sql : String) : LogEntry :=
  ⟨.debug, "Compiled statement",
    [⟨"table", table, false⟩, ⟨"command", kind, true⟩, ⟨"sql", sql, false⟩]⟩

/-- A command is rendered to these statements, and this is logged: the text of its predicate, if it
has one, and then every statement. -/
structure Command.Rendered (d : Dialect) (table : String) (command : Command)
    (statements : List String) (log : List LogEntry) : Prop where
  rendering : ∃ rendering, command.render d table = .ok rendering ∧
    rendering.statements = statements
  logged : ∃ predicates, List.Forall₂ (fun e text => Condition.render d e = .ok text)
      command.predicate?.toList predicates ∧
    log = predicates.map predicateEntry ++ statements.map (statementEntry table command.kind)

/-- Commands are rendered one by one, each with its statements and its log. -/
def RenderedEach (d : Dialect) (table : String) (commands : List Command)
    (rendered : List (List String × List LogEntry)) : Prop :=
  List.Forall₂ (fun c r => c.Rendered d table r.1 r.2) commands rendered

/-- How compiling commands ends, and what is logged until then. -/
inductive Outcome (d : Dialect) (table : String) (commands : List Command) :
    Except CompileError (List String) → List LogEntry → Prop where
  /-- The first command with a fault is refused for its first one. -/
  | refused {before after : List Command} {command : Command} {fault : StructureError}
      {others : List StructureError} (hcommands : commands = before ++ command :: after)
      (hbefore : ∀ c ∈ before, c.faults table = [])
      (hfault : command.faults table = fault :: others) :
      Outcome d table commands (.error (.structure fault)) []
  /-- The first command that has no text ends everything, and only what came before it is logged. -/
  | stopped {before after : List Command} {command : Command} {e : RenderError}
      {rendered : List (List String × List LogEntry)}
      (hfaultless : ∀ c ∈ commands, c.faults table = [])
      (hcommands : commands = before ++ command :: after)
      (hbefore : RenderedEach d table before rendered)
      (herror : command.render d table = .error e) :
      Outcome d table commands (.error (.render e)) (rendered.flatMap Prod.snd)
  | finished {rendered : List (List String × List LogEntry)}
      (hfaultless : ∀ c ∈ commands, c.faults table = [])
      (hall : RenderedEach d table commands rendered) :
      Outcome d table commands (.ok (rendered.flatMap Prod.fst)) (rendered.flatMap Prod.snd)

/-- The statements that a log tells of: the `sql` fields of its entries at the debugging level. -/
def loggedStatements (log : List LogEntry) : List String :=
  (log.filter (·.level = .debug)).flatMap fun entry =>
    (entry.fields.filter (·.name = "sql")).map LogField.value

variable {d : Dialect} {table : String} {command : Command} {commands : List Command}

theorem Index.predicate_of_render {index : Index} {sql : String} {predicate : Option String}
    (h : index.render d table = .ok (sql, predicate)) :
    List.Forall₂ (fun e text => Condition.render d e = .ok text) index.predicate.toList
      predicate.toList := by
  obtain ⟨hpredicate, -⟩ := render_eq_ok.mp h
  generalize index.predicate = condition at hpredicate
  cases hpredicate with
  | none => exact .nil
  | some htext => exact .cons htext .nil

theorem Command.predicate_of_render {rendering : Rendering}
    (h : command.render d table = .ok rendering) :
    List.Forall₂ (fun e text => Condition.render d e = .ok text) command.predicate?.toList
      rendering.predicate.toList := by
  cases command with
  | createIndex index =>
    simp only [Command.render, bind_eq_ok, pure_eq_ok] at h
    obtain ⟨⟨sql, predicate⟩, hindex, rfl⟩ := h
    exact Index.predicate_of_render hindex
  | createTable _ | addColumns _ | createTrigger _ | attachPartition _ _ =>
    simp only [Command.render, bind_eq_ok, pure_eq_ok] at h
    obtain ⟨_, -, rfl⟩ := h
    exact .nil
  | _ =>
    obtain rfl := Except.ok.inj h
    exact .nil

theorem Rendering.map_logEntry_events (table kind : String) (rendering : Rendering) :
    (rendering.events table kind).map CompileEvent.logEntry =
      rendering.predicate.toList.map predicateEntry ++
        rendering.statements.map (statementEntry table kind) := by
  simp only [Rendering.events, List.map_append, List.map_map]
  rfl

theorem Command.rendered_iff {statements : List String} {log : List LogEntry} :
    command.Rendered d table statements log ↔
      ∃ rendering, command.render d table = .ok rendering ∧ rendering.statements = statements ∧
        (rendering.events table command.kind).map CompileEvent.logEntry = log := by
  have hlog (rendering : Rendering) := rendering.map_logEntry_events table command.kind
  constructor
  · rintro ⟨⟨rendering, hrendering, rfl⟩, predicates, hpredicates, rfl⟩
    have hunique : Relator.RightUnique fun (e : Condition) text => e.render d = .ok text :=
      fun e s t hs ht => Except.ok.inj (hs.symm.trans ht)
    obtain rfl := List.right_unique_forall₂' hunique hpredicates (predicate_of_render hrendering)
    exact ⟨rendering, hrendering, rfl, hlog rendering⟩
  · rintro ⟨rendering, hrendering, rfl, rfl⟩
    exact ⟨⟨rendering, hrendering, rfl⟩, _, predicate_of_render hrendering, hlog rendering⟩

theorem loggedStatements_append (s t : List LogEntry) :
    loggedStatements (s ++ t) = loggedStatements s ++ loggedStatements t := by
  simp only [loggedStatements, List.filter_append, List.flatMap_append]

theorem loggedStatements_map_statementEntry (table kind : String) (statements : List String) :
    loggedStatements (statements.map (statementEntry table kind)) = statements := by
  induction statements with
  | nil => rfl
  | cons sql statements ih => exact congrArg (sql :: ·) ih

theorem loggedStatements_map_predicateEntry (predicates : List String) :
    loggedStatements (predicates.map predicateEntry) = [] := by
  induction predicates with
  | nil => rfl
  | cons text predicates ih => exact ih

theorem Command.Rendered.loggedStatements_eq {statements : List String} {log : List LogEntry}
    (h : command.Rendered d table statements log) : loggedStatements log = statements := by
  obtain ⟨predicates, -, rfl⟩ := h.logged
  rw [loggedStatements_append, loggedStatements_map_predicateEntry,
    loggedStatements_map_statementEntry, List.nil_append]

namespace RenderedEach

variable {rendered : List (List String × List LogEntry)}

theorem exists_renderings (h : RenderedEach d table commands rendered) :
    ∃ renderings, Blueprint.RendersTo d table commands renderings ∧
      renderings.flatMap Rendering.statements = rendered.flatMap Prod.fst ∧
      (Blueprint.renderingEvents table commands renderings).map CompileEvent.logEntry =
        rendered.flatMap Prod.snd := by
  unfold RenderedEach at h
  induction h with
  | nil => exact ⟨[], .nil, rfl, rfl⟩
  | cons hcommand _ ih =>
    obtain ⟨rendering, hrendering, hstatements, hlog⟩ := Command.rendered_iff.mp hcommand
    obtain ⟨renderings, hall, hrest, hrestLog⟩ := ih
    refine ⟨rendering :: renderings, .cons hrendering hall, ?_, ?_⟩
    · rw [List.flatMap_cons, List.flatMap_cons, hstatements, hrest]
    · rw [List.flatMap_cons, ← hlog, ← hrestLog]
      simp [Blueprint.renderingEvents]

theorem exists_of_rendersTo {renderings : List Rendering}
    (h : Blueprint.RendersTo d table commands renderings) :
    ∃ rendered, RenderedEach d table commands rendered := by
  unfold RenderedEach
  rw [exists_forall₂]
  intro command hcommand
  obtain ⟨rendering, hrendering⟩ := exists_forall₂.mp ⟨_, h⟩ command hcommand
  exact ⟨(_, _), Command.rendered_iff.mpr ⟨rendering, hrendering, rfl, rfl⟩⟩

theorem loggedStatements_eq (h : RenderedEach d table commands rendered) :
    loggedStatements (rendered.flatMap Prod.snd) = rendered.flatMap Prod.fst := by
  unfold RenderedEach at h
  induction h with
  | nil => rfl
  | cons hcommand _ ih =>
    rw [List.flatMap_cons, List.flatMap_cons, loggedStatements_append, ih,
      hcommand.loggedStatements_eq]

end RenderedEach

namespace Outcome

variable {result : Except CompileError (List String)} {log : List LogEntry}

/-- An outcome is what compiling gives. -/
theorem eq_compilation {b : Blueprint} (htable : b.table ≠ "")
    (h : Outcome d b.table b.resolvedCommands result log) :
    (b.compilation d).result = result ∧
      (b.compilation d).events.map CompileEvent.logEntry = log := by
  cases h with
  | refused hcommands hbefore hfault =>
    have hnone : _ = [] := List.flatMap_eq_nil_iff.mpr hbefore
    have hfaults := Blueprint.faults_of_table htable
    rw [hcommands, List.flatMap_append, List.flatMap_cons, hnone, hfault, List.nil_append,
      List.cons_append] at hfaults
    rw [Blueprint.compilation_of_fault hfaults]
    exact ⟨rfl, rfl⟩
  | stopped hfaultless hcommands hbefore herror =>
    have hfaults := Blueprint.faults_eq_nil.mpr ⟨htable, hfaultless⟩
    obtain ⟨renderings, hrenders, -, hlog⟩ := RenderedEach.exists_renderings hbefore
    rw [Blueprint.compilation_of_faultless hfaults, hcommands,
      Blueprint.renderCommands_of_error hrenders herror]
    exact ⟨rfl, hlog⟩
  | finished hfaultless hall =>
    have hfaults := Blueprint.faults_eq_nil.mpr ⟨htable, hfaultless⟩
    obtain ⟨renderings, hrenders, hstatements, hlog⟩ := RenderedEach.exists_renderings hall
    rw [Blueprint.compilation_of_faultless hfaults, Blueprint.renderCommands_of_rendersTo hrenders]
    exact ⟨congrArg Except.ok hstatements, hlog⟩

/-- There is always an outcome. -/
theorem exists_outcome (d : Dialect) (table : String) (commands : List Command) :
    ∃ result log, Outcome d table commands result log := by
  rcases exists_first_fault table commands with
    hfaultless | ⟨before, command, after, fault, others, hcommands, hbefore, hfault⟩
  · rcases Blueprint.exists_rendersTo_or_error d table commands with
      ⟨renderings, hrenders⟩ | ⟨before, command, after, renderings, e, hcommands, hrenders, herror⟩
    · obtain ⟨rendered, hall⟩ := RenderedEach.exists_of_rendersTo hrenders
      exact ⟨_, _, .finished hfaultless hall⟩
    · obtain ⟨rendered, hbefore⟩ := RenderedEach.exists_of_rendersTo hrenders
      exact ⟨_, _, .stopped hfaultless hcommands hbefore herror⟩
  · exact ⟨_, _, .refused hcommands hbefore hfault⟩

end Outcome

namespace Blueprint

/-- Compiling a blueprint with a table name ends in the outcome of its commands and in no other, and
the statements that are logged are those that are returned. -/
theorem compilation_outcome {b : Blueprint} (htable : b.table ≠ "") (d : Dialect) :
    (∀ result log, Outcome d b.table b.resolvedCommands result log ↔
      (b.compilation d).result = result ∧
        (b.compilation d).events.map CompileEvent.logEntry = log) ∧
    ∀ statements, (b.compilation d).result = .ok statements →
      loggedStatements ((b.compilation d).events.map CompileEvent.logEntry) = statements := by
  obtain ⟨result, log, houtcome⟩ := Outcome.exists_outcome d b.table b.resolvedCommands
  obtain ⟨hresult, hlog⟩ := houtcome.eq_compilation htable
  rw [hresult, hlog]
  refine ⟨fun result' log' => ⟨fun h => ?_, ?_⟩, ?_⟩
  · rw [← hresult, ← hlog]
    exact h.eq_compilation htable
  · rintro ⟨rfl, rfl⟩
    exact houtcome
  · rintro statements rfl
    cases houtcome with
    | finished _ hall => exact RenderedEach.loggedStatements_eq hall

/-- A command that adds a column has a text for it but none for its comment, so nothing is logged
of it, and what comes later is not looked at. -/
theorem compilation_outcome_stopped :
    let index : Index :=
      { name := some "one", columns := ["x"], unique := true,
        predicate := some (.nullCheck "x" false) }
    let column : Column := { name := "y", type := .text, comment := some "\x00" }
    let b : Blueprint :=
      { table := "t", commands := [.createIndex index, .addColumns [column], .dropTable false] }
    let sql := "CREATE UNIQUE INDEX one ON t USING btree (x) WHERE (x IS NOT NULL)"
    b.table ≠ "" ∧
      (b.compilation Postgres.dialect).result =
        .error (.render (.unsupportedLiteral (.columnComment "y") "text contains a NUL byte")) ∧
      (b.compilation Postgres.dialect).events.map CompileEvent.logEntry =
        [predicateEntry "x IS NOT NULL", statementEntry "t" "create_index" sql] := by
  intro index column b sql
  have htable : b.table ≠ "" := by decide
  have hcommands : b.resolvedCommands =
      [.createIndex index] ++ .addColumns [column] :: [.dropTable false] := rfl
  obtain ⟨hfaultless, hrender, hpredicate, herror⟩ :
      (∀ c ∈ b.resolvedCommands, c.faults b.table = []) ∧
        (Command.createIndex index).render Postgres.dialect b.table =
          .ok ⟨some "x IS NOT NULL", [sql]⟩ ∧
        (Condition.nullCheck "x" false).render Postgres.dialect = .ok "x IS NOT NULL" ∧
        (Command.addColumns [column]).render Postgres.dialect b.table =
          .error (.unsupportedLiteral (.columnComment "y") "text contains a NUL byte") := by
    decide +kernel
  have hbefore : RenderedEach Postgres.dialect b.table [.createIndex index]
      [([sql], [predicateEntry "x IS NOT NULL", statementEntry "t" "create_index" sql])] :=
    .cons ⟨⟨_, hrender, rfl⟩, ["x IS NOT NULL"], .cons hpredicate .nil, rfl⟩ .nil
  have houtcome := Outcome.stopped hfaultless hcommands hbefore herror
  exact ⟨htable, ((compilation_outcome htable Postgres.dialect).1 _ _).mp houtcome⟩

end Blueprint

end SchemaDraft
