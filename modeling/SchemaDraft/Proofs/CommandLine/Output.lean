import SchemaDraft.Proofs.Blueprint.Outcome
import SchemaDraft.Proofs.Database.Execution

/-!
What the command line prints when it prints statements. Log and script share the standard output:
first the lines of the log that are asked for, then the script, and nothing else. The statements are
those that applying the same files would execute.
-/

namespace SchemaDraft

/-- What is logged at the debugging level when a command is rendered. -/
def Command.debugLog (table : String) (command : Command) : List LogEntry :=
  match command.render Postgres.dialect table with
  | .ok rendering => rendering.statements.map (statementEntry table command.kind)
  | .error _ => []

def Blueprint.debugLog (b : Blueprint) : List LogEntry :=
  b.resolvedCommands.flatMap (Command.debugLog b.table)

def loadedEntry (path : String) (count : Nat) : LogEntry :=
  ⟨.debug, "Loaded blueprints", [⟨"path", path, false⟩, ⟨"count", count.repr, false⟩]⟩

/-- What is logged at the debugging level when a file is loaded and compiled. -/
def SourceFile.debugLog (file : SourceFile) : List LogEntry :=
  match file.load with
  | .ok blueprints =>
    loadedEntry file.path blueprints.length :: blueprints.flatMap Blueprint.debugLog
  | .error _ => []

/-- The entries of a log that are not below the debugging level. -/
def debugging (log : List LogEntry) : List LogEntry :=
  log.filter fun entry => LogLevel.debug.rank ≤ entry.level.rank

section Logs

variable {b : Blueprint} {file : SourceFile} {files : List SourceFile} {path : String}
  {statements : List String} {compiled : List CompiledBlueprint}

theorem debugging_append (log others : List LogEntry) :
    debugging (log ++ others) = debugging log ++ debugging others :=
  List.filter_append _ _

/-- The text of a predicate is logged below the debugging level. -/
theorem debugging_events (table kind : String) (rendering : Rendering) :
    debugging ((rendering.events table kind).map CompileEvent.logEntry) =
      rendering.statements.map (statementEntry table kind) := by
  have hpredicate : debugging (rendering.predicate.toList.map predicateEntry) = [] := by
    cases rendering.predicate <;> rfl
  have hstatements : debugging (rendering.statements.map (statementEntry table kind)) =
      rendering.statements.map (statementEntry table kind) := by
    apply List.filter_eq_self.mpr
    intro entry hentry
    obtain ⟨sql, -, rfl⟩ := List.mem_map.mp hentry
    rfl
  rw [rendering.map_logEntry_events, debugging_append, hpredicate, hstatements, List.nil_append]

theorem debugging_renderingEvents {table : String} {commands : List Command}
    {renderings : List Rendering}
    (h : Blueprint.RendersTo Postgres.dialect table commands renderings) :
    debugging ((Blueprint.renderingEvents table commands renderings).map CompileEvent.logEntry) =
        commands.flatMap (Command.debugLog table) ∧
      loggedStatements (commands.flatMap (Command.debugLog table)) =
        renderings.flatMap Rendering.statements := by
  unfold Blueprint.RendersTo at h
  induction h with
  | nil => exact ⟨rfl, rfl⟩
  | @cons command rendering commands renderings hcommand _ ih =>
    have hlog : command.debugLog table =
        rendering.statements.map (statementEntry table command.kind) := by
      rw [Command.debugLog, hcommand]
    have hevents : Blueprint.renderingEvents table (command :: commands) (rendering :: renderings) =
        rendering.events table command.kind ++
          Blueprint.renderingEvents table commands renderings := by
      simp [Blueprint.renderingEvents]
    constructor
    · rw [hevents, List.map_append, debugging_append, debugging_events, ih.1, List.flatMap_cons,
        hlog]
    · rw [List.flatMap_cons, List.flatMap_cons, loggedStatements_append, hlog,
        loggedStatements_map_statementEntry, ih.2]

/-- A batch that is finished has compiled to this, and this is what it logged at the debugging
level; the statements in the log are those that it compiled to. -/
structure Batch.Logs (batch : Batch) (compiled : List CompiledBlueprint) (log : List LogEntry) :
    Prop where
  result : batch.result = .ok compiled
  entries : debugging (batch.events.map DocumentEvent.logEntry) = log
  statements : loggedStatements log = allStatements compiled

namespace Batch

theorem Logs.andThen {first second : Batch} {before after : List CompiledBlueprint}
    {log others : List LogEntry} (hfirst : first.Logs before log)
    (hsecond : second.Logs after others) :
    (first.andThen second).Logs (before ++ after) (log ++ others) := by
  obtain ⟨hbefore, rfl, hlogged⟩ := hfirst
  obtain ⟨hafter, rfl, hloggedAfter⟩ := hsecond
  refine ⟨result_andThen_eq_ok.mpr ⟨before, after, hbefore, hafter, rfl⟩, ?_, ?_⟩
  · simp only [Batch.andThen, hbefore, List.map_append, debugging_append]
  · rw [loggedStatements_append, hlogged, hloggedAfter]
    exact List.flatMap_append.symm

theorem logs_ofBlueprint {b : Blueprint} (h : (ofBlueprint path b).result = .ok compiled) :
    (ofBlueprint path b).Logs compiled b.debugLog := by
  obtain ⟨statements, hcompile⟩ := exists_result_ofBlueprint.mp ⟨compiled, h⟩
  obtain ⟨hfaults, renderings, hrenders, rfl⟩ := Blueprint.compile_eq_ok.mp hcompile
  have hcompilation : b.compilation Postgres.dialect =
      ⟨.ok (renderings.flatMap Rendering.statements),
        Blueprint.renderingEvents b.table b.resolvedCommands renderings⟩ := by
    rw [Blueprint.compilation_of_faultless hfaults, Blueprint.renderCommands_of_rendersTo hrenders]
  obtain ⟨hentries, hstatements⟩ := debugging_renderingEvents hrenders
  simp only [ofBlueprint, hcompilation] at h ⊢
  refine ⟨h, ?_, ?_⟩
  · rw [List.map_map]
    exact hentries
  · obtain rfl := Except.ok.inj h
    simpa [allStatements, Blueprint.debugLog] using hstatements

theorem logs_ofBlueprints {blueprints : List Blueprint}
    (h : (ofBlueprints path blueprints).result = .ok compiled) :
    (ofBlueprints path blueprints).Logs compiled (blueprints.flatMap Blueprint.debugLog) := by
  induction blueprints generalizing compiled with
  | nil =>
    obtain rfl := Except.ok.inj h
    exact ⟨rfl, rfl, rfl⟩
  | cons b blueprints ih =>
    obtain ⟨before, after, hbefore, hafter, rfl⟩ := result_andThen_eq_ok.mp h
    exact (logs_ofBlueprint hbefore).andThen (ih hafter)

theorem logs_ofFile (h : (ofFile file).result = .ok compiled) :
    (ofFile file).Logs compiled file.debugLog := by
  cases hload : file.load with
  | error e => simp [ofFile, hload] at h
  | ok blueprints =>
    simp only [ofFile, SourceFile.debugLog, hload] at h ⊢
    obtain ⟨-, hentries, hstatements⟩ := logs_ofBlueprints h
    exact ⟨h, congrArg (loadedEntry file.path blueprints.length :: ·) hentries, hstatements⟩

theorem logs_ofFiles (h : (ofFiles files).result = .ok compiled) :
    (ofFiles files).Logs compiled (files.flatMap SourceFile.debugLog) := by
  induction files generalizing compiled with
  | nil =>
    obtain rfl := Except.ok.inj h
    exact ⟨rfl, rfl, rfl⟩
  | cons file files ih =>
    obtain ⟨before, after, hbefore, hafter, rfl⟩ := result_andThen_eq_ok.mp h
    exact (logs_ofFile hbefore).andThen (ih hafter)

end Batch

/-- Nothing is logged above the debugging level while files are compiled. -/
theorem lines_info_map_logEntry (events : List DocumentEvent) :
    LogEntry.lines .info (events.map DocumentEvent.logEntry) = "" := by
  have hnone : (events.map DocumentEvent.logEntry).filter
      (fun entry => LogLevel.info.rank ≤ entry.level.rank) = [] := by
    apply List.filter_eq_nil_iff.mpr
    intro entry hentry
    obtain ⟨event, -, rfl⟩ := List.mem_map.mp hentry
    rcases event with ⟨path, count⟩ | ⟨sql⟩ | ⟨table, kind, sql⟩ <;>
      simp [DocumentEvent.logEntry, CompileEvent.logEntry, LogLevel.rank]
  rw [LogEntry.lines, hnone]
  rfl

end Logs

namespace CommandLine

/-- Whether the request is to print statements: to compile files, or to apply them without executing
anything. -/
def Request.prints : Request → Bool
  | .compile _ | .apply _ true => true
  | _ => false

/-- What is logged before the statements are printed. -/
def Request.announcement : Request → List LogEntry
  | .apply _ true => [dryRunEntry]
  | _ => []

theorem withFiles_of_ok {s : Surroundings} {options : Options} {paths : List String}
    {compiled : List CompiledBlueprint} (h : compileFiles (s.files paths) = .ok compiled)
    (go : List CompiledBlueprint → Outcome) :
    withFiles s options paths go = (go compiled).after (String.join
      ((if options.verbose then (s.files paths).flatMap SourceFile.debugLog else []).map
        LogEntry.line)) := by
  obtain ⟨hresult, hentries, -⟩ := Batch.logs_ofFiles h
  have hlines : LogEntry.lines (leastLevel options)
      ((Batch.ofFiles (s.files paths)).events.map DocumentEvent.logEntry) =
        String.join ((if options.verbose then (s.files paths).flatMap SourceFile.debugLog
          else []).map LogEntry.line) := by
    rw [leastLevel]
    split_ifs
    · rw [← hentries]
      rfl
    · exact lines_info_map_logEntry _
  rw [Surroundings.files] at hresult hlines
  simp only [withFiles, hresult, hlines]
  rfl

theorem perform_of_prints {s : Surroundings} {options : Options} {request : Request}
    {compiled : List CompiledBlueprint} (hprints : request.prints = true)
    (hcompiled : compileFiles (s.files request.paths) = .ok compiled) :
    perform s ⟨options, request⟩ =
      { output := String.join
          (((if options.verbose then (s.files request.paths).flatMap SourceFile.debugLog else []) ++
            request.announcement).map LogEntry.line) ++ renderScript compiled } := by
  cases request with
  | compile paths =>
    have hnone : (Request.compile paths).announcement = [] := rfl
    rw [hnone, List.append_nil]
    exact withFiles_of_ok hcompiled _
  | apply paths dryRun =>
    cases dryRun with
    | false => cases hprints
    | true =>
      have hannounced : String.join ((Request.apply paths true).announcement.map LogEntry.line) =
          LogEntry.line dryRunEntry := by
        simp [Request.announcement]
      rw [List.map_append, String.join_append, hannounced, String.append_assoc]
      exact withFiles_of_ok hcompiled _
  | showIndex name => cases hprints

/-- Files that compile are compiled, or applied without executing anything, with the script of their
statements as the end of the output and the lines of the log in front of it: none if the log is not
verbose, apart from the announcement of a dry run; else one for each file and each statement, too,
and it is these statements that are in the script. Applying the files to a database that accepts
them executes the same statements. -/
theorem run_of_prints {s : Surroundings} {arguments : List String} {options : Options}
    {request : Request} {compiled : List CompiledBlueprint}
    (harguments : invocation {} arguments = .ok ⟨options, request⟩)
    (hprints : request.prints = true)
    (hcompiled : compileFiles (s.files request.paths) = .ok compiled) :
    let debugLog := (s.files request.paths).flatMap SourceFile.debugLog
    let log := (if options.verbose then debugLog else []) ++ request.announcement
    run s arguments = { output := String.join (log.map LogEntry.line) ++ renderScript compiled } ∧
      loggedStatements debugLog = allStatements compiled ∧
      ∀ db, s.Reaches options db → db.Accepts [] (allStatements compiled) →
        (perform s ⟨options, .apply request.paths false⟩).executed =
          executions (allStatements compiled) := by
  intro debugLog log
  refine ⟨?_, (Batch.logs_ofFiles hcompiled).statements, ?_⟩
  · simp only [run, harguments]
    exact perform_of_prints hprints hcompiled
  · intro db hdb haccepts
    rw [(perform_apply_of_ok hdb hcompiled).1]
    rcases applyAll_cases db compiled with
      ⟨-, -, hexecuted⟩ | ⟨before, sql, message, hrefuses, -, -⟩
    · exact hexecuted
    · exact absurd haccepts hrefuses.not_accepts

/-- A dry run with the log that it is asked for, and what applying the file would execute. -/
theorem run_of_prints_verbose :
    let text := "\x7b\"table\":\"t\",\"commands\":[\x7b\"command\":\"drop_table\"\x7d]\x7d"
    let db : Database := ⟨fun _ _ => .ok []⟩
    let s : Surroundings :=
      { file := fun _ => .bytes text.toUTF8
        defaultUrl := some "postgres://h/d"
        database := fun _ => some db }
    let arguments := ["--verbose", "apply", "--dry-run", "a.json"]
    let options : Options := { verbose := true }
    let request := Request.apply ["a.json"] true
    invocation {} arguments = .ok ⟨options, request⟩ ∧ request.prints = true ∧
      compileFiles (s.files request.paths) = .ok [⟨"a.json", "t", ["DROP TABLE t"]⟩] ∧
      run s arguments =
        { output := "DEBUG Loaded blueprints path=a.json count=1\n" ++
            "DEBUG Compiled statement table=t command=\"drop_table\" sql=DROP TABLE t\n" ++
            " INFO Dry run mode - SQL will be printed but not executed.\n" ++
            "DROP TABLE t;\n" } ∧
      s.Reaches options db ∧
      (perform s ⟨options, .apply ["a.json"] false⟩).executed = executions ["DROP TABLE t"] := by
  intro text db s arguments options request
  have harguments : invocation {} arguments = .ok ⟨options, request⟩ := by
    decide +kernel
  have hcompiled : compileFiles (s.files request.paths) =
      .ok [⟨"a.json", "t", ["DROP TABLE t"]⟩] := by
    decide +kernel
  have hlog : (s.files request.paths).flatMap SourceFile.debugLog =
      [loadedEntry "a.json" 1, statementEntry "t" "drop_table" "DROP TABLE t"] := by
    decide +kernel
  have hdb : s.Reaches options db := ⟨"postgres://h/d", rfl, by decide +kernel, rfl⟩
  have haccepts : db.Accepts [] ["DROP TABLE t"] :=
    Database.accepts_cons.mpr ⟨⟨[], rfl⟩, Database.accepts_nil⟩
  obtain ⟨hrun, -, hexecuted⟩ := run_of_prints harguments rfl hcompiled
  refine ⟨harguments, rfl, hcompiled, ?_, hdb, hexecuted db hdb haccepts⟩
  rw [hrun, hlog]
  exact congrArg (fun output => ({ output } : Outcome)) (by decide +kernel)

/-- The log is in the output: without being asked for in a dry run, and of a verbose compilation. -/
theorem run_prints_log :
    let text := "\x7b\"table\":\"t\",\"commands\":[\x7b\"command\":\"drop_table\"\x7d]\x7d"
    let s : Surroundings :=
      { file := fun _ => .bytes text.toUTF8, defaultUrl := none, database := fun _ => none }
    (¬ ∀ (s : Surroundings) arguments options (request : Request) compiled,
        invocation {} arguments = .ok ⟨options, request⟩ → request.prints = true →
          compileFiles (s.files request.paths) = .ok compiled →
            (run s arguments).output = renderScript compiled) ∧
      (run s ["apply", "--dry-run", "a.json"]).output =
        " INFO Dry run mode - SQL will be printed but not executed.\nDROP TABLE t;\n" ∧
      (run s ["--verbose", "compile", "a.json"]).output =
        "DEBUG Loaded blueprints path=a.json count=1\n" ++
          "DEBUG Compiled statement table=t command=\"drop_table\" sql=DROP TABLE t\n" ++
          "DROP TABLE t;\n" ∧
      renderScript [⟨"a.json", "t", ["DROP TABLE t"]⟩] = "DROP TABLE t;\n" := by
  intro text s
  have hdry : (run s ["apply", "--dry-run", "a.json"]).output =
      " INFO Dry run mode - SQL will be printed but not executed.\nDROP TABLE t;\n" := by
    decide +kernel
  refine ⟨?_, hdry, by decide +kernel, by decide +kernel⟩
  intro hall
  have hcompiled : compileFiles (s.files ["a.json"]) = .ok [⟨"a.json", "t", ["DROP TABLE t"]⟩] := by
    decide +kernel
  have hscript := hall s ["apply", "--dry-run", "a.json"] {} (.apply ["a.json"] true) _
    (by decide +kernel) rfl hcompiled
  rw [hdry] at hscript
  revert hscript
  decide +kernel

end CommandLine

end SchemaDraft
