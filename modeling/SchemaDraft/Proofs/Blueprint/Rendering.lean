import SchemaDraft.Blueprint.Compile
import SchemaDraft.Proofs.Statement.Rendering

/-!
How far rendering a list of commands gets, and what it reports. From any transcript on, a command
that has a text puts its statements and events behind what is there, and a command that has none
leaves no event of its own. So either every command of a list is rendered, or there is a first one
that is not; the commands before that one are rendered whatever follows them, and what they report
is kept.
-/

namespace SchemaDraft

namespace Compiling

/-- From any transcript on, the step ends with this value, and what it puts down and reports comes
behind what is there. -/
def Adds {α : Type} (step : Compiling α) (a : α) (statements : List String)
    (events : List CompileEvent) : Prop :=
  ∀ t : Transcript, step.run t = .ok a ⟨t.statements ++ statements, t.events ++ events⟩

/-- From any transcript on, the step is refused, and this is reported before. What it has put down
until then is not said. -/
def Refuses {α : Type} (step : Compiling α) (e : RenderError) (events : List CompileEvent) : Prop :=
  ∀ t : Transcript, ∃ statements, step.run t = .error e ⟨statements, t.events ++ events⟩

variable {α β : Type} {step : Compiling α} {next : α → Compiling β} {a : α} {b : β}
  {e : RenderError} {statements others : List String} {events later : List CompileEvent}

theorem adds_pure (a : α) : Adds (pure a) a [] [] := by
  intro t
  simp only [List.append_nil]
  rfl

theorem Adds.bind (h : Adds step a statements events) (hnext : Adds (next a) b others later) :
    Adds (step >>= next) b (statements ++ others) (events ++ later) := by
  intro t
  simp only [EStateM.run_bind, h t, hnext _, List.append_assoc]

theorem Adds.bind_refuses (h : Adds step a statements events) (hnext : Refuses (next a) e later) :
    Refuses (step >>= next) e (events ++ later) := by
  intro t
  obtain ⟨rest, hrest⟩ := hnext ⟨t.statements ++ statements, t.events ++ events⟩
  refine ⟨rest, ?_⟩
  simp only [EStateM.run_bind, h t, hrest, List.append_assoc]

theorem Refuses.bind (h : Refuses step e events) : Refuses (step >>= next) e events := by
  intro t
  obtain ⟨rest, hrest⟩ := h t
  refine ⟨rest, ?_⟩
  simp only [EStateM.run_bind, hrest]

theorem adds_putDown (statements : List String) :
    Adds (putDown statements) () statements [] := by
  intro t
  simp only [List.append_nil]
  rfl

theorem adds_report (event : CompileEvent) : Adds (report event) () [] [event] := by
  intro t
  simp only [List.append_nil]
  rfl

theorem adds_ofExcept {x : Except RenderError α} (h : x = .ok a) :
    Adds (MonadExcept.ofExcept x) a [] [] := by
  subst h
  exact adds_pure a

theorem refuses_ofExcept {x : Except RenderError α} (h : x = .error e) :
    Refuses (MonadExcept.ofExcept x : Compiling α) e [] := by
  subst h
  intro t
  refine ⟨t.statements, ?_⟩
  simp only [List.append_nil]
  rfl

theorem adds_forM_report {γ : Type} (event : γ → CompileEvent) (cs : List γ) :
    Adds (cs.forM fun c => report (event c)) () [] (cs.map event) := by
  induction cs with
  | nil => exact adds_pure ()
  | cons c cs ih => exact (adds_report (event c)).bind ih

end Compiling

open Compiling

variable {d : Dialect} {table : String}

/-- The events of one rendered command. -/
def Rendering.events (table kind : String) (rendering : Rendering) : List CompileEvent :=
  rendering.predicate.toList.map .predicateRendered ++
    rendering.statements.map (.statementRendered table kind)

theorem Condition.adds_compile {predicate : Condition} {text : String}
    (h : predicate.render d = .ok text) :
    Adds (predicate.compile d) text [] [.predicateRendered text] :=
  (adds_ofExcept h).bind ((adds_report _).bind (adds_pure text))

namespace Index

variable {index : Index}

theorem adds_compile {sql : String} {predicate : Option String}
    (h : index.render d table = .ok (sql, predicate)) :
    Adds (index.compile d table) sql [] (predicate.toList.map .predicateRendered) := by
  obtain ⟨hpredicate, rfl⟩ := render_eq_ok.mp h
  unfold compile
  generalize index.predicate = condition at hpredicate
  cases hpredicate with
  | none => exact (adds_pure none).bind (adds_pure _)
  | some htext =>
    have hmapped : Adds ((some _).mapM (Condition.compile d)) (some _) [] [.predicateRendered _] :=
      (Condition.adds_compile htext).bind (adds_pure _)
    exact hmapped.bind (adds_pure _)

theorem refuses_compile {e : RenderError} (h : index.render d table = .error e) :
    Refuses (index.compile d table) e [] := by
  unfold render at h
  unfold compile
  generalize index.predicate = condition at h
  cases condition with
  | none => cases h
  | some predicate =>
    have htext : predicate.render d = .error e := eq_error_of_bind h fun _ => ⟨_, rfl⟩
    have hpredicate : Refuses (predicate.compile d) e [] := (refuses_ofExcept htext).bind
    exact hpredicate.bind.bind

end Index

namespace Command

variable {command : Command}

/-- A command that has a text puts its statements down and reports its predicate. -/
theorem adds_compile {rendering : Rendering} (h : command.render d table = .ok rendering) :
    Adds (command.compile d table) () rendering.statements
      (rendering.predicate.toList.map .predicateRendered) := by
  cases command with
  | createTable definition =>
    simp only [render, CreateTable.statements, bind_eq_ok, pure_eq_ok] at h
    obtain ⟨_, ⟨sql, hsql, comments, hcomments, rfl⟩, rfl⟩ := h
    exact (adds_ofExcept hsql).bind ((adds_putDown [sql]).bind
      ((adds_ofExcept hcomments).bind (adds_putDown comments)))
  | addColumns columns =>
    simp only [render, Column.additionStatements, bind_eq_ok, pure_eq_ok] at h
    obtain ⟨_, ⟨addition, haddition, comments, hcomments, rfl⟩, rfl⟩ := h
    exact (adds_ofExcept haddition).bind ((adds_putDown addition.toList).bind
      ((adds_ofExcept hcomments).bind (adds_putDown comments)))
  | createIndex index =>
    simp only [render, bind_eq_ok, pure_eq_ok] at h
    obtain ⟨⟨sql, predicate⟩, hindex, rfl⟩ := h
    have hcompile : Adds (compile d table (.createIndex index)) () [sql]
        (predicate.toList.map .predicateRendered ++ []) :=
      (Index.adds_compile hindex).bind (adds_putDown [sql])
    simpa only [List.append_nil] using hcompile
  | createTrigger _ | attachPartition _ _ =>
    obtain ⟨sql, -, hrest⟩ := bind_eq_ok.mp h
    obtain rfl := Except.ok.inj hrest
    exact (adds_ofExcept h).bind (adds_putDown [sql])
  | _ =>
    obtain rfl := Except.ok.inj h
    exact (adds_ofExcept h).bind (adds_putDown _)

/-- A command that has no text reports nothing, although it may have put statements down. -/
theorem refuses_compile {e : RenderError} (h : command.render d table = .error e) :
    Refuses (command.compile d table) e [] := by
  cases command with
  | createTable definition =>
    have hstatements : definition.statements d table = .error e :=
      eq_error_of_bind h fun _ => ⟨_, rfl⟩
    rcases bind_eq_error.mp hstatements with hsql | ⟨sql, hsql, hrest⟩
    · exact (refuses_ofExcept hsql).bind
    · have hcomments := eq_error_of_bind hrest fun _ => ⟨_, rfl⟩
      exact (adds_ofExcept hsql).bind_refuses ((adds_putDown [sql]).bind_refuses
        (refuses_ofExcept hcomments).bind)
  | addColumns columns =>
    have hstatements : Column.additionStatements d table columns = .error e :=
      eq_error_of_bind h fun _ => ⟨_, rfl⟩
    rcases bind_eq_error.mp hstatements with haddition | ⟨addition, haddition, hrest⟩
    · exact (refuses_ofExcept haddition).bind
    · have hcomments := eq_error_of_bind hrest fun _ => ⟨_, rfl⟩
      exact (adds_ofExcept haddition).bind_refuses ((adds_putDown addition.toList).bind_refuses
        (refuses_ofExcept hcomments).bind)
  | createIndex index =>
    have hindex : index.render d table = .error e := eq_error_of_bind h fun _ => ⟨_, rfl⟩
    exact (Index.refuses_compile hindex).bind
  | _ => exact (refuses_ofExcept h).bind

end Command

namespace Blueprint

variable {command : Command} {commands : List Command} {renderings : List Rendering}

/-- What a command has put down is found again behind what was there before it. -/
theorem adds_compileCommand {rendering : Rendering} (h : command.render d table = .ok rendering) :
    Adds (compileCommand d table command) () rendering.statements
      (rendering.events table command.kind) := by
  intro t
  have hadds := Command.adds_compile h t
  have hreported := adds_forM_report (.statementRendered table command.kind) rendering.statements
  simp only [compileCommand, EStateM.run_bind, EStateM.run_get, hadds, List.drop_left, hreported _,
    Rendering.events, List.append_nil, List.append_assoc]

theorem refuses_compileCommand {e : RenderError} (h : command.render d table = .error e) :
    Refuses (compileCommand d table command) e [] := by
  intro t
  obtain ⟨statements, hrefused⟩ := Command.refuses_compile h t
  refine ⟨statements, ?_⟩
  simp only [compileCommand, EStateM.run_bind, EStateM.run_get, hrefused]

/-- The commands are rendered to these renderings, one each. -/
def RendersTo (d : Dialect) (table : String) (commands : List Command)
    (renderings : List Rendering) : Prop :=
  List.Forall₂ (fun command rendering => command.render d table = .ok rendering) commands renderings

/-- What rendered commands report, in order. -/
def renderingEvents (table : String) (commands : List Command) (renderings : List Rendering) :
    List CompileEvent :=
  (commands.zipWith (fun command rendering => rendering.events table command.kind)
    renderings).flatten

theorem adds_compileCommands (h : RendersTo d table commands renderings) :
    Adds (commands.forM (compileCommand d table)) () (renderings.flatMap Rendering.statements)
      (renderingEvents table commands renderings) := by
  unfold RendersTo at h
  induction h with
  | nil => exact adds_pure ()
  | cons hcommand _ ih => exact (adds_compileCommand hcommand).bind ih

theorem refuses_compileCommands {before after : List Command} {e : RenderError}
    (h : RendersTo d table before renderings) (herror : command.render d table = .error e) :
    Refuses ((before ++ command :: after).forM (compileCommand d table)) e
      (renderingEvents table before renderings) := by
  unfold RendersTo at h
  induction h with
  | nil => exact (refuses_compileCommand herror).bind
  | cons hcommand _ ih => exact (adds_compileCommand hcommand).bind_refuses ih

theorem renderCommands_of_rendersTo (h : RendersTo d table commands renderings) :
    renderCommands d table commands =
      ⟨.ok (renderings.flatMap Rendering.statements),
        renderingEvents table commands renderings⟩ := by
  unfold renderCommands
  rw [adds_compileCommands h]
  rfl

theorem renderCommands_of_error {before after : List Command} {e : RenderError}
    (h : RendersTo d table before renderings) (herror : command.render d table = .error e) :
    renderCommands d table (before ++ command :: after) =
      ⟨.error (.render e), renderingEvents table before renderings⟩ := by
  obtain ⟨statements, hrun⟩ := refuses_compileCommands h herror {}
  unfold renderCommands
  rw [hrun]
  rfl

theorem exists_rendersTo_or_error (d : Dialect) (table : String) (commands : List Command) :
    (∃ renderings, RendersTo d table commands renderings) ∨
      ∃ before command after renderings e, commands = before ++ command :: after ∧
        RendersTo d table before renderings ∧ command.render d table = .error e := by
  induction commands with
  | nil => exact .inl ⟨[], .nil⟩
  | cons command commands ih =>
    cases hcommand : command.render d table with
    | error e => exact .inr ⟨[], command, commands, [], e, rfl, .nil, hcommand⟩
    | ok rendering =>
      rcases ih with ⟨renderings, hall⟩ | ⟨before, failing, after, renderings, e, rfl, hall, herror⟩
      · exact .inl ⟨rendering :: renderings, .cons hcommand hall⟩
      · exact .inr ⟨command :: before, failing, after, rendering :: renderings, e, rfl,
          .cons hcommand hall, herror⟩

/-- Rendering commands, from the first one on. -/
theorem renderCommands_cons (d : Dialect) (table : String) (command : Command)
    (commands : List Command) :
    renderCommands d table (command :: commands) =
      match command.render d table with
      | .error e => ⟨.error (.render e), []⟩
      | .ok rendering =>
        ⟨(renderCommands d table commands).result.map (rendering.statements ++ ·),
          rendering.events table command.kind ++ (renderCommands d table commands).events⟩ := by
  cases hcommand : command.render d table with
  | error e => exact renderCommands_of_error .nil hcommand
  | ok rendering =>
    rcases exists_rendersTo_or_error d table commands with
      ⟨renderings, hall⟩ | ⟨before, failing, after, renderings, e, rfl, hbefore, herror⟩
    · rw [renderCommands_of_rendersTo hall, renderCommands_of_rendersTo (.cons hcommand hall)]
      rfl
    · rw [renderCommands_of_error hbefore herror, ← List.cons_append,
        renderCommands_of_error (.cons hcommand hbefore) herror]
      rfl

theorem compilation_of_fault {b : Blueprint} {fault : StructureError}
    {others : List StructureError} (h : b.faults = fault :: others) :
    b.compilation d = ⟨.error (.structure fault), []⟩ := by
  rw [compilation, h]

theorem compilation_of_faultless {b : Blueprint} (h : b.faults = []) :
    b.compilation d = renderCommands d b.table b.resolvedCommands := by
  rw [compilation, h]

/-- A blueprint has statements exactly if it has no faults and all its commands are rendered. -/
theorem compile_eq_ok {b : Blueprint} {statements : List String} :
    b.compile d = .ok statements ↔
      b.faults = [] ∧ ∃ renderings, RendersTo d b.table b.resolvedCommands renderings ∧
        renderings.flatMap Rendering.statements = statements := by
  unfold compile
  cases hfaults : b.faults with
  | cons fault others => simp [compilation_of_fault hfaults]
  | nil =>
    rw [compilation_of_faultless hfaults]
    constructor
    · intro h
      rcases exists_rendersTo_or_error d b.table b.resolvedCommands with
        ⟨renderings, hall⟩ | ⟨before, command, after, renderings, e, hsplit, hbefore, herror⟩
      · rw [renderCommands_of_rendersTo hall] at h
        exact ⟨rfl, renderings, hall, Except.ok.inj h⟩
      · rw [hsplit, renderCommands_of_error hbefore herror] at h
        cases h
    · rintro ⟨-, renderings, hall, rfl⟩
      rw [renderCommands_of_rendersTo hall]

end SchemaDraft.Blueprint
