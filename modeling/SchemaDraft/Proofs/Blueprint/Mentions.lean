import SchemaDraft.Proofs.Blueprint.Names
import SchemaDraft.Proofs.Blueprint.Rendering
import SchemaDraft.Proofs.Statement.Rendering

/-!
Where the names of a blueprint stand. Every name that a command has is spelled in one of its
statements.
-/

namespace SchemaDraft

/-- A text is a piece of another. -/
def StandsIn (piece text : String) : Prop := piece.toList <:+: text.toList

namespace StandsIn

variable {piece text : String}

@[grind .]
theorem refl (text : String) : StandsIn text text := List.infix_refl _

@[grind ←]
theorem left (h : StandsIn piece text) (rest : String) : StandsIn piece (text ++ rest) := by
  rw [StandsIn, String.toList_append]
  exact h.trans (List.prefix_append _ _).isInfix

@[grind ←]
theorem right (front : String) (h : StandsIn piece text) : StandsIn piece (front ++ text) := by
  rw [StandsIn, String.toList_append]
  exact h.trans (List.suffix_append _ _).isInfix

theorem trans {between : String} (h : StandsIn piece between) (hbetween : StandsIn between text) :
    StandsIn piece text :=
  List.IsInfix.trans h hbetween

@[grind ←]
theorem at_end (front piece : String) : StandsIn piece (front ++ piece) := (refl piece).right front

/-- Five steps at once, since a search from the end of a long text takes only a few steps. -/
@[grind ←]
theorem left_of_five (h : StandsIn piece text) (a b c d e : String) :
    StandsIn piece (text ++ a ++ b ++ c ++ d ++ e) :=
  ((((h.left a).left b).left c).left d).left e

theorem intercalate {separator : String} {texts : List String} (h : StandsIn piece text)
    (hmem : text ∈ texts) : StandsIn piece (separator.intercalate texts) := by
  induction texts with
  | nil => cases hmem
  | cons first texts ih =>
    cases texts with
    | nil =>
      obtain rfl := List.mem_singleton.mp hmem
      simpa using h
    | cons next texts =>
      rw [String.intercalate_cons_cons]
      rcases List.mem_cons.mp hmem with rfl | hmem
      · exact (h.left _).left _
      · exact (ih hmem).right _

end StandsIn

variable {d : Dialect} {table : String}

theorem Dialect.standsIn_quoteAll {names : List String} :
    ∀ name ∈ names, StandsIn (d.quoteIdentifier name) (d.quoteAll names) :=
  fun _ hname => (StandsIn.refl _).intercalate (List.mem_map_of_mem hname)

theorem Condition.standsIn_of_render {e : Condition} {text : String} (h : e.render d = .ok text) :
    ∀ name ∈ e.names, StandsIn (d.quoteIdentifier name) text := by
  induction e generalizing text with
  | comparison column operator value =>
    simp only [render, bind_eq_ok, pure_eq_ok] at h
    obtain ⟨literal, -, rfl⟩ := h
    simp only [names, List.forall_mem_singleton]
    grind
  | columnComparison left operator right =>
    simp only [render, pure_eq_ok] at h
    subst h
    rintro name (_ | ⟨_, _ | ⟨_, ⟨⟩⟩⟩) <;> grind
  | between column low high negated =>
    simp only [render, bind_eq_ok, pure_eq_ok, betweenText] at h
    obtain ⟨low, -, high, -, rfl⟩ := h
    simp only [names, List.forall_mem_singleton]
    grind
  | membership column values negated =>
    cases values with
    | nil => simp [names]
    | cons value values =>
      simp only [render, bind_eq_ok, pure_eq_ok, membershipText, List.isEmpty_cons,
        Bool.false_eq_true, if_false] at h
      obtain ⟨texts, -, rfl⟩ := h
      simp only [names, List.isEmpty_cons, Bool.false_eq_true, if_false, List.forall_mem_singleton]
      grind
  | nullCheck column isNull =>
    simp only [render, pure_eq_ok] at h
    subst h
    simp only [names, List.forall_mem_singleton]
    grind
  | fragment template bindings => simp [names]
  | conjunction left right ihl ihr | disjunction left right ihl ihr =>
    simp only [render, bind_eq_ok, pure_eq_ok] at h
    obtain ⟨leftText, hleft, rightText, hright, rfl⟩ := h
    have hl := ihl hleft
    have hr := ihr hright
    simp only [names, List.forall_mem_append]
    grind

namespace Column

variable {column : Column} {columns : List Column}

theorem standsIn_of_render {text : String} (h : column.render d = .ok text) :
    StandsIn (d.quoteIdentifier column.name) text := by
  simp only [render, bind_eq_ok, pure_eq_ok] at h
  obtain ⟨default, -, rfl⟩ := h
  grind

theorem standsIn_of_renderAddition {text : String} (h : column.renderAddition d = .ok text) :
    StandsIn (d.quoteIdentifier column.name) text := by
  simp only [renderAddition, bind_eq_ok, pure_eq_ok] at h
  obtain ⟨definition, hdefinition, rfl⟩ := h
  exact (standsIn_of_render hdefinition).right _

theorem exists_standsIn_of_renderEach {render : Column → Except RenderError String}
    {texts : List String} (h : renderEach render columns = .ok texts)
    (hname : ∀ column text, render column = .ok text →
      StandsIn (d.quoteIdentifier column.name) text) :
    ∀ column ∈ columns, ∃ text ∈ texts, StandsIn (d.quoteIdentifier column.name) text := by
  have hall := renderEach_eq_ok.mp h
  intro column hmem
  obtain ⟨text, htext, hrender⟩ := exists_left_of_forall₂ hall.flip hmem
  exact ⟨text, htext, hname column text hrender⟩

end Column

theorem CreateTable.standsIn_of_statements {definition : CreateTable} {statements : List String}
    (h : definition.statements d table = .ok statements) :
    ∀ name ∈ (Command.createTable definition).givenNames table,
      ∃ sql ∈ statements, StandsIn (d.quoteIdentifier name) sql := by
  simp only [CreateTable.statements, CreateTable.render, bind_eq_ok, pure_eq_ok] at h
  obtain ⟨sql, ⟨columns, hcolumns, rfl⟩, comments, -, rfl⟩ := h
  have hcolumn := Column.exists_standsIn_of_renderEach hcolumns fun _ _ => Column.standsIn_of_render
  intro name hname
  refine ⟨_, List.mem_cons_self, ?_⟩
  simp only [Command.givenNames, List.cons_append, List.mem_cons, List.mem_append,
    Option.mem_toList, Option.map_eq_some_iff, List.mem_map] at hname
  rcases hname with rfl | ⟨clause, hclause, rfl⟩ | ⟨column, hmem, rfl⟩
  · grind
  · have hsource : StandsIn (d.quoteIdentifier clause.source) (clause.render d) := by
      unfold LikeClause.render
      grind
    have hpart : clause.render d ∈ (definition.like.map (LikeClause.render d)).toList ++ columns :=
      List.mem_append_left _ (by simpa using ⟨clause, hclause, rfl⟩)
    exact ((hsource.intercalate hpart).right _).left _
  · obtain ⟨text, htext, hspelled⟩ := hcolumn column hmem
    exact ((hspelled.intercalate (List.mem_append_right _ htext)).right _).left _

theorem Column.standsIn_of_additionStatements {columns : List Column} {statements : List String}
    (h : additionStatements d table columns = .ok statements) :
    ∀ name ∈ (Command.addColumns columns).givenNames table,
      ∃ sql ∈ statements, StandsIn (d.quoteIdentifier name) sql := by
  intro name hname
  cases columns with
  | nil => simp [Command.givenNames] at hname
  | cons column columns =>
    obtain ⟨hnone, -⟩ | ⟨-, additions, comments, hadditions, -, rfl⟩ :=
      additionStatements_eq_ok.mp h
    · exact absurd hnone (List.cons_ne_nil _ _)
    have hcolumn :=
      exists_standsIn_of_renderEach hadditions fun _ _ => standsIn_of_renderAddition
    refine ⟨_, List.mem_cons_self, ?_⟩
    rcases List.mem_cons.mp hname with rfl | hname
    · grind
    · obtain ⟨other, hmem, rfl⟩ := List.mem_map.mp hname
      obtain ⟨text, htext, hspelled⟩ := hcolumn other hmem
      exact (hspelled.intercalate htext).right _

theorem TriggerEvent.standsIn_render {event : TriggerEvent} :
    ∀ name ∈ event.names, StandsIn (d.quoteIdentifier name) (event.render d) := by
  cases event with
  | updateOf columns => exact fun name hname => (Dialect.standsIn_quoteAll name hname).right _
  | insert | update | delete | truncate => simp [names]

theorem Trigger.standsIn_of_render {trigger : Trigger} {sql : String}
    (h : trigger.render d = .ok sql) :
    ∀ name ∈ (Command.createTrigger trigger).givenNames table,
      StandsIn (d.quoteIdentifier name) sql := by
  simp only [Trigger.render, bind_eq_ok, pure_eq_ok] at h
  obtain ⟨arguments, -, rfl⟩ := h
  have hname : StandsIn (d.quoteIdentifier trigger.name)
      ("CREATE TRIGGER " ++ d.quoteIdentifier trigger.name) := .at_end _ _
  refine List.forall_mem_append.mpr ⟨?_, ?_⟩
  · rintro name (_ | ⟨_, _ | ⟨_, _ | ⟨_, ⟨⟩⟩⟩⟩) <;> grind
  · intro name hmem
    obtain ⟨event, hevent, hcolumn⟩ := List.mem_flatMap.mp hmem
    have hevents : StandsIn (d.quoteIdentifier name)
        (" OR ".intercalate (trigger.events.map (TriggerEvent.render d))) :=
      (TriggerEvent.standsIn_render name hcolumn).intercalate (List.mem_map_of_mem hevent)
    grind

theorem Index.standsIn_of_render {index : Index} {sql : String} {predicate : Option String}
    (h : index.render d table = .ok (sql, predicate)) :
    ∀ name ∈ (Command.createIndex index).names table, StandsIn (d.quoteIdentifier name) sql := by
  have hown (text : String) (htable : StandsIn (d.quoteIdentifier table) text)
      (hindex : StandsIn (d.quoteIdentifier (index.resolvedName table)) text)
      (hcolumns : StandsIn (d.quoteAll index.columns) text) (name : String)
      (hmem : name = table ∨ name = index.resolvedName table ∨ name ∈ index.columns) :
      StandsIn (d.quoteIdentifier name) text := by
    rcases hmem with rfl | rfl | hmem
    · exact htable
    · exact hindex
    · exact (Dialect.standsIn_quoteAll name hmem).trans hcolumns
  have hhead := hown ("INDEX " ++ d.quoteIdentifier (index.resolvedName table) ++
    " ON " ++ d.quoteIdentifier table ++ " USING " ++ index.method.sql ++ " (" ++
    d.quoteAll index.columns ++ ")") (by grind) (by grind) (by grind)
  have hconstraint := hown ("ALTER TABLE " ++ d.quoteIdentifier table ++
    " ADD CONSTRAINT " ++ d.quoteIdentifier (index.resolvedName table) ++ " UNIQUE (" ++
    d.quoteAll index.columns ++ ")") (by grind) (by grind) (by grind)
  intro name hmem
  rw [Command.mem_names_createIndex] at hmem
  obtain ⟨hrendered, rfl⟩ := render_eq_ok.mp h
  unfold Index.statement
  generalize index.predicate = condition at hrendered hmem
  cases hrendered with
  | none =>
    have hname := hmem.resolve_right (by simp)
    simp only
    split_ifs
    · exact hconstraint name hname
    · exact (hhead name hname).right _
  | some htext =>
    simp only [Option.mem_some, exists_eq_left'] at hmem
    rcases hmem with hname | hcondition
    · have hin := hhead name hname
      grind
    · have hin := Condition.standsIn_of_render htext name hcondition
      grind

theorem Command.standsIn_of_render {command : Command} {rendering : Rendering}
    (h : command.render d table = .ok rendering) :
    ∀ name ∈ command.names table,
      ∃ sql ∈ rendering.statements, StandsIn (d.quoteIdentifier name) sql := by
  cases command with
  | createTable definition =>
    rw [names_eq_givenNames rfl]
    simp only [render, bind_eq_ok, pure_eq_ok] at h
    obtain ⟨statements, hstatements, rfl⟩ := h
    exact CreateTable.standsIn_of_statements hstatements
  | addColumns columns =>
    rw [names_eq_givenNames rfl]
    simp only [render, bind_eq_ok, pure_eq_ok] at h
    obtain ⟨statements, hstatements, rfl⟩ := h
    exact Column.standsIn_of_additionStatements hstatements
  | createIndex index =>
    simp only [render, bind_eq_ok, pure_eq_ok] at h
    obtain ⟨⟨sql, predicate⟩, hindex, rfl⟩ := h
    intro name hname
    exact ⟨sql, List.mem_singleton_self _, Index.standsIn_of_render hindex name hname⟩
  | createTrigger trigger =>
    rw [names_eq_givenNames rfl]
    simp only [render, bind_eq_ok, pure_eq_ok] at h
    obtain ⟨sql, htrigger, rfl⟩ := h
    intro name hname
    exact ⟨sql, List.mem_singleton_self _, Trigger.standsIn_of_render htrigger name hname⟩
  | attachPartition partition bounds =>
    rw [names_eq_givenNames rfl]
    simp only [render, renderAttachment, bind_eq_ok, pure_eq_ok] at h
    obtain ⟨sql, ⟨text, -, rfl⟩, rfl⟩ := h
    rintro name (_ | ⟨_, _ | ⟨_, ⟨⟩⟩⟩) <;> refine ⟨_, List.mem_singleton_self _, ?_⟩ <;> grind
  | dropTable ifExists =>
    rw [names_eq_givenNames rfl]
    obtain rfl := pure_eq_ok.mp h
    rintro name (_ | ⟨_, ⟨⟩⟩)
    refine ⟨_, List.mem_singleton_self _, ?_⟩
    grind
  | dropIndex name | createView view | dropView name materialized =>
    rw [names_eq_givenNames rfl]
    obtain rfl := pure_eq_ok.mp h
    rintro name (_ | ⟨_, ⟨⟩⟩)
    refine ⟨_, List.mem_singleton_self _, ?_⟩
    grind
  | dropUnique name | dropTrigger name | detachPartition name =>
    rw [names_eq_givenNames rfl]
    obtain rfl := pure_eq_ok.mp h
    rintro name (_ | ⟨_, _ | ⟨_, ⟨⟩⟩⟩) <;> refine ⟨_, List.mem_singleton_self _, ?_⟩ <;> grind

/-- Every name of a blueprint that compiles is spelled in one of its statements. -/
theorem Blueprint.standsIn_of_compile {b : Blueprint} {statements : List String}
    (h : b.compile d = .ok statements) :
    ∀ name ∈ b.names, ∃ sql ∈ statements, StandsIn (d.quoteIdentifier name) sql := by
  obtain ⟨-, renderings, hrenders, rfl⟩ := compile_eq_ok.mp h
  intro name hname
  obtain ⟨command, hcommand, hname⟩ := List.mem_flatMap.mp hname
  obtain ⟨rendering, hrendering, hrender⟩ := exists_left_of_forall₂ hrenders.flip hcommand
  obtain ⟨sql, hsql, hstands⟩ := Command.standsIn_of_render hrender name hname
  exact ⟨sql, List.mem_flatMap.mpr ⟨rendering, hrendering, hsql⟩, hstands⟩

end SchemaDraft
