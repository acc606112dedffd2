import SchemaDraft.Proofs.Blueprint.Faults
import SchemaDraft.Proofs.Literal.Boundary
import SchemaDraft.Statement.Command

/-!
What the statement of a trigger tells. Between its events stands OR, and the last of them is
followed by ON; the columns of an update end in front of either, whatever they are called. So each
part of a trigger can be told from the statement as far as it is spelled there.
-/

namespace SchemaDraft

open Sql Postgres

/-- Events that a dialect spells alike: the columns of an update count as they are spelled, and in
order. -/
inductive TriggerEvent.SpelledAlike (d : Dialect) : TriggerEvent → TriggerEvent → Prop where
  | insert : SpelledAlike d .insert .insert
  | update : SpelledAlike d .update .update
  | updateOf {columns others : List String}
    (h : columns.map d.quoteIdentifier = others.map d.quoteIdentifier) :
    SpelledAlike d (.updateOf columns) (.updateOf others)
  | delete : SpelledAlike d .delete .delete
  | truncate : SpelledAlike d .truncate .truncate

/-- Triggers with the same parts, these as a dialect spells them. -/
structure Trigger.SpelledAlike (d : Dialect) (trigger other : Trigger) : Prop where
  name : d.quoteIdentifier trigger.name = d.quoteIdentifier other.name
  timing : trigger.timing = other.timing
  events : List.Forall₂ (TriggerEvent.SpelledAlike d) trigger.events other.events
  table : d.quoteIdentifier trigger.table = d.quoteIdentifier other.table
  level : trigger.level = other.level
  routine : trigger.routine = other.routine
  function : d.quoteIdentifier trigger.function = d.quoteIdentifier other.function
  arguments : d.WritesAlike trigger.arguments other.arguments

variable {rest rest' : List Char}

namespace TriggerEvent

variable {event other : TriggerEvent}

/-- What may follow an event: the next one, or the table. -/
inductive EndsEvent : List Char → Prop where
  | next (after : List Char) : EndsEvent (" OR ".toList ++ after)
  | table (after : List Char) : EndsEvent (" ON ".toList ++ after)

theorem EndsEvent.exists_blank (h : EndsEvent rest) :
    ∃ after, rest = ' ' :: after ∧ ¬ "OF ".toList <+: after := by
  cases h with
  | next after => exact ⟨"OR ".toList ++ after, rfl, by simp⟩
  | table after => exact ⟨"ON ".toList ++ after, rfl, by simp⟩

theorem append_inj {trigger trigger' : String} (hvalid : event.faults trigger = [])
    (hvalid' : other.faults trigger' = []) (hrest : EndsEvent rest) (hrest' : EndsEvent rest')
    (h : (event.render dialect).toList ++ rest = (other.render dialect).toList ++ rest') :
    event.SpelledAlike dialect other ∧ rest = rest' := by
  obtain ⟨after, rfl, hof⟩ := hrest.exists_blank
  obtain ⟨after', rfl, hof'⟩ := hrest'.exists_blank
  cases event with
  | insert =>
    cases other with
    | insert => exact ⟨.insert, List.append_cancel_left h⟩
    | _ => simp [render] at h
  | update =>
    cases other with
    | update => exact ⟨.update, List.append_cancel_left h⟩
    | updateOf columns => exact absurd ⟨_, by simpa [render] using h.symm⟩ hof
    | _ => simp [render] at h
  | updateOf columns =>
    cases other with
    | updateOf others =>
      simp only [render, String.toList_append, List.append_assoc] at h
      obtain ⟨hcolumns, rfl⟩ := quoteAll_append_inj (faults_updateOf.mp hvalid).1
        (faults_updateOf.mp hvalid').1 (List.append_cancel_left h)
      exact ⟨.updateOf hcolumns, rfl⟩
    | update => exact absurd ⟨_, by simpa [render] using h⟩ hof'
    | _ => simp [render] at h
  | delete =>
    cases other with
    | delete => exact ⟨.delete, List.append_cancel_left h⟩
    | _ => simp [render] at h
  | truncate =>
    cases other with
    | truncate => exact ⟨.truncate, List.append_cancel_left h⟩
    | _ => simp [render] at h

theorem forall₂_spelledAlike {trigger trigger' : String} {events others : List TriggerEvent}
    (hvalid : ∀ event ∈ events, event.faults trigger = [])
    (hvalid' : ∀ event ∈ others, event.faults trigger' = [])
    (h : events.map (render dialect) = others.map (render dialect)) :
    List.Forall₂ (SpelledAlike dialect) events others := by
  have hrendered (events : List TriggerEvent) :
      List.Forall₂ (fun event text => event.render dialect = text) events
        (events.map (render dialect)) :=
    List.forall₂_map_right_iff.mpr (List.forall₂_same.mpr fun _ _ => rfl)
  refine forall₂_of_common ?_ (h ▸ hrendered events) (hrendered others)
  intro event hmem other hmem' text htext htext'
  have hsame : (event.render dialect).toList ++ (" ON ".toList ++ []) =
      (other.render dialect).toList ++ (" ON ".toList ++ []) := by
    rw [htext, htext']
  exact (append_inj (hvalid event hmem) (hvalid' other hmem') (.table []) (.table []) hsame).1

theorem SpelledAlike.render_eq {d : Dialect} (h : event.SpelledAlike d other) :
    event.render d = other.render d := by
  cases h with
  | updateOf h => rw [render, render, Dialect.quoteAll, Dialect.quoteAll, h]
  | _ => rfl

theorem map_render_eq_of_forall₂ {d : Dialect} {events others : List TriggerEvent}
    (h : List.Forall₂ (SpelledAlike d) events others) :
    events.map (render d) = others.map (render d) := by
  rw [← List.forall₂_eq_eq_eq, List.forall₂_map_left_iff, List.forall₂_map_right_iff]
  exact h.imp fun _ _ halike => SpelledAlike.render_eq halike

end TriggerEvent

theorem TriggerTiming.mem_all (timing : TriggerTiming) : timing ∈ all := by
  cases timing <;> decide

theorem TriggerLevel.mem_all (level : TriggerLevel) : level ∈ all := by
  cases level <;> decide

theorem RoutineKind.mem_all (routine : RoutineKind) : routine ∈ all := by
  cases routine <;> decide

namespace Trigger

variable {trigger other : Trigger} {sql : String}

/-- The events up to the table, which is followed by a blank. -/
theorem events_append_inj (hvalid : trigger.faults = []) (hvalid' : other.faults = [])
    (h : (" OR ".intercalate (trigger.events.map (TriggerEvent.render dialect))).toList ++
        (" ON ".toList ++ rest) =
      (" OR ".intercalate (other.events.map (TriggerEvent.render dialect))).toList ++
        (" ON ".toList ++ rest')) :
    List.Forall₂ (TriggerEvent.SpelledAlike dialect) trigger.events other.events ∧
      rest = rest' := by
  obtain ⟨-, hne, hevents⟩ := faults_eq_nil.mp hvalid
  obtain ⟨-, hne', hevents'⟩ := faults_eq_nil.mp hvalid'
  have hends : ∀ s ∈ trigger.events.map (TriggerEvent.render dialect),
      ∀ t ∈ other.events.map (TriggerEvent.render dialect),
        EndAlike TriggerEvent.EndsEvent s.toList t.toList := by
    simp only [List.forall_mem_map]
    intro event hevent event' hevent' rest rest' hrest hrest' h
    exact (TriggerEvent.append_inj (hevents event hevent) (hevents' event' hevent') hrest hrest'
      h).2
  have htable (rest : List Char) : TriggerEvent.EndsEvent (" ON ".toList ++ rest) ∧
      ¬ " OR ".toList <+: " ON ".toList ++ rest := ⟨.table rest, by simp⟩
  obtain ⟨hsame, hafter⟩ := intercalate_append_inj (List.map_eq_nil_iff.not.mpr hne)
    (List.map_eq_nil_iff.not.mpr hne') hends (fun after => .next after) (htable rest)
    (htable rest') h
  exact ⟨TriggerEvent.forall₂_spelledAlike hevents hevents' hsame, List.append_cancel_left hafter⟩

theorem spelledAlike_of_render (hvalid : trigger.faults = []) (hvalid' : other.faults = [])
    (h : trigger.render dialect = .ok sql) (h' : other.render dialect = .ok sql) :
    trigger.SpelledAlike dialect other := by
  simp only [render, bind_eq_ok, pure_eq_ok] at h h'
  obtain ⟨arguments', harguments', rfl⟩ := h'
  obtain ⟨arguments, harguments, hsame⟩ := h
  obtain ⟨after, hopen⟩ := tuple_front harguments
  obtain ⟨after', hopen'⟩ := tuple_front harguments'
  have hsame := congrArg (fun sql => sql.toList ++ []) hsame
  simp only [String.toList_append, List.append_assoc] at hsame
  obtain ⟨hname, h⟩ := quoteIdentifier_append_inj (List.append_cancel_left hsame)
  obtain ⟨htiming, h⟩ := append_inj_of_prefixFree (by decide) trigger.timing.mem_all
    other.timing.mem_all h
  obtain ⟨hevents, h⟩ := events_append_inj hvalid hvalid' (List.append_cancel_left h)
  obtain ⟨htable, h⟩ := quoteIdentifier_append_inj h
  obtain ⟨hlevel, h⟩ := append_inj_of_prefixFree (by decide) trigger.level.mem_all
    other.level.mem_all (List.append_cancel_left h)
  obtain ⟨hroutine, h⟩ := append_inj_of_prefixFree (by decide) trigger.routine.mem_all
    other.routine.mem_all (List.append_cancel_left h)
  have hstops {text after : List Char} (h : text = '(' :: after) :
      StopsAt isNameChar (text ++ []) := by
    rw [h]
    exact stopsAt_cons.mpr (by decide)
  obtain ⟨hfunction, h⟩ := spelling_append_inj (hstops hopen) (hstops hopen')
    (List.append_cancel_left h)
  obtain ⟨halike, -⟩ := tuple_append_inj harguments harguments' h
  exact ⟨hname, htiming, hevents, htable, hlevel, hroutine, hfunction, halike⟩

theorem SpelledAlike.render_eq {d : Dialect} (h : trigger.SpelledAlike d other) :
    trigger.render d = other.render d := by
  unfold render
  rw [h.name, h.timing, TriggerEvent.map_render_eq_of_forall₂ h.events, h.table, h.level, h.routine,
    h.function, h.arguments.tupleAt_eq (.triggerArguments trigger.name)
      (.triggerArguments other.name)]

end Trigger
end SchemaDraft
