import SchemaDraft.Proofs.Blueprint.Arrangement
import SchemaDraft.Proofs.Blueprint.Rendering

/-!
What building by calls alone rules out. As long as no command is pushed and no field is written,
only unique indexes have predicates and every trigger has an event, so these two faults are never
found. A predicate is attached to an index at most once: it then stays, and an attempt that is
refused changes nothing.
-/

namespace SchemaDraft

/-- Whether the call is a method of an index, and not a write to one of its fields. -/
def IndexCall.isPlain : IndexCall → Bool
  | .writePredicate _ | .writeUnique _ => false
  | _ => true

def TriggerCall.isPlain : TriggerCall → Bool
  | .writeEvents _ | .writeTable _ => false
  | _ => true

/-- Whether the call and those on what it makes are methods of the builder, pushing apart. -/
def Call.isPlain : Call → Bool
  | .push _ => false
  | .index _ _ calls | .unique _ calls => calls.all IndexCall.isPlain
  | .createTrigger _ _ _ _ calls => calls.all TriggerCall.isPlain
  | _ => true

/-- If an index has a predicate, it is unique. -/
def Index.IsWellMade (index : Index) : Prop := index.predicate.isSome → index.unique = true

def Command.IsWellMade : Command → Prop
  | .createIndex index => index.IsWellMade
  | .createTrigger trigger => trigger.events ≠ []
  | _ => True

def Blueprint.IsWellMade (b : Blueprint) : Prop := ∀ command ∈ b.commands, command.IsWellMade

section Index

variable {index : Index} {calls : List IndexCall} {p : Condition}

/-- An attempt to attach a predicate is accepted, or it is refused and the index is as it was. -/
theorem Index.attachPredicate_cases (index : Index) (p : Condition) :
    (index.unique = true ∧ index.predicate = none ∧
      index.attachPredicate p = ({ index with predicate := some p }, .ok ())) ∨
    ((index.unique = true → index.predicate ≠ none) ∧
      ∃ e, index.attachPredicate p = (index, .error e)) := by
  unfold attachPredicate
  cases index.unique <;> cases index.predicate <;> simp

theorem Index.attachPredicate_eq_ok :
    (index.attachPredicate p).2 = .ok () ↔ index.unique = true ∧ index.predicate = none := by
  rcases index.attachPredicate_cases p with ⟨hunique, hnone, hattach⟩ | ⟨hnot, e, hattach⟩
  · exact iff_of_true (congrArg Prod.snd hattach) ⟨hunique, hnone⟩
  · rw [hattach]
    exact iff_of_false nofun fun h => hnot h.1 h.2

theorem Index.attachPredicate_of_error {e : StructureError}
    (h : (index.attachPredicate p).2 = .error e) : (index.attachPredicate p).1 = index := by
  rcases index.attachPredicate_cases p with ⟨-, -, hattach⟩ | ⟨-, e, hattach⟩
  · rw [hattach] at h
    cases h
  · exact congrArg Prod.fst hattach

theorem Index.attachPredicate_of_predicate (h : index.predicate = some p) (q : Condition) :
    ∃ e, index.attachPredicate q = (index, .error e) := by
  rcases index.attachPredicate_cases q with ⟨-, hnone, -⟩ | ⟨-, hrefused⟩
  · rw [hnone] at h
    cases h
  · exact hrefused

namespace IndexCall

theorem apply_attachPredicate :
    ((IndexCall.attachPredicate p).apply index).1 = (index.attachPredicate p).1 := rfl

theorem isWellMade_apply {call : IndexCall} (hplain : call.isPlain = true)
    (h : index.IsWellMade) : (call.apply index).1.IsWellMade := by
  cases call with
  | attachPredicate p =>
    rw [apply_attachPredicate]
    rcases index.attachPredicate_cases p with ⟨hunique, -, hattach⟩ | ⟨-, e, hattach⟩
    · rw [hattach]
      exact fun _ => hunique
    · rw [hattach]
      exact h
  | writePredicate _ | writeUnique _ => cases hplain
  | _ => exact h

theorem isWellMade_applyAll (hplain : ∀ call ∈ calls, call.isPlain = true)
    (h : index.IsWellMade) : (applyAll index calls).1.IsWellMade := by
  induction calls generalizing index with
  | nil => exact h
  | cons call calls ih =>
    rw [List.forall_mem_cons] at hplain
    exact ih hplain.2 (isWellMade_apply hplain.1 h)

theorem applyAll_append (before after : List IndexCall) :
    applyAll index (before ++ after) =
      ((applyAll (applyAll index before).1 after).1,
        (applyAll index before).2 ++ (applyAll (applyAll index before).1 after).2) := by
  induction before generalizing index with
  | nil => rfl
  | cons call before ih =>
    simp only [List.cons_append, applyAll, ih, List.append_assoc]

theorem unique_apply {call : IndexCall} (hplain : call.isPlain = true) :
    (call.apply index).1.unique = index.unique := by
  cases call with
  | attachPredicate p =>
    rw [apply_attachPredicate]
    rcases index.attachPredicate_cases p with ⟨-, -, hattach⟩ | ⟨-, e, hattach⟩ <;> rw [hattach]
  | writePredicate _ | writeUnique _ => cases hplain
  | _ => rfl

theorem unique_applyAll (hplain : ∀ call ∈ calls, call.isPlain = true) :
    (applyAll index calls).1.unique = index.unique := by
  induction calls generalizing index with
  | nil => rfl
  | cons call calls ih =>
    rw [List.forall_mem_cons] at hplain
    exact (ih hplain.2).trans (unique_apply hplain.1)

/-- An index that has a predicate takes no other. -/
theorem predicate_apply {call : IndexCall} (hplain : call.isPlain = true)
    (h : index.predicate = some p) : (call.apply index).1.predicate = some p := by
  cases call with
  | attachPredicate q =>
    obtain ⟨e, hrefused⟩ := Index.attachPredicate_of_predicate h q
    rw [apply_attachPredicate, hrefused]
    exact h
  | writePredicate _ | writeUnique _ => cases hplain
  | _ => exact h

theorem predicate_applyAll (hplain : ∀ call ∈ calls, call.isPlain = true)
    (h : index.predicate = some p) : (applyAll index calls).1.predicate = some p := by
  induction calls generalizing index with
  | nil => exact h
  | cons call calls ih =>
    rw [List.forall_mem_cons] at hplain
    exact ih hplain.2 (predicate_apply hplain.1 h)

/-- An index declared as unique takes a predicate as long as it has none. -/
theorem attached_iff (hplain : ∀ call ∈ calls, call.isPlain = true) :
    ((applyAll index calls).1.attachPredicate p).2 = .ok () ↔
      index.unique = true ∧ (applyAll index calls).1.predicate = none := by
  rw [Index.attachPredicate_eq_ok, unique_applyAll hplain]

theorem applyAll_attachPredicate (before after : List IndexCall) :
    (applyAll index (before ++ .attachPredicate p :: after)).1 =
      (applyAll ((applyAll index before).1.attachPredicate p).1 after).1 := by
  rw [applyAll_append]
  rfl

/-- A refused attempt to attach a predicate might as well not have been made. -/
theorem applyAll_of_refused {before : List IndexCall} {e : StructureError}
    (h : ((applyAll index before).1.attachPredicate p).2 = .error e) (after : List IndexCall) :
    (applyAll index (before ++ .attachPredicate p :: after)).1 =
      (applyAll index (before ++ after)).1 := by
  rw [applyAll_attachPredicate, Index.attachPredicate_of_error h, applyAll_append]

theorem predicate_of_attached {before after : List IndexCall}
    (h : ((applyAll index before).1.attachPredicate p).2 = .ok ())
    (hplain : ∀ call ∈ after, call.isPlain = true) :
    (applyAll index (before ++ .attachPredicate p :: after)).1.predicate = some p := by
  rw [applyAll_attachPredicate]
  rcases (applyAll index before).1.attachPredicate_cases p with
    ⟨-, -, hattach⟩ | ⟨-, e, hattach⟩
  · rw [hattach]
    exact predicate_applyAll hplain rfl
  · rw [hattach] at h
    cases h

end IndexCall

end Index

/-- A predicate that is composed piece by piece leaves the index unique. -/
theorem PartialIndexCall.unique_foldl (calls : List PartialIndexCall) {index : Index}
    (h : index.unique = true) : (calls.foldl apply index).unique = true := by
  induction calls generalizing index with
  | nil => exact h
  | cons call calls ih =>
    apply ih
    cases call with
    | named name => exact h
    | andWhere condition =>
      rw [apply, Index.andWhere]
      split <;> exact h
    | orWhere condition =>
      rw [apply, Index.orWhere]
      split <;> exact h

theorem TriggerCall.events_foldl {calls : List TriggerCall} {trigger : Trigger}
    (hplain : ∀ call ∈ calls, call.isPlain = true) (h : trigger.events ≠ []) :
    (calls.foldl apply trigger).events ≠ [] := by
  induction calls generalizing trigger with
  | nil => exact h
  | cons call calls ih =>
    rw [List.forall_mem_cons] at hplain
    apply ih hplain.2
    cases call with
    | on event => exact List.append_ne_nil_of_left_ne_nil h _
    | writeEvents _ | writeTable _ => cases hplain.1
    | _ => exact h

section Run

variable {call : Call} {calls : List Call} {b : Blueprint}

theorem Command.isWellMade_of_carriesColumns {command : Command}
    (h : command.carriesColumns = true) : command.IsWellMade := by
  cases command with
  | createTable _ | addColumns _ => trivial
  | _ => cases h

theorem Blueprint.ChangedBy.isWellMade {change : Command → Command} {new : Command}
    {added : List Column} {made : Blueprint} (h : b.ChangedBy change new added made)
    (hmade : b.IsWellMade) : made.IsWellMade := by
  intro command hcommand
  cases hcarries : command.carriesColumns with
  | true => exact Command.isWellMade_of_carriesColumns hcarries
  | false => exact hmade command ((h.mem_commands hcarries).mp hcommand)

/-- A call without a command of its own changes the first command that carries columns. -/
theorem Call.exists_changedBy (b : Blueprint) (h : call.concern ≠ .ownCommand) :
    ∃ change new added, b.ChangedBy change new added (call.apply b).1 := by
  cases call with
  | addColumn name type calls => exact ⟨_, _, _, Blueprint.changedBy_addColumn b _⟩
  | ifNotExists | like source calls =>
    refine ⟨_, _, _, Blueprint.changedBy_define ?_ b⟩
    exact fun _ => rfl
  | _ => exact absurd rfl h

theorem Call.isWellMade_command? {table : String} {command : Command}
    (hplain : call.isPlain = true) (h : call.command? table = some command) :
    command.IsWellMade := by
  cases call with
  | index columns method calls =>
    obtain rfl := Option.some.inj h
    exact IndexCall.isWellMade_applyAll (List.all_eq_true.mp hplain) nofun
  | unique columns calls =>
    obtain rfl := Option.some.inj h
    exact IndexCall.isWellMade_applyAll (List.all_eq_true.mp hplain) nofun
  | uniquePartial columns calls =>
    obtain rfl := Option.some.inj h
    exact fun _ => PartialIndexCall.unique_foldl calls rfl
  | createTrigger name timing event function calls =>
    obtain rfl := Option.some.inj h
    exact TriggerCall.events_foldl (List.all_eq_true.mp hplain) (List.cons_ne_nil _ _)
  | push command => cases hplain
  | addColumn _ _ _ | ifNotExists | like _ _ | hasIndex _ _ => cases h
  | _ =>
    obtain rfl := Option.some.inj h
    trivial

theorem Call.isWellMade_apply (hplain : call.isPlain = true) (h : b.IsWellMade) :
    (call.apply b).1.IsWellMade := by
  -- Only a call with a command of its own makes an index or a trigger; the others edit columns.
  by_cases hconcern : call.concern = .ownCommand
  · rw [apply_of_ownCommand b hconcern]
    intro command hcommand
    rcases List.mem_append.mp hcommand with hold | hnew
    · exact h command hold
    · exact isWellMade_command? hplain (Option.mem_toList.mp hnew)
  · obtain ⟨change, new, added, hchanged⟩ := exists_changedBy b hconcern
    exact hchanged.isWellMade h

/-- Plain calls keep a blueprint well made, wherever they put their commands. -/
theorem Blueprint.isWellMade_run (hplain : ∀ call ∈ calls, call.isPlain = true)
    (h : b.IsWellMade) : (b.run calls).IsWellMade := by
  induction calls generalizing b with
  | nil => exact h
  | cons call calls ih =>
    rw [List.forall_mem_cons] at hplain
    exact ih hplain.2 (Call.isWellMade_apply hplain.1 h)

end Run

section Faults

variable {table : String} {fault : StructureError}

/-- The two faults that only a well-made command cannot have. -/
def StructureError.isIllMade : StructureError → Bool
  | .predicateOnNonUniqueIndex _ | .emptyTriggerEvents _ => true
  | _ => false

theorem isIllMade_of_mem_nameFaults {role : NameRole} {name : String}
    (h : fault ∈ nameFaults role name) : fault.isIllMade = false := by
  unfold nameFaults at h
  split at h
  · obtain rfl := List.mem_singleton.mp h
    rfl
  · cases h

theorem isIllMade_of_mem_ite {p : Bool} {found : StructureError} (hfound : found.isIllMade = false)
    (h : fault ∈ if p = true then [found] else []) : fault.isIllMade = false := by
  split at h
  · obtain rfl := List.mem_singleton.mp h
    exact hfound
  · cases h

theorem Condition.isIllMade_of_mem_faults {c : Condition} (h : fault ∈ c.faults) :
    fault.isIllMade = false := by
  induction c with
  | columnComparison left operator right =>
    rcases List.mem_append.mp h with hleft | hright
    · exact isIllMade_of_mem_nameFaults hleft
    · exact isIllMade_of_mem_nameFaults hright
  | fragment template bindings => cases h
  | conjunction left right ihleft ihright | disjunction left right ihleft ihright =>
    rcases List.mem_append.mp h with hleft | hright
    · exact ihleft hleft
    · exact ihright hright
  | _ => exact isIllMade_of_mem_nameFaults h

theorem exists_of_mem_getD {α : Type} {a? : Option α} {f : α → List StructureError}
    (h : fault ∈ (a?.map f).getD []) : ∃ a, a? = some a ∧ fault ∈ f a := by
  cases a? with
  | none => cases h
  | some a => exact ⟨a, rfl, h⟩

theorem Index.isIllMade_of_mem_faults {index : Index} (hmade : index.IsWellMade)
    (h : fault ∈ index.faults table) : fault.isIllMade = false := by
  simp only [faults, List.mem_append] at h
  rcases h with (((hname | hcolumns) | hmethod) | hunique) | hpredicate
  · obtain ⟨name, -, hname⟩ := exists_of_mem_getD hname
    exact isIllMade_of_mem_nameFaults hname
  · exact isIllMade_of_mem_ite rfl hcolumns
  · exact isIllMade_of_mem_ite rfl hmethod
  · have hnone : (index.predicate.isSome && !index.unique) = false := by
      cases hsome : index.predicate.isSome with
      | false => rfl
      | true => simp [hmade hsome]
    simp [hnone] at hunique
  · obtain ⟨condition, -, hcondition⟩ := exists_of_mem_getD hpredicate
    exact condition.isIllMade_of_mem_faults hcondition

theorem Trigger.isIllMade_of_mem_faults {trigger : Trigger} (hmade : trigger.events ≠ [])
    (h : fault ∈ trigger.faults) : fault.isIllMade = false := by
  simp only [faults, List.mem_append] at h
  rcases h with (((hname | htable) | hfunction) | hevents) | hupdates
  · exact isIllMade_of_mem_nameFaults hname
  · exact isIllMade_of_mem_nameFaults htable
  · exact isIllMade_of_mem_nameFaults hfunction
  · simp [hmade] at hevents
  · obtain ⟨event, -, hevent⟩ := List.mem_flatMap.mp hupdates
    cases event with
    | updateOf columns => exact isIllMade_of_mem_ite rfl hevent
    | _ => cases hevent

theorem CreateTable.isIllMade_of_mem_faults {definition : CreateTable}
    (h : fault ∈ definition.faults table) : fault.isIllMade = false := by
  rcases List.mem_append.mp h with hempty | hlike
  · exact isIllMade_of_mem_ite rfl hempty
  · obtain ⟨clause, -, hclause⟩ := exists_of_mem_getD hlike
    exact isIllMade_of_mem_nameFaults hclause

theorem Command.isIllMade_of_mem_faults {command : Command} (hmade : command.IsWellMade)
    (h : fault ∈ command.faults table) : fault.isIllMade = false := by
  rcases List.mem_append.mp h with hcolumns | hown
  · obtain ⟨column, -, hcolumn⟩ := List.mem_flatMap.mp hcolumns
    exact isIllMade_of_mem_nameFaults hcolumn
  cases command with
  | createTable definition => exact definition.isIllMade_of_mem_faults hown
  | createIndex index => exact index.isIllMade_of_mem_faults hmade hown
  | createTrigger trigger => exact trigger.isIllMade_of_mem_faults hmade hown
  | createView view =>
    rcases List.mem_append.mp hown with hname | hquery
    · exact isIllMade_of_mem_nameFaults hname
    · exact isIllMade_of_mem_nameFaults hquery
  | addColumns _ | dropTable _ => cases hown
  | _ => exact isIllMade_of_mem_nameFaults hown

theorem Blueprint.isWellMade_resolvedCommands {b : Blueprint} (h : b.IsWellMade) :
    ∀ command ∈ b.resolvedCommands, command.IsWellMade := by
  intro command hcommand
  rcases List.mem_append.mp hcommand with hown | hinline
  · exact h command hown
  · obtain ⟨column, -, hcolumn⟩ := List.mem_filterMap.mp hinline
    obtain ⟨index, -, rfl⟩ := Option.map_eq_some_iff.mp hcolumn
    exact nofun

/-- A structure error that compiling ends in is a fault of the blueprint. -/
theorem Blueprint.mem_faults_of_compile {d : Dialect} {b : Blueprint}
    (h : b.compile d = .error (.structure fault)) : fault ∈ b.faults := by
  rw [compile] at h
  cases hfaults : b.faults with
  | cons first others =>
    rw [compilation_of_fault hfaults] at h
    cases h
    exact List.mem_cons_self
  | nil =>
    rw [compilation_of_faultless hfaults] at h
    rcases exists_rendersTo_or_error d b.table b.resolvedCommands with
      ⟨renderings, hall⟩ | ⟨before, command, after, renderings, e, hsplit, hbefore, herror⟩
    · rw [renderCommands_of_rendersTo hall] at h
      cases h
    · rw [hsplit, renderCommands_of_error hbefore herror] at h
      cases h

/-- A well-made blueprint may be refused, but for neither of the two faults. -/
theorem Blueprint.isIllMade_of_compile {d : Dialect} {b : Blueprint} (hmade : b.IsWellMade)
    (h : b.compile d = .error (.structure fault)) : fault.isIllMade = false := by
  rcases List.mem_append.mp (mem_faults_of_compile h) with hname | hcommands
  · exact isIllMade_of_mem_nameFaults hname
  · obtain ⟨command, hcommand, hfault⟩ := List.mem_flatMap.mp hcommands
    exact Command.isIllMade_of_mem_faults (isWellMade_resolvedCommands hmade command hcommand)
      hfault

end Faults

/-- The two ways to declare an index and then to call methods on it, with the index as declared. -/
inductive Call.DeclaresIndex : (List IndexCall → Call) → Index → Prop where
  | index (columns : List String) (method : IndexMethod) :
    DeclaresIndex (.index columns method) { columns, method }
  | unique (columns : List String) :
    DeclaresIndex (.unique columns) { columns, unique := true }

theorem Call.DeclaresIndex.apply {declare : List IndexCall → Call} {declared : Index}
    (h : DeclaresIndex declare declared) (calls : List IndexCall) (b : Blueprint) :
    ((declare calls).apply b).1 = b.addIndex (IndexCall.applyAll declared calls).1 := by
  cases h <;> rfl

theorem Call.DeclaresIndex.command? {declare : List IndexCall → Call} {declared : Index}
    (h : DeclaresIndex declare declared) (calls : List IndexCall) (table : String) :
    (declare calls).command? table = some (.createIndex (IndexCall.applyAll declared calls).1) := by
  cases h <;> rfl

theorem Call.DeclaresIndex.isPlain {declare : List IndexCall → Call} {declared : Index}
    {calls : List IndexCall} (h : DeclaresIndex declare declared)
    (hplain : (declare calls).isPlain = true) : ∀ call ∈ calls, call.isPlain = true := by
  cases h <;> exact List.all_eq_true.mp hplain

theorem Call.isFluent_of_isPlain {call : Call} (h : call.isPlain = true) :
    call.isFluent = true := by
  cases call with
  | push command => cases h
  | _ => rfl

/-- An index stands where it is declared, before all that later calls append. -/
theorem Blueprint.commands_run_declared {creates : Bool} {table : String}
    {earlier later : List Call} {declare : List IndexCall → Call} {declared : Index}
    {handled : List IndexCall} (hdeclares : Call.DeclaresIndex declare declared)
    (hfluent : ∀ call ∈ earlier ++ declare handled :: later, call.isFluent = true) :
    ∃ front, ((start creates table).run (earlier ++ declare handled :: later)).commands =
      front ++ .createIndex (IndexCall.applyAll declared handled).1 ::
        later.filterMap (Call.command? table) := by
  rw [run_eq_arranged hfluent, arranged, List.filterMap_append,
    List.filterMap_cons_some (hdeclares.command? handled table), ← List.append_assoc]
  exact ⟨_, rfl⟩

theorem Blueprint.run_of_refused {b : Blueprint} {earlier : List Call}
    {declare : List IndexCall → Call} {declared : Index} {before : List IndexCall} {p : Condition}
    {e : StructureError} (hdeclares : Call.DeclaresIndex declare declared)
    (hrefused : ((IndexCall.applyAll declared before).1.attachPredicate p).2 = .error e) :
    b.run (earlier ++ [declare (before ++ [.attachPredicate p])]) =
      b.run (earlier ++ [declare before]) := by
  have hsame := IndexCall.applyAll_of_refused hrefused []
  rw [List.append_nil] at hsame
  simp only [run, List.foldl_append, List.foldl_cons, List.foldl_nil, hdeclares.apply, hsame]

/-- In what plain calls build, only unique indexes have predicates and every trigger has an event,
and so no dialect refuses it for one of these. An index stays where it is declared. It takes a
predicate if it is declared as unique and has none yet. A refused attempt to attach one leaves the
whole blueprint as it is; after one that is accepted the predicate stays, and every later attempt is
refused. -/
theorem Blueprint.run_plain (creates : Bool) (table : String) (calls : List Call)
    (hplain : ∀ call ∈ calls, call.isPlain = true) :
    let run := (start creates table).run
    (∀ index, .createIndex index ∈ (run calls).resolvedCommands →
      index.predicate.isSome → index.unique = true) ∧
    (∀ trigger, .createTrigger trigger ∈ (run calls).resolvedCommands → trigger.events ≠ []) ∧
    (∀ d name, (run calls).compile d ≠ .error (.structure (.predicateOnNonUniqueIndex name)) ∧
      (run calls).compile d ≠ .error (.structure (.emptyTriggerEvents name))) ∧
    ∀ earlier declare declared handled later, Call.DeclaresIndex declare declared →
      calls = earlier ++ declare handled :: later →
      let made := (IndexCall.applyAll declared handled).1
      (∃ front, (run calls).commands =
        front ++ .createIndex made :: later.filterMap (Call.command? table)) ∧
      ∀ before p after, handled = before ++ .attachPredicate p :: after →
        let found := (IndexCall.applyAll declared before).1
        let attempt := (found.attachPredicate p).2
        (attempt = .ok () ↔ declared.unique = true ∧ found.predicate = none) ∧
        (∀ e, attempt = .error e →
          run (earlier ++ [declare (before ++ [.attachPredicate p])]) =
            run (earlier ++ [declare before])) ∧
        (attempt = .ok () →
          made.predicate = some p ∧
          ∀ between q rest, after = between ++ .attachPredicate q :: rest →
            ∃ e, ((IndexCall.applyAll declared
              (before ++ .attachPredicate p :: between)).1.attachPredicate q).2 = .error e) := by
  intro run
  have hstart : (start creates table).IsWellMade := by
    cases creates with
    | true => exact List.forall_mem_singleton.mpr trivial
    | false => exact nofun
  have hmade : (run calls).IsWellMade := isWellMade_run hplain hstart
  have hfluent : ∀ call ∈ calls, call.isFluent = true := fun call hcall =>
    Call.isFluent_of_isPlain (hplain call hcall)
  refine ⟨?_, ?_, ?_, ?_⟩
  · exact fun index => isWellMade_resolvedCommands hmade (.createIndex index)
  · exact fun trigger => isWellMade_resolvedCommands hmade (.createTrigger trigger)
  · intro d name
    exact ⟨fun h => Bool.noConfusion (isIllMade_of_compile hmade h),
      fun h => Bool.noConfusion (isIllMade_of_compile hmade h)⟩
  -- The rest is about one index, and the calls on it.
  rintro earlier declare declared handled later hdeclares rfl
  have hhandled : ∀ call ∈ handled, call.isPlain = true := hdeclares.isPlain (hplain _ (by simp))
  refine ⟨commands_run_declared hdeclares hfluent, ?_⟩
  rintro before p after rfl
  have hbefore : ∀ call ∈ before, call.isPlain = true := fun call hcall =>
    hhandled call (List.mem_append_left _ hcall)
  refine ⟨IndexCall.attached_iff hbefore, fun e => run_of_refused hdeclares, ?_⟩
  intro hattached
  have hafter : ∀ call ∈ after, call.isPlain = true := fun call hcall =>
    hhandled call (by simp [hcall])
  refine ⟨IndexCall.predicate_of_attached hattached hafter, ?_⟩
  rintro between q rest rfl
  have hbetween : ∀ call ∈ between, call.isPlain = true := fun call hcall =>
    hafter call (List.mem_append_left _ hcall)
  obtain ⟨e, hrefused⟩ := Index.attachPredicate_of_predicate
    (IndexCall.predicate_of_attached hattached hbetween) q
  exact ⟨e, congrArg Prod.snd hrefused⟩

/-- Of three attempts on two indexes only the second is accepted. -/
theorem Blueprint.run_plain_attached :
    let p : Condition := .nullCheck "a" false
    let q : Condition := .nullCheck "b" true
    let handled : List IndexCall :=
      [.named "u", .attachPredicate p, .using .gin, .attachPredicate q]
    let refused : Call := .index ["a"] .btree [.attachPredicate p]
    let later : List Call :=
      [.uniquePartial ["b"] [.andWhere p, .orWhere q], .addColumn "b" .text [],
       .createTrigger "g" .before .insert "f" [.on .delete], .ifNotExists]
    let calls := refused :: .unique ["a"] handled :: later
    let run := (start false "t").run
    (∀ call ∈ calls, call.isPlain = true) ∧
      (∃ front, (run calls).commands = front ++
        [.createIndex
          { name := some "u", columns := ["a"], method := .gin, unique := true,
            predicate := some p },
         .createIndex { columns := ["b"], unique := true, predicate := some (.disjunction p q) },
         .createTrigger
          { name := "g", timing := .before, events := [.insert, .delete], table := "t",
            function := "f" }]) ∧
      run [refused] = run [.index ["a"] .btree []] ∧
      (∃ e, ((IndexCall.applyAll { columns := ["a"], unique := true }
        [.named "u", .attachPredicate p, .using .gin]).1.attachPredicate q).2 = .error e) ∧
      ∀ d name, (run calls).compile d ≠ .error (.structure (.predicateOnNonUniqueIndex name)) := by
  intro p q handled refused later calls run
  have hplain : ∀ call ∈ calls, call.isPlain = true := by decide
  obtain ⟨-, -, hcompile, hdeclared⟩ := run_plain false "t" calls hplain
  obtain ⟨-, hrefused⟩ := hdeclared [] _ _ [.attachPredicate p] (.unique ["a"] handled :: later)
    (.index ["a"] .btree) rfl
  obtain ⟨hstands, haccepted⟩ := hdeclared [refused] _ _ handled later (.unique ["a"]) rfl
  obtain ⟨-, -, hfirst⟩ := haccepted [.named "u"] p [.using .gin, .attachPredicate q] rfl
  obtain ⟨-, hsecond⟩ := hfirst rfl
  exact ⟨hplain, hstands, (hrefused [] p [] rfl).2.1 _ rfl, hsecond [.using .gin] q [] rfl,
    fun d name => (hcompile d name).1⟩

end SchemaDraft
