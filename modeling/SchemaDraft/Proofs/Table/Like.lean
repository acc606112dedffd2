import Mathlib.Data.List.DropRight
import Mathlib.Data.List.Induction
import SchemaDraft.Blueprint.Calls
import SchemaDraft.Proofs.Table.Element
import SchemaDraft.Sql.Postgres

/-!
What a run of calls on a LIKE clause comes to. INCLUDING ALL and a list of single features are two
ways to say what is copied, and a clause is in one of them at a time. So including everything drops
the features chosen before, and the first feature chosen afterwards drops INCLUDING ALL. Features
chosen one after the other all stay.
-/

namespace SchemaDraft

namespace LikeCall

/-- Whether the call includes everything. -/
def isAll : LikeCall → Bool
  | .includeAll => true
  | _ => false

/-- The clause that the call asks for, with none in place of INCLUDING ALL. -/
def clause : LikeCall → Option LikeOption
  | .includeAll => none
  | .including feature => some ⟨true, feature⟩
  | .excluding feature => some ⟨false, feature⟩

def sql (call : LikeCall) : String := LikeOptions.clauseText call.clause

/-- The calls after the last one that includes everything, or all calls if none does. -/
def afterLastAll (calls : List LikeCall) : List LikeCall := calls.rtakeWhile (!·.isAll)

/-- The calls from the last one that includes everything on, or all calls if none does. -/
def sinceLastAll (calls : List LikeCall) : List LikeCall :=
  (if calls.any isAll then [.includeAll] else []) ++ afterLastAll calls

/-- The calls that can be seen in the clause: one that includes everything only if no call follows
it. -/
def inForce (calls : List LikeCall) : List LikeCall :=
  if calls.getLast?.any isAll then [.includeAll] else afterLastAll calls

end LikeCall

namespace LikeClause

/-- The clause with the texts of these calls behind its source. -/
def textOf (d : Dialect) (source : String) (calls : List LikeCall) : String :=
  "LIKE " ++ d.quoteIdentifier source ++ String.join (calls.map LikeCall.sql)

end LikeClause

section

variable {d : Dialect} {source : String} {calls : List LikeCall} {call : LikeCall}

namespace LikeCall

theorem eq_includeAll (h : call.isAll = true) : call = .includeAll := by
  cases call with
  | includeAll => rfl
  | including _ | excluding _ => cases h

theorem any_isAll : calls.any isAll = true ↔ .includeAll ∈ calls := by
  rw [List.any_eq_true]
  constructor
  · rintro ⟨call, hcall, hall⟩
    exact eq_includeAll hall ▸ hcall
  · exact fun h => ⟨_, h, rfl⟩

theorem any_isAll_getLast? :
    calls.getLast?.any isAll = true ↔ calls.getLast? = some .includeAll := by
  rw [Option.any_eq_true]
  constructor
  · rintro ⟨call, hcall, hall⟩
    exact eq_includeAll hall ▸ hcall
  · exact fun h => ⟨_, h, rfl⟩

theorem afterLastAll_of_getLast? (h : calls.getLast? = some .includeAll) :
    afterLastAll calls = [] := by
  obtain ⟨earlier, rfl⟩ := List.getLast?_eq_some_iff.mp h
  exact List.rtakeWhile_concat_neg _ _ _ (by decide)

theorem inForce_of_getLast? (h : calls.getLast? = some .includeAll) :
    inForce calls = [.includeAll] :=
  if_pos (any_isAll_getLast?.mpr h)

theorem inForce_of_getLast?_ne (h : calls.getLast? ≠ some .includeAll) :
    inForce calls = afterLastAll calls :=
  if_neg (any_isAll_getLast?.not.mpr h)

theorem inForce_concat (h : call.isAll = false) :
    inForce (calls ++ [call]) = afterLastAll calls ++ [call] := by
  simp [inForce, afterLastAll, h]

end LikeCall

namespace LikeClause

theorem clauses_select {clause : LikeClause} (option : LikeOption) :
    (clause.select option).options.clauses =
      if clause.options = .includingAll then [some option]
      else clause.options.clauses ++ [some option] := by
  obtain ⟨source, options⟩ := clause
  cases options with
  | selected options => simp [select, LikeOptions.clauses]
  | _ => rfl

theorem select_options_ne {clause : LikeClause} (option : LikeOption) :
    (clause.select option).options ≠ .includingAll := by
  obtain ⟨source, options⟩ := clause
  cases options <;> exact nofun

end LikeClause

/-- A call that chooses a single feature adds its clause, unless everything was included. -/
theorem LikeCall.apply_of_not_isAll (h : call.isAll = false) (clause : LikeClause) :
    (call.apply clause).source = clause.source ∧
      (call.apply clause).options ≠ .includingAll ∧
      (call.apply clause).options.clauses =
        if clause.options = .includingAll then [call.clause]
        else clause.options.clauses ++ [call.clause] := by
  have hselect (option : LikeOption) : (clause.select option).source = clause.source := by
    rw [LikeClause.select]
    split <;> rfl
  cases call with
  | includeAll => cases h
  | including feature | excluding feature =>
    exact ⟨hselect _, LikeClause.select_options_ne _, LikeClause.clauses_select _⟩

/-- The clauses after a run, and whether they are INCLUDING ALL: the second says what the next call
does to the first. -/
theorem LikeClause.foldl_calls (source : String) (calls : List LikeCall) :
    let clause := calls.foldl LikeCall.apply { source }
    clause.source = source ∧
      (clause.options = .includingAll ↔ calls.getLast? = some .includeAll) ∧
      clause.options.clauses = (LikeCall.inForce calls).map LikeCall.clause := by
  induction calls using List.reverseRecOn with
  | nil => exact ⟨rfl, ⟨nofun, nofun⟩, rfl⟩
  | append_singleton calls call ih =>
    obtain ⟨hsource, hall, hclauses⟩ := ih
    simp only [List.foldl_append, List.foldl_cons, List.foldl_nil, List.getLast?_concat,
      Option.some_inj]
    cases hcall : call.isAll with
    | true =>
      obtain rfl := LikeCall.eq_includeAll hcall
      rw [LikeCall.inForce_of_getLast? List.getLast?_concat]
      exact ⟨hsource, ⟨fun _ => rfl, fun _ => rfl⟩, rfl⟩
    | false =>
      obtain ⟨hkept, hne, hadded⟩ := LikeCall.apply_of_not_isAll hcall
        (calls.foldl LikeCall.apply { source })
      have hother : call ≠ .includeAll := by
        rintro rfl
        cases hcall
      refine ⟨hkept.trans hsource, iff_of_false hne hother, ?_⟩
      rw [hadded, hclauses, LikeCall.inForce_concat hcall, List.map_append]
      by_cases hlast : calls.getLast? = some .includeAll
      · rw [if_pos (hall.mpr hlast), LikeCall.afterLastAll_of_getLast? hlast]
        rfl
      · rw [if_neg (hall.not.mpr hlast), LikeCall.inForce_of_getLast?_ne hlast]
        rfl

theorem LikeClause.render_foldl (d : Dialect) (source : String) (calls : List LikeCall) :
    (calls.foldl LikeCall.apply { source }).render d = textOf d source (LikeCall.inForce calls) := by
  obtain ⟨hsource, -, hclauses⟩ := foldl_calls source calls
  rw [render, LikeOptions.sql_eq_join_clauses, hsource, hclauses, List.map_map]
  rfl

namespace LikeClause

theorem textOf_append (before after : List LikeCall) :
    textOf d source (before ++ after) =
      textOf d source before ++ String.join (after.map LikeCall.sql) := by
  simp only [textOf, List.map_append, String.join_append, String.append_assoc]

/-- INCLUDING ALL can be seen in the text. -/
theorem textOf_includeAll_ne : textOf d source (.includeAll :: calls) ≠ textOf d source calls := by
  intro h
  have hlength := congrArg String.length h
  simp only [textOf, List.map_cons, String.join_cons, String.length_append] at hlength
  have hall : (LikeCall.sql .includeAll).length = 14 := by decide
  omega

theorem textOf_inForce_eq_iff :
    textOf d source (LikeCall.inForce calls) = textOf d source (LikeCall.sinceLastAll calls) ↔
      (.includeAll ∈ calls → calls.getLast? = some .includeAll) := by
  by_cases hlast : calls.getLast? = some .includeAll
  · have hmem : .includeAll ∈ calls := List.mem_of_getLast? hlast
    simp [LikeCall.sinceLastAll, LikeCall.inForce_of_getLast? hlast,
      LikeCall.afterLastAll_of_getLast? hlast, LikeCall.any_isAll.mpr hmem, hlast]
  · rw [LikeCall.inForce_of_getLast?_ne hlast, LikeCall.sinceLastAll]
    by_cases hmem : LikeCall.includeAll ∈ calls
    · rw [if_pos (LikeCall.any_isAll.mpr hmem)]
      exact iff_of_false textOf_includeAll_ne.symm fun h => hlast (h hmem)
    · rw [if_neg (LikeCall.any_isAll.not.mpr hmem)]
      exact iff_of_true rfl fun h => absurd h hmem

theorem textOf_inForce_concat_eq_iff (h : call.isAll = false) :
    textOf d source (LikeCall.inForce (calls ++ [call])) =
        textOf d source (LikeCall.inForce calls) ++ call.sql ↔
      calls.getLast? ≠ some .includeAll := by
  have hone (before : List LikeCall) :
      textOf d source before ++ call.sql = textOf d source (before ++ [call]) := by
    simp [textOf_append]
  rw [LikeCall.inForce_concat h, hone]
  by_cases hlast : calls.getLast? = some .includeAll
  · rw [LikeCall.inForce_of_getLast? hlast, LikeCall.afterLastAll_of_getLast? hlast]
    exact iff_of_false textOf_includeAll_ne.symm (not_not_intro hlast)
  · rw [LikeCall.inForce_of_getLast?_ne hlast]
    exact iff_of_true rfl hlast

/-- A LIKE clause shows INCLUDING ALL alone if everything was included last, and otherwise the
features chosen since then, each by a clause of its own in the order of the calls. So INCLUDING ALL
is missing from what was asked for exactly if a feature was chosen after it, and to choose a feature
drops nothing but INCLUDING ALL right before it. -/
theorem render_calls (d : Dialect) (source : String) (calls : List LikeCall) :
    let rendered (calls : List LikeCall) := (calls.foldl LikeCall.apply { source }).render d
    rendered calls = textOf d source (LikeCall.inForce calls) ∧
    (rendered calls = textOf d source (LikeCall.sinceLastAll calls) ↔
      (.includeAll ∈ calls → calls.getLast? = some .includeAll)) ∧
    ∀ call : LikeCall, call.isAll = false →
      (rendered (calls ++ [call]) = rendered calls ++ call.sql ↔
        calls.getLast? ≠ some .includeAll) := by
  intro rendered
  have hrendered (calls : List LikeCall) :
      rendered calls = textOf d source (LikeCall.inForce calls) := render_foldl d source calls
  refine ⟨hrendered calls, ?_, ?_⟩
  · rw [hrendered]
    exact textOf_inForce_eq_iff
  · intro call hcall
    rw [hrendered, hrendered]
    exact textOf_inForce_concat_eq_iff hcall

/-- What was chosen before everything was included is gone, and what is chosen since then stays. -/
theorem render_calls_resumed :
    let calls : List LikeCall := [.including .comments, .includeAll, .excluding .indexes]
    let call : LikeCall := .including .defaults
    let rendered (calls : List LikeCall) :=
      (calls.foldl LikeCall.apply { source := "p" }).render Postgres.dialect
    rendered calls = "LIKE p EXCLUDING INDEXES" ∧ call.isAll = false ∧
      call.sql = " INCLUDING DEFAULTS" ∧ rendered (calls ++ [call]) = rendered calls ++ call.sql := by
  intro calls call rendered
  obtain ⟨hcalls, -, hadded⟩ := render_calls Postgres.dialect "p" calls
  exact ⟨hcalls.trans (by decide +kernel), rfl, rfl, (hadded call rfl).mpr (by simp [calls])⟩

/-- A feature that is left out after everything was included: nothing is included any more. -/
theorem render_not_sinceLastAll :
    let calls : List LikeCall := [.includeAll, .excluding .indexes]
    let rendered := (calls.foldl LikeCall.apply { source := "p" }).render Postgres.dialect
    rendered = "LIKE p EXCLUDING INDEXES" ∧
      textOf Postgres.dialect "p" (LikeCall.sinceLastAll calls) =
        "LIKE p INCLUDING ALL EXCLUDING INDEXES" ∧
      rendered ≠ textOf Postgres.dialect "p" (LikeCall.sinceLastAll calls) := by
  refine ⟨?_, ?_, ?_⟩ <;> decide +kernel

end LikeClause

end

end SchemaDraft
