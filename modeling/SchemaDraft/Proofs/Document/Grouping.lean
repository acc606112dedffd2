import SchemaDraft.Proofs.Document.Batch
import SchemaDraft.Proofs.Document.Loading
import SchemaDraft.Proofs.Literal.Formatting

/-!
How blueprints are spread over files. A file may hold one blueprint, several or none; what comes of
a batch depends on the blueprints and their order alone, up to the paths that it names. Either all
of them compile, or the batch stops at the first that does not.
-/

namespace SchemaDraft

def Blueprint.compiles (b : Blueprint) : Bool := (b.compile Postgres.dialect).isOk

/-- What is compiled, without the file it comes from. -/
def CompiledBlueprint.content (c : CompiledBlueprint) : String × List String :=
  (c.table, c.statements)

/-- What a blueprint compiles to: its table and its statements. -/
def Blueprint.CompilesTo (b : Blueprint) (content : String × List String) : Prop :=
  b.table = content.1 ∧ b.compile Postgres.dialect = .ok content.2

/-- All the files can be loaded, and together they hold these blueprints in this order. -/
def HoldBlueprints (files : List SourceFile) (blueprints : List Blueprint) : Prop :=
  ∃ groups, List.Forall₂ (fun file group => file.load = .ok group) files groups ∧
    groups.flatten = blueprints

/-- What may come of blueprints that are compiled one after another, from whatever files. -/
inductive Settled (blueprints : List Blueprint) :
    Except DocumentError (List CompiledBlueprint) → Prop where
  | finished {compiled : List CompiledBlueprint}
      (h : List.Forall₂ Blueprint.CompilesTo blueprints (compiled.map CompiledBlueprint.content)) :
      Settled blueprints (.ok compiled)
  | stopped {b : Blueprint} {path : String} {e : CompileError}
      (hfirst : blueprints.find? (!·.compiles) = some b)
      (herror : b.compile Postgres.dialect = .error e) :
      Settled blueprints (.error (.compile path b.table e))

theorem Blueprint.CompilesTo.compiles {b : Blueprint} {content : String × List String}
    (h : b.CompilesTo content) : b.compiles = true := by
  rw [Blueprint.compiles, h.2]
  rfl

theorem find?_of_compilesTo {blueprints : List Blueprint} {contents : List (String × List String)}
    (h : List.Forall₂ Blueprint.CompilesTo blueprints contents) :
    blueprints.find? (!·.compiles) = none := by
  rw [List.find?_eq_none]
  intro b hb
  obtain ⟨content, hcontent⟩ := exists_forall₂.mp ⟨_, h⟩ b hb
  simp [hcontent.compiles]

namespace Settled

variable {blueprints others : List Blueprint}
  {result result' : Except DocumentError (List CompiledBlueprint)}

theorem empty : Settled [] Batch.empty.result := .finished .nil

theorem ofBlueprint (path : String) (b : Blueprint) :
    Settled [b] (Batch.ofBlueprint path b).result := by
  cases hcompile : b.compile Postgres.dialect with
  | ok statements =>
    have hresult : (Batch.ofBlueprint path b).result = .ok [⟨path, b.table, statements⟩] := by
      rw [Blueprint.compile] at hcompile
      simp only [Batch.ofBlueprint, hcompile]
    rw [hresult]
    exact .finished (.cons ⟨rfl, hcompile⟩ .nil)
  | error e =>
    have hresult : (Batch.ofBlueprint path b).result = .error (.compile path b.table e) := by
      rw [Blueprint.compile] at hcompile
      simp only [Batch.ofBlueprint, hcompile]
    have hfails : b.compiles = false := by
      rw [Blueprint.compiles, hcompile]
      rfl
    rw [hresult]
    exact .stopped (by simp [hfails]) hcompile

/-- What stopped a first batch stops it all; after one that is finished, the second decides. -/
theorem andThen {first second : Batch} (hfirst : Settled blueprints first.result)
    (hsecond : Settled others second.result) :
    Settled (blueprints ++ others) (first.andThen second).result := by
  unfold Batch.andThen
  generalize first.result = firstResult at hfirst
  generalize second.result = secondResult at hsecond
  cases hfirst with
  | stopped hfailing herror => exact .stopped (by simp [hfailing]) herror
  | finished hall =>
    cases hsecond with
    | finished hothers =>
      refine .finished ?_
      rw [List.map_append]
      exact List.rel_append hall hothers
    | stopped hfailing herror =>
      exact .stopped (by simp [find?_of_compilesTo hall, hfailing]) herror

theorem ofBlueprints (path : String) (blueprints : List Blueprint) :
    Settled blueprints (Batch.ofBlueprints path blueprints).result := by
  induction blueprints with
  | nil => exact empty
  | cons b blueprints ih => exact (ofBlueprint path b).andThen ih

theorem ofFile {file : SourceFile} (h : file.load = .ok blueprints) :
    Settled blueprints (Batch.ofFile file).result := by
  simp only [Batch.ofFile, h]
  exact ofBlueprints file.path blueprints

theorem ofFiles {files : List SourceFile} (h : HoldBlueprints files blueprints) :
    Settled blueprints (Batch.ofFiles files).result := by
  obtain ⟨groups, hgroups, rfl⟩ := h
  induction hgroups with
  | nil => exact empty
  | cons hload _ ih => exact (ofFile hload).andThen ih

/-- Two results for the same blueprints differ in nothing but paths. -/
theorem agree (h : Settled blueprints result) (h' : Settled blueprints result') :
    (∃ compiled compiled', result = .ok compiled ∧ result' = .ok compiled' ∧
      List.Forall₂ Blueprint.CompilesTo blueprints (compiled.map CompiledBlueprint.content) ∧
      compiled.map CompiledBlueprint.content = compiled'.map CompiledBlueprint.content) ∨
    ∃ b e path path', blueprints.find? (!·.compiles) = some b ∧
      b.compile Postgres.dialect = .error e ∧
      result = .error (.compile path b.table e) ∧ result' = .error (.compile path' b.table e) := by
  cases h with
  | finished hall =>
    cases h' with
    | finished hall' =>
      have hunique : Relator.RightUnique Blueprint.CompilesTo := by
        rintro b ⟨table, statements⟩ ⟨table', statements'⟩ ⟨rfl, hs⟩ ⟨rfl, hs'⟩
        obtain rfl : statements = statements' := Except.ok.inj (hs.symm.trans hs')
        rfl
      exact .inl ⟨_, _, rfl, rfl, hall, List.right_unique_forall₂' hunique hall hall'⟩
    | stopped hfirst _ =>
      rw [find?_of_compilesTo hall] at hfirst
      cases hfirst
  | stopped hfirst herror =>
    cases h' with
    | finished hall =>
      rw [find?_of_compilesTo hall] at hfirst
      cases hfirst
    | stopped hfirst' herror' =>
      obtain rfl := Option.some.inj (hfirst.symm.trans hfirst')
      obtain rfl := Except.error.inj (herror.symm.trans herror')
      exact .inr ⟨_, _, _, _, hfirst, herror, rfl, rfl⟩

end Settled

theorem renderScript_congr {compiled compiled' : List CompiledBlueprint}
    (h : compiled.map CompiledBlueprint.content = compiled'.map CompiledBlueprint.content) :
    renderScript compiled = renderScript compiled' := by
  have hstatements (compiled : List CompiledBlueprint) :
      allStatements compiled = (compiled.map CompiledBlueprint.content).flatMap Prod.snd := by
    rw [allStatements, List.flatMap_map]
    rfl
  rw [renderScript, renderScript, hstatements, hstatements, h]

/-- Files that hold the same blueprints in the same order compile alike, however the blueprints are
spread over them: to the same tables and statements, and so to the same script, or to the error of
the first blueprint that does not compile. -/
theorem compileFiles_regrouped {files others : List SourceFile} {blueprints : List Blueprint}
    (hfiles : HoldBlueprints files blueprints) (hothers : HoldBlueprints others blueprints) :
    (∃ compiled compiled', compileFiles files = .ok compiled ∧ compileFiles others = .ok compiled' ∧
      List.Forall₂ Blueprint.CompilesTo blueprints (compiled.map CompiledBlueprint.content) ∧
      compiled.map CompiledBlueprint.content = compiled'.map CompiledBlueprint.content ∧
      renderScript compiled = renderScript compiled') ∨
    ∃ b e path path', blueprints.find? (!·.compiles) = some b ∧
      b.compile Postgres.dialect = .error e ∧
      compileFiles files = .error (.compile path b.table e) ∧
      compileFiles others = .error (.compile path' b.table e) := by
  rcases (Settled.ofFiles hfiles).agree (Settled.ofFiles hothers) with
    ⟨compiled, compiled', hcompiled, hcompiled', hall, hsame⟩ | hstopped
  · exact .inl ⟨compiled, compiled', hcompiled, hcompiled', hall, hsame, renderScript_congr hsame⟩
  · exact .inr hstopped

section Written

variable {files : List SourceFile} {blueprints : List Blueprint} {path : String}

theorem HoldBlueprints.nil : HoldBlueprints [] [] := ⟨[], .nil, rfl⟩

theorem HoldBlueprints.cons {file : SourceFile} {group : List Blueprint}
    (hfile : file.load = .ok group) (h : HoldBlueprints files blueprints) :
    HoldBlueprints (file :: files) (group ++ blueprints) := by
  obtain ⟨groups, hgroups, rfl⟩ := h
  exact ⟨group :: groups, .cons hfile hgroups, rfl⟩

theorem HoldBlueprints.cons_one {b : Blueprint} (hfinite : Literal.AllFinite b.literals)
    (hdepth : b.toJson.depth ≤ documentDepth) (h : HoldBlueprints files blueprints) :
    HoldBlueprints (.ofJson path b.toJson :: files)
      (b.mapLiterals Literal.asWritten :: blueprints) :=
  .cons (SourceFile.load_ofJson (Blueprint.isExact_toJson hfinite) hdepth b.ofDocument?_toJson) h

theorem HoldBlueprints.cons_many (group : List Blueprint)
    (hfinite : ∀ b ∈ group, Literal.AllFinite b.literals)
    (hdepth : (Json.arr (group.map Blueprint.toJson)).depth ≤ documentDepth)
    (h : HoldBlueprints files blueprints) :
    HoldBlueprints (.ofJson path (.arr (group.map Blueprint.toJson)) :: files)
      (group.map (Blueprint.mapLiterals Literal.asWritten) ++ blueprints) := by
  have hexact := Json.isExact_arr_map fun b hb => Blueprint.isExact_toJson (hfinite b hb)
  exact .cons (SourceFile.load_ofJson hexact hdepth (Blueprint.ofDocument?_arr group)) h

end Written

/-- One file with everything, and three of which one holds nothing: what stops either batch is the
table without columns. -/
theorem compileFiles_regrouped_stopped :
    let kept : Blueprint := { table := "kept", commands := [.dropTable true] }
    let bare := Blueprint.create "bare"
    let files := [SourceFile.ofJson "all.json" (.arr ([kept, bare, kept].map Blueprint.toJson))]
    let others := [SourceFile.ofJson "kept.json" kept.toJson,
      SourceFile.ofJson "none.json" (.arr []),
      SourceFile.ofJson "rest.json" (.arr ([bare, kept].map Blueprint.toJson))]
    HoldBlueprints files [kept, bare, kept] ∧ HoldBlueprints others [kept, bare, kept] ∧
      ∃ path path',
        compileFiles files = .error (.compile path "bare" (.structure (.emptyTable "bare"))) ∧
        compileFiles others = .error (.compile path' "bare" (.structure (.emptyTable "bare"))) := by
  intro kept bare files others
  have hfiles : HoldBlueprints files [kept, bare, kept] :=
    .cons_many [kept, bare, kept] (by decide) (by decide) .nil
  have hothers : HoldBlueprints others [kept, bare, kept] :=
    .cons_one (by decide) (by decide)
      (.cons_many [] (by decide) (by decide)
        (.cons_many [bare, kept] (by decide) (by decide) .nil))
  have hbare : [kept, bare, kept].find? (!·.compiles) = some bare := by decide
  refine ⟨hfiles, hothers, ?_⟩
  -- The table without columns rules out that both are finished.
  rcases compileFiles_regrouped hfiles hothers with
    ⟨compiled, -, -, -, hall, -, -⟩ | ⟨b, e, path, path', hfirst, herror, hstopped, hstopped'⟩
  · rw [find?_of_compilesTo hall] at hbare
    cases hbare
  · obtain rfl := Option.some.inj (hbare.symm.trans hfirst)
    obtain rfl : .structure (.emptyTable "bare") = e := Except.error.inj herror
    exact ⟨path, path', hstopped, hstopped'⟩

end SchemaDraft
