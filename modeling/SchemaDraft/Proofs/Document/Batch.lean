import SchemaDraft.Document

/-!
When a batch of files compiles. Files are taken one after another and the first error stops the
batch, so it has a result exactly if every file can be loaded and every blueprint in it compiles.
-/

namespace SchemaDraft

/-- A file can be loaded, and every blueprint in it compiles. -/
def SourceFile.Compiles (file : SourceFile) : Prop :=
  ∃ blueprints, file.load = .ok blueprints ∧
    ∀ b ∈ blueprints, ∃ statements, b.compile Postgres.dialect = .ok statements

namespace Batch

variable {first second : Batch} {path : String}

/-- A second batch is compiled after a first one that succeeds, and adds to its result. -/
theorem result_andThen_eq_ok {compiled : List CompiledBlueprint} :
    (first.andThen second).result = .ok compiled ↔
      ∃ before after, first.result = .ok before ∧ second.result = .ok after ∧
        before ++ after = compiled := by
  unfold andThen
  cases first.result with
  | error e => simp
  | ok before => cases second.result <;> simp [Except.map]

theorem exists_result_andThen :
    (∃ compiled, (first.andThen second).result = .ok compiled) ↔
      (∃ compiled, first.result = .ok compiled) ∧ ∃ compiled, second.result = .ok compiled := by
  simp only [result_andThen_eq_ok]
  constructor
  · rintro ⟨_, before, after, hbefore, hafter, -⟩
    exact ⟨⟨before, hbefore⟩, after, hafter⟩
  · rintro ⟨⟨before, hbefore⟩, after, hafter⟩
    exact ⟨_, before, after, hbefore, hafter, rfl⟩

theorem exists_result_ofBlueprint {b : Blueprint} :
    (∃ compiled, (ofBlueprint path b).result = .ok compiled) ↔
      ∃ statements, b.compile Postgres.dialect = .ok statements := by
  simp only [ofBlueprint, Blueprint.compile]
  cases (b.compilation Postgres.dialect).result <;> simp

theorem exists_result_ofBlueprints {blueprints : List Blueprint} :
    (∃ compiled, (ofBlueprints path blueprints).result = .ok compiled) ↔
      ∀ b ∈ blueprints, ∃ statements, b.compile Postgres.dialect = .ok statements := by
  induction blueprints with
  | nil => simp [ofBlueprints, empty]
  | cons b rest ih =>
    rw [ofBlueprints, exists_result_andThen, exists_result_ofBlueprint, ih, List.forall_mem_cons]

theorem exists_result_ofFile {file : SourceFile} :
    (∃ compiled, (ofFile file).result = .ok compiled) ↔ file.Compiles := by
  unfold ofFile SourceFile.Compiles
  cases file.load with
  | error e => simp
  | ok blueprints =>
    simp only [exists_result_ofBlueprints, Except.ok.injEq, exists_eq_left']

theorem exists_result_ofFiles {files : List SourceFile} :
    (∃ compiled, (ofFiles files).result = .ok compiled) ↔ ∀ file ∈ files, file.Compiles := by
  induction files with
  | nil => simp [ofFiles, empty]
  | cons file rest ih =>
    rw [ofFiles, exists_result_andThen, exists_result_ofFile, ih, List.forall_mem_cons]

end Batch

end SchemaDraft
