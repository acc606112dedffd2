import SchemaDraft.Proofs.Blueprint.Faults
import SchemaDraft.Proofs.Condition.NormalForm

/-!
Which literals and which conditions have text in PostgreSQL, said of their content. A condition is
looked at twice, for empty names before any text is made and for what has no text later; it passes
both exactly if every node of it is acceptable.
-/

namespace SchemaDraft

/-- A finite number, a text without NUL, or any value of another kind. -/
def Literal.Renderable : Literal → Prop
  | .float (.finite _ _) => True
  | .float _ => False
  | .text s => '\x00' ∉ s.toList
  | _ => True

theorem Literal.exists_formatLiteral {value : Literal} :
    (∃ text, Postgres.dialect.formatLiteral value = .ok text) ↔ value.Renderable := by
  change (∃ text, Postgres.formatLiteral value = .ok text) ↔ value.Renderable
  cases value with
  | boolean b => cases b <;> simp [Postgres.formatLiteral, Renderable]
  | float x =>
    cases x with
    | finite negative rank => simp [Postgres.formatLiteral, Postgres.floatText, Renderable]
    | nan => simp [Postgres.formatLiteral, Postgres.floatText, Renderable]
    | infinite negative =>
      cases negative <;> simp [Postgres.formatLiteral, Postgres.floatText, Renderable]
  | text s =>
    simp only [Postgres.formatLiteral, Renderable]
    split <;> simp_all
  | _ => simp [Postgres.formatLiteral, Renderable]

theorem Literal.exists_formatLiterals {values : List Literal} :
    (∃ texts, Postgres.dialect.formatLiterals values = .ok texts) ↔
      ∀ value ∈ values, value.Renderable := by
  simp only [Dialect.formatLiterals_eq_ok, exists_forall₂, exists_formatLiteral]

namespace Condition

/-- What a condition must be for its text: no column is empty, no NULL is compared, every literal
has text, and a fragment has one bound value for each question mark. -/
def Acceptable : Condition → Prop
  | .comparison column _ value => column ≠ "" ∧ value ≠ .null ∧ value.Renderable
  | .columnComparison left _ right => left ≠ "" ∧ right ≠ ""
  | .between column low high _ =>
    column ≠ "" ∧ (low ≠ .null ∧ low.Renderable) ∧ high ≠ .null ∧ high.Renderable
  | .membership column values _ => column ≠ "" ∧ ∀ value ∈ values, value.Renderable
  | .nullCheck column _ => column ≠ ""
  | .fragment template bindings =>
    template.toList.count '?' = bindings.length ∧ ∀ value ∈ bindings, value.Renderable
  | .conjunction left right => left.Acceptable ∧ right.Acceptable
  | .disjunction left right => left.Acceptable ∧ right.Acceptable

theorem exists_operandText {node : Condition} {value : Literal} :
    (∃ text, operandText Postgres.dialect node value = .ok text) ↔
      value ≠ .null ∧ value.Renderable := by
  have hnull : value.isNull = false ↔ value ≠ .null := by cases value <;> simp [Literal.isNull]
  simp only [operandText_eq_ok, exists_and_left, Literal.exists_formatLiteral, hnull]

theorem acceptable_iff {e : Condition} :
    (e.faults = [] ∧ ∃ text, e.render Postgres.dialect = .ok text) ↔ e.Acceptable := by
  induction e with
  | comparison column operator value =>
    simp only [faults, nameFaults_eq_nil, render, exists_bind_eq_ok, exists_pure_eq_ok, and_true,
      exists_operandText, Acceptable]
  | columnComparison left operator right =>
    simp only [faults, List.append_eq_nil_iff, nameFaults_eq_nil, render, exists_pure_eq_ok,
      and_true, Acceptable]
  | between column low high negated =>
    simp only [faults, nameFaults_eq_nil, render, exists_bind_eq_ok, exists_pure_eq_ok, and_true,
      exists_operandText, exists_and_right, Acceptable]
  | membership column values negated =>
    cases values with
    | nil => simp [faults, nameFaults_eq_nil, render, exists_pure_eq_ok, Acceptable]
    | cons value values =>
      simp only [faults, nameFaults_eq_nil, render, List.isEmpty_cons, Bool.false_eq_true,
        if_false, exists_bind_eq_ok, exists_pure_eq_ok, and_true, Dialect.literalsAt_eq_ok,
        Literal.exists_formatLiterals, Acceptable]
  | nullCheck column isNull =>
    simp only [faults, nameFaults_eq_nil, render, exists_pure_eq_ok, and_true, Acceptable]
  | fragment template bindings =>
    simp only [faults, true_and, render, placeholders, Acceptable]
    by_cases hcount : template.toList.count '?' = bindings.length
    · simp only [hcount, ne_eq, not_true_eq_false, if_false, exists_bind_eq_ok, exists_pure_eq_ok,
        and_true, Dialect.literalsAt_eq_ok, Literal.exists_formatLiterals, true_and]
    · simp [hcount]
  | conjunction left right ihl ihr =>
    simp only [faults, List.append_eq_nil_iff, render, exists_bind_eq_ok, exists_pure_eq_ok,
      and_true, exists_and_right, Acceptable, ← ihl, ← ihr]
    exact and_and_and_comm
  | disjunction left right ihl ihr =>
    simp only [faults, List.append_eq_nil_iff, render, exists_bind_eq_ok, exists_pure_eq_ok,
      and_true, exists_and_right, Acceptable, ← ihl, ← ihr]
    exact and_and_and_comm

end Condition

end SchemaDraft
