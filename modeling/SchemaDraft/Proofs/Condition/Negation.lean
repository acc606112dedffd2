import Mathlib.Order.Defs.LinearOrder
import SchemaDraft.Proofs.Condition.Acceptance
import SchemaDraft.Proofs.Condition.Evaluation

/-!
Range checks and tests for membership against their negations. The negation has a text of its own:
a disjunction of strict comparisons for a conjunction, a test against all elements for a test
against any, one constant for the other. This is what negating the normal form node by node gives,
and in every row of ordered values it comes to the opposite truth value, NULL being its own
opposite. Where the test has no text, its negation is refused with the same report.
-/

namespace SchemaDraft

namespace Truth

def not : Truth → Truth
  | yes => no
  | no => yes
  | unknown => unknown

variable (s t : Truth)

theorem not_of (holds : Bool) : (of holds).not = of !holds := by cases holds <;> rfl

theorem not_and : (s.and t).not = s.not.or t.not := by cases s <;> cases t <;> rfl

theorem not_or : (s.or t).not = s.not.and t.not := by cases s <;> cases t <;> rfl

theorem not_all (truths : List Truth) : (all truths).not = any (truths.map not) := by
  induction truths with
  | nil => rfl
  | cons t truths ih => exact (not_and t (all truths)).trans (congrArg t.not.or ih)

theorem not_any (truths : List Truth) : (any truths).not = all (truths.map not) := by
  induction truths with
  | nil => rfl
  | cons t truths ih => exact (not_or t (any truths)).trans (congrArg t.not.and ih)

end Truth

/-- The comparison that holds of two values exactly if this one does not. -/
def Comparison.opposite : Comparison → Comparison
  | .eq => .notEq
  | .notEq => .eq
  | .lt => .gtEq
  | .ltEq => .gt
  | .gt => .ltEq
  | .gtEq => .lt

/-- Comparisons of values by their order. -/
def Meaning.ordered {V : Type} [LinearOrder V] (constant : String → String → V) : Meaning V where
  holds
    | .eq, a, b => a = b
    | .notEq, a, b => a ≠ b
    | .lt, a, b => a < b
    | .ltEq, a, b => a ≤ b
    | .gt, a, b => b < a
    | .gtEq, a, b => b ≤ a
  constant

/-- The form that denies a form. -/
def NormalForm.negation : NormalForm → NormalForm
  | .constant value => .constant !value
  | .comparison column operator literal => .comparison column operator.opposite literal
  | .columnComparison left operator right => .columnComparison left operator.opposite right
  | .membership column literals negated => .membership column literals !negated
  | .nullCheck column isNull => .nullCheck column !isNull
  | .conjunction left right => .disjunction left.negation right.negation
  | .disjunction left right => .conjunction left.negation right.negation

section Truths

variable {V : Type} [LinearOrder V] (constant : String → String → V)

theorem Meaning.not_compare (operator : Comparison) (a b : Option V) :
    ((Meaning.ordered constant).compare operator a b).not =
      (Meaning.ordered constant).compare operator.opposite a b := by
  cases a with
  | none => rfl
  | some a =>
    cases b with
    | none => rfl
    | some b =>
      refine (Truth.not_of _).trans (congrArg Truth.of (Bool.eq_iff_iff.mpr ?_))
      cases operator <;> simp [Meaning.ordered, Comparison.opposite]

/-- Each node of the negation comes to the opposite of what it denies, NULL values included. -/
theorem NormalForm.truth_negation (row : ColumnValues V) (form : NormalForm) :
    form.negation.truth (.ordered constant) row = (form.truth (.ordered constant) row).not := by
  induction form with
  | constant value => exact (Truth.not_of value).symm
  | comparison column operator literal => exact (Meaning.not_compare constant ..).symm
  | columnComparison left operator right => exact (Meaning.not_compare constant ..).symm
  | membership column literals negated =>
    cases negated with
    | false =>
      simp only [negation, truth, Bool.not_false, Bool.false_eq_true, if_true, if_false,
        Truth.not_any, List.map_map, Function.comp_def, Meaning.not_compare, Comparison.opposite]
    | true =>
      simp only [negation, truth, Bool.not_true, Bool.false_eq_true, if_true, if_false,
        Truth.not_all, List.map_map, Function.comp_def, Meaning.not_compare, Comparison.opposite]
  | nullCheck column isNull =>
    have hopposite : ((row column).isNone == !isNull) = !((row column).isNone == isNull) := by
      cases (row column).isNone <;> cases isNull <;> rfl
    exact (congrArg Truth.of hopposite).trans (Truth.not_of _).symm
  | conjunction left right ihl ihr =>
    rw [negation, truth, truth, Truth.not_and, ihl, ihr]
  | disjunction left right ihl ihr =>
    rw [negation, truth, truth, Truth.not_or, ihl, ihr]

end Truths

/-- What is told of a refusal. The place of it is only a name there. -/
inductive RefusalReport where
  | unsupportedLiteral (place reason : String)
  | nullOperand (place : String)
  | placeholderMismatch (template : String) (placeholders bindings : Nat)

def RenderError.report : RenderError → RefusalReport
  | .unsupportedLiteral site reason => .unsupportedLiteral site.describe reason
  | .nullOperand node => .nullOperand node.describe
  | .placeholderMismatch template placeholders bindings =>
    .placeholderMismatch template placeholders bindings

/-- A test of a column that has a negation. -/
inductive ValueTest where
  | between (low high : Literal)
  | oneOf (values : List Literal)

namespace ValueTest

def condition (column : String) (negated : Bool) : ValueTest → Condition
  | between low high => .between column low high negated
  | oneOf values => .membership column values negated

/-- No bound is NULL, and every bound or element has text. An element may be NULL. -/
def HasText : ValueTest → Prop
  | between low high => (low ≠ .null ∧ low.Renderable) ∧ high ≠ .null ∧ high.Renderable
  | oneOf values => ∀ value ∈ values, value.Renderable

end ValueTest

section Refusals

variable {α β γ : Type} {d : Dialect}

/-- What is told of a computation that is refused. -/
def refusal? : Except RenderError α → Option RefusalReport
  | .error e => some e.report
  | .ok _ => none

theorem refusal?_eq_none {x : Except RenderError α} : refusal? x = none ↔ ∃ a, x = .ok a := by
  cases x <;> simp [refusal?]

theorem refusal?_eq_some {x : Except RenderError α} {report : RefusalReport} :
    refusal? x = some report ↔ ∃ e, x = .error e ∧ e.report = report := by
  cases x <;> simp [refusal?]

theorem refusal?_bind {x : Except RenderError α} {y : Except RenderError β}
    {f : α → Except RenderError γ} {g : β → Except RenderError γ} (h : refusal? x = refusal? y)
    (hrest : ∀ a b, refusal? (f a) = refusal? (g b)) : refusal? (x >>= f) = refusal? (y >>= g) := by
  cases x with
  | error e =>
    cases y with
    | error e' => exact h
    | ok b => cases h
  | ok a =>
    cases y with
    | error e' => cases h
    | ok b => exact hrest a b

theorem refusal?_operandText {node node' : Condition} (h : node.describe = node'.describe)
    (value : Literal) :
    refusal? (Condition.operandText d node value) =
      refusal? (Condition.operandText d node' value) := by
  unfold Condition.operandText Dialect.literalAt
  split
  · exact congrArg (fun place => some (RefusalReport.nullOperand place)) h
  · cases d.formatLiteral value with
    | error e =>
      exact congrArg (fun place => some (RefusalReport.unsupportedLiteral place e.reason)) h
    | ok text => rfl

theorem refusal?_literalsAt {node node' : Condition} (h : node.describe = node'.describe)
    (values : List Literal) :
    refusal? (d.literalsAt (.condition node) values) =
      refusal? (d.literalsAt (.condition node') values) := by
  unfold Dialect.literalsAt
  cases d.formatLiterals values with
  | error e =>
    exact congrArg (fun place => some (RefusalReport.unsupportedLiteral place e.reason)) h
  | ok texts => rfl

end Refusals

namespace ValueTest

theorem exists_render (column : String) (negated : Bool) {test : ValueTest} :
    (∃ text, (test.condition column negated).render Postgres.dialect = .ok text) ↔
      test.HasText := by
  cases test with
  | between low high =>
    simp only [condition, Condition.render, exists_bind_eq_ok, exists_pure_eq_ok, and_true,
      Condition.exists_operandText, exists_and_right, HasText]
  | oneOf values =>
    cases values with
    | nil => simp [condition, Condition.render, exists_pure_eq_ok, HasText]
    | cons value values =>
      simp only [condition, Condition.render, List.isEmpty_cons, Bool.false_eq_true, if_false,
        exists_bind_eq_ok, exists_pure_eq_ok, and_true, Dialect.literalsAt_eq_ok,
        Literal.exists_formatLiterals, HasText]

/-- The texts of a test and of its negation are refused alike. -/
theorem refusal?_render (d : Dialect) (column : String) (test : ValueTest) (negated : Bool) :
    refusal? ((test.condition column negated).render d) =
      refusal? ((test.condition column false).render d) := by
  cases test with
  | between low high =>
    have hoperand (value : Literal) :
        refusal? (Condition.operandText d (.between column low high negated) value) =
          refusal? (Condition.operandText d (.between column low high false) value) :=
      refusal?_operandText (by rfl) value
    exact refusal?_bind (hoperand low) fun _ _ => refusal?_bind (hoperand high) fun _ _ => rfl
  | oneOf values =>
    simp only [condition, Condition.render]
    split
    · rfl
    · have hvalues :
          refusal? (d.literalsAt (.condition (.membership column values negated)) values) =
            refusal? (d.literalsAt (.condition (.membership column values false)) values) :=
        refusal?_literalsAt (by rfl) values
      exact refusal?_bind hvalues fun _ _ => rfl

theorem fragmentFree_condition (column : String) (negated : Bool) (test : ValueTest) :
    (test.condition column negated).fragmentFree = true := by
  cases test <;> rfl

theorem normalForm_negated (d : Dialect) (column : String) (test : ValueTest) :
    (test.condition column true).normalForm d =
      ((test.condition column false).normalForm d).map NormalForm.negation := by
  cases test with
  | between low high =>
    simp only [condition, Condition.normalForm]
    cases (d.formatLiteral low).toOption with
    | none => rfl
    | some lowText => cases (d.formatLiteral high).toOption <;> rfl
  | oneOf values =>
    simp only [condition, Condition.normalForm]
    split
    · rfl
    · cases (d.formatLiterals values).toOption <;> rfl

end ValueTest

theorem Condition.evaluate?_of_render {V : Type} (m : Meaning V) (row : ColumnValues V)
    {e : Condition} {text : String} {form : NormalForm} (hfree : e.fragmentFree = true)
    (h : e.render Postgres.dialect = .ok text) (hform : e.normalForm Postgres.dialect = some form) :
    evaluate? m row text = some (form.truth m row) := by
  obtain ⟨form', hform', rfl⟩ := normalForm_of_render hfree h
  obtain rfl := Option.some.inj (hform'.symm.trans hform)
  rw [evaluate?, NormalForm.read?_text (isPostgres_of_normalForm hform), Option.map_some]

/-- A range check or a test for membership and its negation are refused with the same report, which
happens if a bound is NULL or some literal has no text; or else both have texts, and these come to
opposite truth values in every row, whatever the order of the values is and whether the column is
NULL or not. -/
theorem ValueTest.refused_or_denied (column : String) (test : ValueTest) :
    (¬ test.HasText ∧ ∃ report, ∀ negated, ∃ e,
      (test.condition column negated).render Postgres.dialect = .error e ∧ e.report = report) ∨
    (test.HasText ∧ ∃ text negation,
      (test.condition column false).render Postgres.dialect = .ok text ∧
      (test.condition column true).render Postgres.dialect = .ok negation ∧
      ∀ (V : Type) [LinearOrder V] (constant : String → String → V) (row : ColumnValues V),
        ∃ truth, evaluate? (.ordered constant) row text = some truth ∧
          evaluate? (.ordered constant) row negation = some truth.not) := by
  by_cases htext : test.HasText
  · right
    obtain ⟨text, hrender⟩ := (exists_render column false).mpr htext
    obtain ⟨negation, hnegation⟩ := (exists_render column true).mpr htext
    refine ⟨htext, text, negation, hrender, hnegation, ?_⟩
    intro V _ constant row
    have hfree := fragmentFree_condition column false test
    obtain ⟨form, hform, -⟩ := Condition.normalForm_of_render hfree hrender
    have hopposite : (test.condition column true).normalForm Postgres.dialect =
        some form.negation := by
      rw [normalForm_negated, hform, Option.map_some]
    refine ⟨form.truth (.ordered constant) row, ?_, ?_⟩
    · exact Condition.evaluate?_of_render _ row hfree hrender hform
    · rw [← NormalForm.truth_negation]
      exact Condition.evaluate?_of_render _ row (fragmentFree_condition column true test)
        hnegation hopposite
  · left
    refine ⟨htext, ?_⟩
    cases hrefusal : refusal? ((test.condition column false).render Postgres.dialect) with
    | none => exact absurd ((exists_render column false).mp (refusal?_eq_none.mp hrefusal)) htext
    | some report =>
      refine ⟨report, fun negated => refusal?_eq_some.mp ?_⟩
      rw [refusal?_render, hrefusal]

end SchemaDraft
