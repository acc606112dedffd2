import SchemaDraft.Condition.Sql
import SchemaDraft.Proofs.Literal.Formatting
import SchemaDraft.Proofs.Literal.Text
import SchemaDraft.Proofs.Sql.Spelling

/-!
The normal form of a condition: what its SQL text says, with each column as it is spelled and each
literal as it is written. A range check is the conjunction of its two comparisons, or the
disjunction that denies it, and a membership test without values is a constant. The text of a
condition is the text of its normal form.
-/

namespace SchemaDraft

inductive NormalForm where
  | constant (value : Bool)
  | comparison (column : String) (operator : Comparison) (literal : String)
  | columnComparison (left : String) (operator : Comparison) (right : String)
  | membership (column : String) (literals : List String) (negated : Bool)
  | nullCheck (column : String) (isNull : Bool)
  | conjunction (left right : NormalForm)
  | disjunction (left right : NormalForm)
  deriving DecidableEq

namespace Condition

/-- Whether no node carries SQL text of its own. -/
def fragmentFree : Condition → Bool
  | .fragment _ _ => false
  | .conjunction left right => left.fragmentFree && right.fragmentFree
  | .disjunction left right => left.fragmentFree && right.fragmentFree
  | _ => true

/-- The normal form in a dialect, unless some literal has no text in it or some node is a
fragment. -/
def normalForm (d : Dialect) : Condition → Option NormalForm
  | .comparison column operator value => do
    let text ← (d.formatLiteral value).toOption
    return .comparison (d.quoteIdentifier column) operator text
  | .columnComparison left operator right =>
    some (.columnComparison (d.quoteIdentifier left) operator (d.quoteIdentifier right))
  | .between column low high negated => do
    let lowText ← (d.formatLiteral low).toOption
    let highText ← (d.formatLiteral high).toOption
    let column := d.quoteIdentifier column
    return if negated then
        .disjunction (.comparison column .lt lowText) (.comparison column .gt highText)
      else .conjunction (.comparison column .gtEq lowText) (.comparison column .ltEq highText)
  | .membership column values negated =>
    if values.isEmpty then some (.constant negated)
    else do
      let texts ← (d.formatLiterals values).toOption
      return .membership (d.quoteIdentifier column) texts negated
  | .nullCheck column isNull => some (.nullCheck (d.quoteIdentifier column) isNull)
  | .fragment _ _ => none
  | .conjunction left right => do
    let leftForm ← left.normalForm d
    let rightForm ← right.normalForm d
    return .conjunction leftForm rightForm
  | .disjunction left right => do
    let leftForm ← left.normalForm d
    let rightForm ← right.normalForm d
    return .disjunction leftForm rightForm

end Condition

namespace NormalForm

def text : NormalForm → String
  | .constant value => Condition.emptyMembershipText value
  | .comparison column operator literal => column ++ " " ++ operator.sql ++ " " ++ literal
  | .columnComparison left operator right => left ++ " " ++ operator.sql ++ " " ++ right
  | .membership column literals negated => Condition.membershipText column literals negated
  | .nullCheck column isNull => column ++ (if isNull then " IS NULL" else " IS NOT NULL")
  | .conjunction left right => "(" ++ left.text ++ ") AND (" ++ right.text ++ ")"
  | .disjunction left right => "(" ++ left.text ++ ") OR (" ++ right.text ++ ")"

def IsColumn (text : String) : Prop := ∃ name, text = Sql.quoteIdentifier name

def IsLiteral (text : String) : Prop := Postgres.LiteralText text.toList

/-- Each column in the form is the spelling of some name, and each literal has the text of one. -/
def IsPostgres : NormalForm → Prop
  | .constant _ => True
  | .comparison column _ literal => IsColumn column ∧ IsLiteral literal
  | .columnComparison left _ right => IsColumn left ∧ IsColumn right
  | .membership column literals _ =>
    IsColumn column ∧ literals ≠ [] ∧ ∀ literal ∈ literals, IsLiteral literal
  | .nullCheck column _ => IsColumn column
  | .conjunction left right => left.IsPostgres ∧ right.IsPostgres
  | .disjunction left right => left.IsPostgres ∧ right.IsPostgres

end NormalForm

namespace Condition

theorem operandText_eq_ok {d : Dialect} {node : Condition} {value : Literal} {text : String} :
    operandText d node value = .ok text ↔
      value.isNull = false ∧ d.formatLiteral value = .ok text := by
  unfold operandText
  cases value.isNull with
  | true => simp
  | false => simp [Dialect.literalAt_eq_ok]

/-- A condition that is rendered has a normal form, and what is rendered is its text. -/
theorem normalForm_of_render {d : Dialect} {e : Condition} {text : String}
    (hfree : e.fragmentFree = true) (h : e.render d = .ok text) :
    ∃ form, e.normalForm d = some form ∧ form.text = text := by
  induction e generalizing text with
  | comparison column operator value =>
    simp only [render, bind_eq_ok, pure_eq_ok, operandText_eq_ok] at h
    obtain ⟨literal, ⟨-, hliteral⟩, rfl⟩ := h
    exact ⟨_, by simp [normalForm, hliteral, Except.toOption]; rfl, rfl⟩
  | columnComparison left operator right =>
    obtain rfl := Except.ok.inj h
    exact ⟨_, rfl, rfl⟩
  | between column low high negated =>
    simp only [render, bind_eq_ok, pure_eq_ok, operandText_eq_ok] at h
    obtain ⟨lowText, ⟨-, hlow⟩, highText, ⟨-, hhigh⟩, rfl⟩ := h
    refine ⟨_, by simp [normalForm, hlow, hhigh, Except.toOption]; rfl, ?_⟩
    cases negated <;> simp [betweenText, NormalForm.text, Comparison.sql, String.append_assoc]
  | membership column values negated =>
    cases hempty : values.isEmpty with
    | true =>
      simp only [render, hempty, if_true] at h
      obtain rfl := Except.ok.inj h
      exact ⟨_, by simp [normalForm, hempty]; rfl, rfl⟩
    | false =>
      simp only [render, hempty, Bool.false_eq_true, if_false, bind_eq_ok, pure_eq_ok,
        Dialect.literalsAt_eq_ok] at h
      obtain ⟨texts, htexts, rfl⟩ := h
      exact ⟨_, by simp [normalForm, hempty, htexts, Except.toOption]; rfl, rfl⟩
  | nullCheck column isNull =>
    obtain rfl := Except.ok.inj h
    exact ⟨_, rfl, rfl⟩
  | fragment template bindings => cases hfree
  | conjunction left right ihl ihr =>
    simp only [fragmentFree, Bool.and_eq_true] at hfree
    simp only [render, bind_eq_ok, pure_eq_ok] at h
    obtain ⟨leftText, hleft, rightText, hright, rfl⟩ := h
    obtain ⟨leftForm, hleftForm, rfl⟩ := ihl hfree.1 hleft
    obtain ⟨rightForm, hrightForm, rfl⟩ := ihr hfree.2 hright
    exact ⟨.conjunction leftForm rightForm, by simp [normalForm, hleftForm, hrightForm], rfl⟩
  | disjunction left right ihl ihr =>
    simp only [fragmentFree, Bool.and_eq_true] at hfree
    simp only [render, bind_eq_ok, pure_eq_ok] at h
    obtain ⟨leftText, hleft, rightText, hright, rfl⟩ := h
    obtain ⟨leftForm, hleftForm, rfl⟩ := ihl hfree.1 hleft
    obtain ⟨rightForm, hrightForm, rfl⟩ := ihr hfree.2 hright
    exact ⟨.disjunction leftForm rightForm, by simp [normalForm, hleftForm, hrightForm], rfl⟩

private theorem isLiteral_of_toOption {value : Literal} {text : String}
    (h : (Postgres.dialect.formatLiteral value).toOption = some text) :
    NormalForm.IsLiteral text := by
  cases hformat : Postgres.formatLiteral value with
  | error e => simp [Postgres.dialect, hformat, Except.toOption] at h
  | ok found =>
    obtain rfl : found = text := by simpa [Postgres.dialect, hformat, Except.toOption] using h
    exact Postgres.literalText_of_formatLiteral hformat

private theorem isLiteral_of_formatLiterals {values : List Literal} {texts : List String}
    (h : (Postgres.dialect.formatLiterals values).toOption = some texts)
    (hne : values.isEmpty = false) :
    texts ≠ [] ∧ ∀ text ∈ texts, NormalForm.IsLiteral text := by
  cases hformat : Postgres.dialect.formatLiterals values with
  | error e => simp [hformat, Except.toOption] at h
  | ok found =>
    obtain rfl : found = texts := by simpa [hformat, Except.toOption] using h
    have hall := Dialect.formatLiterals_eq_ok.mp hformat
    constructor
    · rintro rfl
      cases hall
      cases hne
    · intro text htext
      obtain ⟨value, -, hvalue⟩ := exists_left_of_forall₂ hall htext
      exact Postgres.literalText_of_formatLiteral hvalue

theorem isPostgres_of_normalForm {e : Condition} {form : NormalForm}
    (h : e.normalForm Postgres.dialect = some form) : form.IsPostgres := by
  induction e generalizing form with
  | comparison column operator value =>
    simp only [normalForm, Option.bind_eq_bind, Option.bind_eq_some_iff] at h
    obtain ⟨literal, hliteral, hform⟩ := h
    obtain rfl := Option.some.inj hform
    exact ⟨⟨column, rfl⟩, isLiteral_of_toOption hliteral⟩
  | columnComparison left operator right =>
    obtain rfl := Option.some.inj h
    exact ⟨⟨left, rfl⟩, ⟨right, rfl⟩⟩
  | between column low high negated =>
    simp only [normalForm, Option.bind_eq_bind, Option.bind_eq_some_iff] at h
    obtain ⟨lowText, hlow, highText, hhigh, hform⟩ := h
    obtain rfl := Option.some.inj hform
    have hcolumn : NormalForm.IsColumn (Postgres.dialect.quoteIdentifier column) := ⟨column, rfl⟩
    have hlow := isLiteral_of_toOption hlow
    have hhigh := isLiteral_of_toOption hhigh
    cases negated <;> exact ⟨⟨hcolumn, hlow⟩, ⟨hcolumn, hhigh⟩⟩
  | membership column values negated =>
    rw [normalForm] at h
    split_ifs at h with hempty
    · obtain rfl := Option.some.inj h
      trivial
    · simp only [Option.bind_eq_bind, Option.bind_eq_some_iff] at h
      obtain ⟨texts, htexts, hform⟩ := h
      obtain rfl := Option.some.inj hform
      exact ⟨⟨column, rfl⟩, isLiteral_of_formatLiterals htexts (by simpa using hempty)⟩
  | nullCheck column isNull =>
    obtain rfl := Option.some.inj h
    exact ⟨column, rfl⟩
  | fragment template bindings => cases h
  | conjunction left right ihl ihr =>
    simp only [normalForm, Option.bind_eq_bind, Option.bind_eq_some_iff] at h
    obtain ⟨leftForm, hleft, rightForm, hright, hform⟩ := h
    obtain rfl := Option.some.inj hform
    exact ⟨ihl hleft, ihr hright⟩
  | disjunction left right ihl ihr =>
    simp only [normalForm, Option.bind_eq_bind, Option.bind_eq_some_iff] at h
    obtain ⟨leftForm, hleft, rightForm, hright, hform⟩ := h
    obtain rfl := Option.some.inj hform
    exact ⟨ihl hleft, ihr hright⟩

end Condition

end SchemaDraft
