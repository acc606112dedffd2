import SchemaDraft.Proofs.Condition.Json
import SchemaDraft.Proofs.Condition.Reader

/-!
What the SQL text of a condition comes to in a row. SQL has three truth values: a comparison with
NULL is neither true nor false. Comparisons and range checks with a NULL of their own have no text;
but a list of values may hold NULL, and a test for membership in it can come to NULL. Nothing else
can, as long as the columns hold values.
-/

namespace SchemaDraft

/-- What a condition comes to. -/
inductive Truth where
  | yes
  | no
  /-- NULL, as it depends on a value that is not known. -/
  | unknown
  deriving DecidableEq

namespace Truth

def of (holds : Bool) : Truth := if holds then yes else no

def and : Truth → Truth → Truth
  | no, _ | _, no => no
  | yes, yes => yes
  | _, _ => unknown

def or : Truth → Truth → Truth
  | yes, _ | _, yes => yes
  | no, no => no
  | _, _ => unknown

/-- Whether all of them hold. -/
def all (truths : List Truth) : Truth := truths.foldr and yes

/-- Whether one of them holds. -/
def any (truths : List Truth) : Truth := truths.foldr or no

variable {s t : Truth} {truths : List Truth}

theorem of_ne_unknown (holds : Bool) : of holds ≠ unknown := by cases holds <;> decide

theorem eq_of_of_ne_unknown (h : t ≠ unknown) : ∃ holds, t = of holds := by
  cases t with
  | yes => exact ⟨true, rfl⟩
  | no => exact ⟨false, rfl⟩
  | unknown => exact absurd rfl h

theorem and_ne_unknown (hs : s ≠ unknown) (ht : t ≠ unknown) : s.and t ≠ unknown := by
  cases s <;> cases t <;> simp_all [and]

theorem or_ne_unknown (hs : s ≠ unknown) (ht : t ≠ unknown) : s.or t ≠ unknown := by
  cases s <;> cases t <;> simp_all [or]

theorem all_ne_unknown (h : ∀ t ∈ truths, t ≠ unknown) : all truths ≠ unknown := by
  induction truths with
  | nil => decide
  | cons t truths ih =>
    rw [List.forall_mem_cons] at h
    exact and_ne_unknown h.1 (ih h.2)

theorem any_ne_unknown (h : ∀ t ∈ truths, t ≠ unknown) : any truths ≠ unknown := by
  induction truths with
  | nil => decide
  | cons t truths ih =>
    rw [List.forall_mem_cons] at h
    exact or_ne_unknown h.1 (ih h.2)

end Truth

/-- What texts and comparisons mean for values of some kind, none of them NULL. -/
structure Meaning (V : Type) where
  /-- Whether a comparison of two values holds. -/
  holds : Comparison → V → V → Bool
  /-- The value of a literal beside a column, which gives it its type. -/
  constant : String → String → V

/-- The value of each column, by its spelling, unless it is NULL. -/
abbrev ColumnValues (V : Type) := String → Option V

namespace Meaning

variable {V : Type} (m : Meaning V)

/-- A comparison with NULL is unknown. -/
def compare (operator : Comparison) : Option V → Option V → Truth
  | some a, some b => .of (m.holds operator a b)
  | _, _ => .unknown

/-- The value of a literal beside a column. Only the key word, not a quoted text, is NULL. -/
def literal (column text : String) : Option V :=
  if text = "NULL" then none else some (m.constant column text)

theorem compare_ne_unknown (operator : Comparison) {a b : Option V} (ha : a.isSome)
    (hb : b.isSome) : m.compare operator a b ≠ .unknown := by
  obtain ⟨a, rfl⟩ := Option.isSome_iff_exists.mp ha
  obtain ⟨b, rfl⟩ := Option.isSome_iff_exists.mp hb
  exact Truth.of_ne_unknown _

theorem isSome_literal (column : String) {value : Literal} {text : String}
    (h : Postgres.dialect.formatLiteral value = .ok text) (hvalue : value ≠ .null) :
    (m.literal column text).isSome := by
  have htext : text ≠ "NULL" := by
    rintro rfl
    exact hvalue (Postgres.formatLiteral_eq_null.mp h)
  simp [literal, htext]

end Meaning

namespace NormalForm

variable {V : Type}

/-- A test for membership compares the column with each element: it has to equal one of them, or to
differ from all of them. -/
def truth (m : Meaning V) (row : ColumnValues V) : NormalForm → Truth
  | .constant value => .of value
  | .comparison column operator literal =>
    m.compare operator (row column) (m.literal column literal)
  | .columnComparison left operator right => m.compare operator (row left) (row right)
  | .membership column literals negated =>
    if negated then .all (literals.map fun text =>
      m.compare .notEq (row column) (m.literal column text))
    else .any (literals.map fun text => m.compare .eq (row column) (m.literal column text))
  | .nullCheck column isNull => .of ((row column).isNone == isNull)
  | .conjunction left right => (left.truth m row).and (right.truth m row)
  | .disjunction left right => (left.truth m row).or (right.truth m row)

end NormalForm

/-- What the text of a condition comes to in a row, if it can be read. -/
def evaluate? {V : Type} (m : Meaning V) (row : ColumnValues V) (text : String) : Option Truth :=
  (NormalForm.read? text).map (NormalForm.truth m row)

namespace Condition

/-- The columns that a condition mentions outside fragments. -/
def columns : Condition → List String
  | .comparison column _ _ => [column]
  | .columnComparison left _ right => [left, right]
  | .between column _ _ _ => [column]
  | .membership column _ _ => [column]
  | .nullCheck column _ => [column]
  | .fragment _ _ => []
  | .conjunction left right => left.columns ++ right.columns
  | .disjunction left right => left.columns ++ right.columns

/-- The values that stand in lists. -/
def listedLiterals : Condition → List Literal
  | .membership _ values _ => values
  | .conjunction left right => left.listedLiterals ++ right.listedLiterals
  | .disjunction left right => left.listedLiterals ++ right.listedLiterals
  | _ => []

/-- What is rendered compares with no NULL, so one can only stand in a list. -/
theorem null_not_mem_literals {d : Dialect} {e : Condition} {text : String}
    (hfree : e.fragmentFree = true) (h : e.render d = .ok text)
    (hlisted : .null ∉ e.listedLiterals) : .null ∉ e.literals := by
  have hvalue {value : Literal} (hvalue : value.isNull = false) : .null ≠ value := by
    rintro rfl
    cases hvalue
  induction e generalizing text with
  | comparison column operator value =>
    simp only [render, bind_eq_ok, operandText_eq_ok] at h
    obtain ⟨_, ⟨hnull, -⟩, -⟩ := h
    simp [literals, hvalue hnull]
  | between column low high negated =>
    simp only [render, bind_eq_ok, operandText_eq_ok] at h
    obtain ⟨_, ⟨hlow, -⟩, _, ⟨hhigh, -⟩, -⟩ := h
    simp [literals, hvalue hlow, hvalue hhigh]
  | membership column values negated => exact hlisted
  | columnComparison _ _ _ | nullCheck _ _ => exact List.not_mem_nil
  | fragment template bindings => cases hfree
  | conjunction left right ihl ihr | disjunction left right ihl ihr =>
    simp only [fragmentFree, Bool.and_eq_true] at hfree
    simp only [render, bind_eq_ok] at h
    obtain ⟨_, hleft, _, hright, -⟩ := h
    simp only [listedLiterals, List.mem_append, not_or] at hlisted
    simp only [literals, List.mem_append, not_or]
    exact ⟨ihl hfree.1 hleft hlisted.1, ihr hfree.2 hright hlisted.2⟩

private theorem eq_ok_of_toOption {ε α : Type} {x : Except ε α} {a : α} (h : x.toOption = some a) :
    x = .ok a := by
  cases x with
  | error e => cases h
  | ok b => exact congrArg Except.ok (Option.some.inj h)

/-- Where no literal and no column is NULL, every node comes to a truth value. -/
theorem truth_ne_unknown {V : Type} (m : Meaning V) {row : ColumnValues V} {e : Condition}
    {form : NormalForm} (hform : e.normalForm Postgres.dialect = some form)
    (hnull : .null ∉ e.literals)
    (hrow : ∀ name ∈ e.columns, (row (Sql.quoteIdentifier name)).isSome) :
    form.truth m row ≠ .unknown := by
  have hliteral (column : String) {value : Literal} {text : String}
      (htext : (Postgres.dialect.formatLiteral value).toOption = some text)
      (hvalue : value ≠ .null) : (m.literal column text).isSome :=
    m.isSome_literal column (eq_ok_of_toOption htext) hvalue
  induction e generalizing form with
  | comparison column operator value =>
    simp only [normalForm, Option.bind_eq_bind, Option.bind_eq_some_iff] at hform
    obtain ⟨text, htext, hform⟩ := hform
    obtain rfl := Option.some.inj hform
    have hvalue : value ≠ .null := fun h => hnull (by simp [literals, h])
    exact m.compare_ne_unknown _ (hrow column (by simp [columns])) (hliteral _ htext hvalue)
  | columnComparison left operator right =>
    obtain rfl := Option.some.inj hform
    exact m.compare_ne_unknown _ (hrow left (by simp [columns])) (hrow right (by simp [columns]))
  | between column low high negated =>
    simp only [normalForm, Option.bind_eq_bind, Option.bind_eq_some_iff] at hform
    obtain ⟨lowText, hlow, highText, hhigh, hform⟩ := hform
    obtain rfl := Option.some.inj hform
    have hcolumn := hrow column (by simp [columns])
    have hlow := hliteral (Sql.quoteIdentifier column) hlow fun h => hnull (by simp [literals, h])
    have hhigh := hliteral (Sql.quoteIdentifier column) hhigh fun h => hnull (by simp [literals, h])
    cases negated with
    | true =>
      exact Truth.or_ne_unknown (m.compare_ne_unknown _ hcolumn hlow)
        (m.compare_ne_unknown _ hcolumn hhigh)
    | false =>
      exact Truth.and_ne_unknown (m.compare_ne_unknown _ hcolumn hlow)
        (m.compare_ne_unknown _ hcolumn hhigh)
  | membership column values negated =>
    rw [normalForm] at hform
    split_ifs at hform with hempty
    · obtain rfl := Option.some.inj hform
      exact Truth.of_ne_unknown _
    · simp only [Option.bind_eq_bind, Option.bind_eq_some_iff] at hform
      obtain ⟨texts, htexts, hform⟩ := hform
      obtain rfl := Option.some.inj hform
      have helement (operator : Comparison) : ∀ t ∈ texts.map fun text =>
          m.compare operator (row (Sql.quoteIdentifier column))
            (m.literal (Sql.quoteIdentifier column) text), t ≠ .unknown := by
        intro t ht
        obtain ⟨text, htext, rfl⟩ := List.mem_map.mp ht
        have hall := Dialect.formatLiterals_eq_ok.mp (eq_ok_of_toOption htexts)
        obtain ⟨value, hvalue, hformat⟩ := exists_left_of_forall₂ hall htext
        exact m.compare_ne_unknown _ (hrow column (by simp [columns]))
          (m.isSome_literal _ hformat fun h => hnull (by simpa [literals, h] using hvalue))
      cases negated with
      | true => exact Truth.all_ne_unknown (helement .notEq)
      | false => exact Truth.any_ne_unknown (helement .eq)
  | nullCheck column isNull =>
    obtain rfl := Option.some.inj hform
    exact Truth.of_ne_unknown _
  | fragment template bindings => cases hform
  | conjunction left right ihl ihr =>
    simp only [normalForm, Option.bind_eq_bind, Option.bind_eq_some_iff] at hform
    obtain ⟨leftForm, hleft, rightForm, hright, hform⟩ := hform
    obtain rfl := Option.some.inj hform
    simp only [literals, List.mem_append, not_or] at hnull
    simp only [columns, List.mem_append] at hrow
    exact Truth.and_ne_unknown (ihl hleft hnull.1 fun name hname => hrow name (.inl hname))
      (ihr hright hnull.2 fun name hname => hrow name (.inr hname))
  | disjunction left right ihl ihr =>
    simp only [normalForm, Option.bind_eq_bind, Option.bind_eq_some_iff] at hform
    obtain ⟨leftForm, hleft, rightForm, hright, hform⟩ := hform
    obtain rfl := Option.some.inj hform
    simp only [literals, List.mem_append, not_or] at hnull
    simp only [columns, List.mem_append] at hrow
    exact Truth.or_ne_unknown (ihl hleft hnull.1 fun name hname => hrow name (.inl hname))
      (ihr hright hnull.2 fun name hname => hrow name (.inr hname))

/-- A condition without fragments that has text comes to true or false in every row in which its
columns hold values, unless NULL stands in a list of values. -/
theorem evaluate?_render {V : Type} (m : Meaning V) {row : ColumnValues V} {e : Condition}
    {text : String} (hfree : e.fragmentFree = true) (hlisted : .null ∉ e.listedLiterals)
    (h : e.render Postgres.dialect = .ok text)
    (hrow : ∀ name ∈ e.columns, (row (Sql.quoteIdentifier name)).isSome) :
    ∃ holds, evaluate? m row text = some (.of holds) := by
  obtain ⟨form, hform, rfl⟩ := normalForm_of_render hfree h
  have hread := NormalForm.read?_text (isPostgres_of_normalForm hform)
  have hknown := truth_ne_unknown m hform (null_not_mem_literals hfree h hlisted) hrow
  obtain ⟨holds, hholds⟩ := Truth.eq_of_of_ne_unknown hknown
  exact ⟨holds, by rw [evaluate?, hread, Option.map_some, hholds]⟩

/-- A text value that says NULL is no NULL, and a column may be a key word. -/
theorem evaluate?_render_quoted_null :
    let e : Condition := .conjunction (.between "a" (.integer (-1)) (.text "NULL") true)
      (.disjunction (.membership "null" [.text "NULL", .boolean false] true)
        (.nullCheck "c" false))
    let text := "((a < -1) OR (a > 'NULL')) AND " ++
      "((\"null\" <> ALL (ARRAY['NULL', false])) OR (c IS NOT NULL))"
    let m : Meaning String := ⟨fun operator a b => operator = .notEq && a ≠ b, fun _ text => text⟩
    let row : ColumnValues String := fun column => some column
    e.fragmentFree = true ∧ .null ∉ e.listedLiterals ∧ e.render Postgres.dialect = .ok text ∧
      (∀ name ∈ e.columns, (row (Sql.quoteIdentifier name)).isSome) ∧
      ∃ holds, evaluate? m row text = some (.of holds) := by
  intro e text m row
  have hlisted : .null ∉ e.listedLiterals := by decide
  have hrender : e.render Postgres.dialect = .ok text := by decide +kernel
  have hrow : ∀ name ∈ e.columns, (row (Sql.quoteIdentifier name)).isSome := fun _ _ => rfl
  exact ⟨rfl, hlisted, hrender, hrow, evaluate?_render m rfl hlisted hrender hrow⟩

/-- A list that holds nothing but NULL has text, and a test for membership in it is NULL in every
row. -/
theorem evaluate?_listed_null :
    let e : Condition := .membership "x" [.null] false
    let text := "x = ANY (ARRAY[NULL])"
    e.fragmentFree = true ∧ e.render Postgres.dialect = .ok text ∧
      ∀ (m : Meaning Int) (row : ColumnValues Int), evaluate? m row text = some .unknown := by
  intro e text
  refine ⟨rfl, by decide +kernel, ?_⟩
  intro m row
  have hread : NormalForm.read? text = some (.membership "x" ["NULL"] false) := by decide +kernel
  rw [evaluate?, hread, Option.map_some]
  have helement : m.compare .eq (row "x") (m.literal "x" "NULL") = .unknown := by
    cases row "x" <;> rfl
  simp [NormalForm.truth, Truth.any, helement, Truth.or]

end Condition

end SchemaDraft
