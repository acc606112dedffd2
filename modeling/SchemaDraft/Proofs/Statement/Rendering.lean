import Mathlib.Data.Option.Defs
import SchemaDraft.Proofs.Literal.Formatting
import SchemaDraft.Statement.Command

/-!
When the parts of a statement have text in a dialect, and which text it is. A list of parts has
texts exactly if each of them has.
-/

namespace SchemaDraft

theorem renderEach_eq_ok {α β : Type} {render : α → Except RenderError β} {as : List α}
    {bs : List β} :
    renderEach render as = .ok bs ↔ List.Forall₂ (fun a b => render a = .ok b) as bs := by
  induction as generalizing bs with
  | nil => simp [renderEach, eq_comm]
  | cons a as ih =>
    simp only [renderEach, bind_eq_ok, pure_eq_ok, ih]
    constructor
    · rintro ⟨b, hb, rest, hrest, rfl⟩
      exact .cons hb hrest
    · rintro (_ | ⟨hb, hrest⟩)
      exact ⟨_, hb, _, hrest, rfl⟩

/-- Something done to each text after it is made can be done to all of them at the end. -/
theorem renderEach_map_eq_ok {α β γ : Type} {render : α → Except RenderError β} {f : β → γ}
    {as : List α} {cs : List γ} :
    renderEach (fun a => do let b ← render a; return f b) as = .ok cs ↔
      ∃ bs, renderEach render as = .ok bs ∧ bs.map f = cs := by
  induction as generalizing cs with
  | nil => simp [renderEach]
  | cons a as ih =>
    simp only [renderEach, bind_eq_ok, pure_eq_ok, ih]
    constructor
    · rintro ⟨_, ⟨b, hb, rfl⟩, _, ⟨bs, hbs, rfl⟩, rfl⟩
      exact ⟨b :: bs, ⟨b, hb, bs, hbs, rfl⟩, rfl⟩
    · rintro ⟨_, ⟨b, hb, bs, hbs, rfl⟩, rfl⟩
      exact ⟨f b, ⟨b, hb, rfl⟩, bs.map f, ⟨bs, hbs, rfl⟩, rfl⟩

theorem renderEach_eq_of_forall₂ {α β γ : Type} {f : α → Except RenderError γ}
    {g : β → Except RenderError γ} {as : List α} {bs : List β}
    (h : List.Forall₂ (fun a b => f a = g b) as bs) : renderEach f as = renderEach g bs := by
  induction h with
  | nil => rfl
  | cons hhead _ ih => rw [renderEach, renderEach, hhead, ih]

theorem renderEach_congr {α β : Type} {f g : α → Except RenderError β} {as : List α}
    (h : ∀ a ∈ as, f a = g a) : renderEach f as = renderEach g as :=
  renderEach_eq_of_forall₂ (List.forall₂_same.mpr h)

/-- Columns are added by one statement with the comments behind it; no columns need nothing. -/
theorem Column.additionStatements_eq_ok {d : Dialect} {table : String} {columns : List Column}
    {statements : List String} :
    additionStatements d table columns = .ok statements ↔
      (columns = [] ∧ statements = []) ∨
        (columns ≠ [] ∧ ∃ additions comments,
          renderEach (renderAddition d) columns = .ok additions ∧
            renderComments d table columns = .ok comments ∧
            ("ALTER TABLE " ++ d.quoteIdentifier table ++ " " ++ ", ".intercalate additions) ::
              comments = statements) := by
  simp only [additionStatements, renderAdditions?, bind_eq_ok, pure_eq_ok]
  cases columns with
  | nil =>
    constructor
    · rintro ⟨_, ⟨_, ⟨⟩, ⟨⟩⟩, _, ⟨⟩, rfl⟩
      exact .inl ⟨rfl, rfl⟩
    · rintro (⟨-, rfl⟩ | ⟨hsome, -⟩)
      · exact ⟨none, ⟨[], rfl, rfl⟩, [], rfl, rfl⟩
      · exact absurd rfl hsome
  | cons column columns =>
    constructor
    · rintro ⟨_, ⟨additions, hadditions, hsome⟩, comments, hcomments, rfl⟩
      refine .inr ⟨List.cons_ne_nil _ _, additions, comments, hadditions, hcomments, ?_⟩
      cases renderEach_eq_ok.mp hadditions with
      | cons _ _ =>
        obtain rfl := pure_eq_ok.mp hsome
        rfl
    · rintro (⟨hnone, -⟩ | ⟨-, additions, comments, hadditions, hcomments, rfl⟩)
      · exact absurd hnone (List.cons_ne_nil _ _)
      · cases renderEach_eq_ok.mp hadditions with
        | cons _ _ => exact ⟨_, ⟨_, hadditions, rfl⟩, comments, hcomments, rfl⟩

/-- The text of the predicate of an index, if it has one, decides the statement of the index. -/
theorem Index.render_eq_ok {d : Dialect} {table sql : String} {index : Index}
    {predicate : Option String} :
    index.render d table = .ok (sql, predicate) ↔
      Option.Rel (fun e text => Condition.render d e = .ok text) index.predicate predicate ∧
        index.statement d table predicate = sql := by
  unfold render
  cases index.predicate with
  | none =>
    rw [pure_eq_ok]
    constructor
    · rintro ⟨rfl, rfl⟩
      exact ⟨.none, rfl⟩
    · rintro ⟨⟨⟩, rfl⟩
      rfl
  | some e =>
    simp only [bind_eq_ok, pure_eq_ok]
    constructor
    · rintro ⟨text, htext, hsame⟩
      obtain ⟨rfl, rfl⟩ := Prod.mk.inj hsame
      exact ⟨.some htext, rfl⟩
    · rintro ⟨⟨htext⟩, rfl⟩
      exact ⟨_, htext, rfl⟩

end SchemaDraft
