import Mathlib.Data.List.Forall2
import SchemaDraft.Literal.Sql

/-!
When literals have text in a dialect. A list of literals has texts exactly if each of them has, and
the place where literals stand only shows in a refusal.
-/

namespace SchemaDraft

/-- A computation that ends well has ended well before its last part. -/
theorem bind_eq_ok {ε α β : Type} {x : Except ε α} {f : α → Except ε β} {b : β} :
    (x >>= f) = .ok b ↔ ∃ a, x = .ok a ∧ f a = .ok b := by
  cases x with
  | error e => simp [bind, Except.bind]
  | ok a => simp [bind, Except.bind]

/-- A computation is refused by its last part, or before it. -/
theorem bind_eq_error {ε α β : Type} {x : Except ε α} {f : α → Except ε β} {e : ε} :
    (x >>= f) = .error e ↔ x = .error e ∨ ∃ a, x = .ok a ∧ f a = .error e := by
  cases x with
  | error e => simp [bind, Except.bind]
  | ok a => simp [bind, Except.bind]

/-- What its last part cannot refuse is refused before it. -/
theorem eq_error_of_bind {ε α β : Type} {x : Except ε α} {f : α → Except ε β} {e : ε}
    (h : (x >>= f) = .error e) (hlast : ∀ a, ∃ b, f a = .ok b) : x = .error e := by
  rcases bind_eq_error.mp h with hx | ⟨a, -, hrefused⟩
  · exact hx
  · obtain ⟨b, hb⟩ := hlast a
    rw [hb] at hrefused
    cases hrefused

theorem pure_eq_ok {ε α : Type} {a b : α} : (pure a : Except ε α) = .ok b ↔ a = b := by
  simp [pure, Except.pure]

theorem exists_bind_eq_ok {ε α β : Type} {x : Except ε α} {f : α → Except ε β} :
    (∃ b, (x >>= f) = .ok b) ↔ ∃ a, x = .ok a ∧ ∃ b, f a = .ok b := by
  simp only [bind_eq_ok]
  constructor
  · rintro ⟨b, a, hx, hf⟩
    exact ⟨a, hx, b, hf⟩
  · rintro ⟨a, hx, b, hf⟩
    exact ⟨b, a, hx, hf⟩

theorem exists_pure_eq_ok {ε α : Type} {a : α} : ∃ b, (pure a : Except ε α) = .ok b := ⟨a, rfl⟩

theorem exists_forall₂ {α β : Type} {R : α → β → Prop} {as : List α} :
    (∃ bs, List.Forall₂ R as bs) ↔ ∀ a ∈ as, ∃ b, R a b := by
  induction as with
  | nil => simp
  | cons a as ih =>
    rw [List.forall_mem_cons, ← ih]
    constructor
    · rintro ⟨_, _ | ⟨hhead, hrest⟩⟩
      exact ⟨⟨_, hhead⟩, _, hrest⟩
    · rintro ⟨⟨b, hhead⟩, bs, hrest⟩
      exact ⟨b :: bs, .cons hhead hrest⟩

theorem exists_left_of_forall₂ {α β : Type} {R : α → β → Prop} {as : List α} {bs : List β} {b : β}
    (h : List.Forall₂ R as bs) (hb : b ∈ bs) : ∃ a ∈ as, R a b := by
  induction h with
  | nil => cases hb
  | cons hhead _ ih =>
    rcases List.mem_cons.mp hb with rfl | hb
    · exact ⟨_, List.mem_cons_self, hhead⟩
    · obtain ⟨a, ha, hab⟩ := ih hb
      exact ⟨a, List.mem_cons_of_mem _ ha, hab⟩

/-- Two lists that are related to a common one are related to each other. -/
theorem forall₂_of_common {α β γ : Type} {R : α → γ → Prop} {S : β → γ → Prop} {T : α → β → Prop}
    {as : List α} {bs : List β} {cs : List γ}
    (hT : ∀ a ∈ as, ∀ b ∈ bs, ∀ c, R a c → S b c → T a b) (has : List.Forall₂ R as cs)
    (hbs : List.Forall₂ S bs cs) : List.Forall₂ T as bs := by
  induction has generalizing bs with
  | nil =>
    cases hbs
    exact .nil
  | cons hfirst _ ih =>
    cases hbs with
    | cons hfirst' hrest =>
      refine .cons (hT _ (by simp) _ (by simp) _ hfirst hfirst') (ih ?_ hrest)
      exact fun a ha b hb => hT a (by simp [ha]) b (by simp [hb])

theorem Dialect.literalAt_eq_ok {d : Dialect} {site : LiteralSite} {value : Literal}
    {text : String} : d.literalAt site value = .ok text ↔ d.formatLiteral value = .ok text := by
  unfold Dialect.literalAt
  cases d.formatLiteral value <;> simp

theorem Dialect.literalsAt_eq_ok {d : Dialect} {site : LiteralSite} {values : List Literal}
    {texts : List String} :
    d.literalsAt site values = .ok texts ↔ d.formatLiterals values = .ok texts := by
  unfold Dialect.literalsAt
  cases d.formatLiterals values <;> simp

theorem Dialect.formatLiterals_eq_ok {d : Dialect} {values : List Literal} {texts : List String} :
    d.formatLiterals values = .ok texts ↔
      List.Forall₂ (fun value text => d.formatLiteral value = .ok text) values texts := by
  induction values generalizing texts with
  | nil => simp [Dialect.formatLiterals, eq_comm]
  | cons value values ih =>
    simp only [Dialect.formatLiterals, bind_eq_ok, pure_eq_ok, ih]
    constructor
    · rintro ⟨text, htext, rest, hrest, rfl⟩
      exact .cons htext hrest
    · rintro (_ | ⟨htext, hrest⟩)
      exact ⟨_, htext, _, hrest, rfl⟩

/-- A list of literals is refused for the first of them that has no text. -/
theorem Dialect.formatLiterals_eq_error {d : Dialect} {values : List Literal}
    {refusal : UnsupportedLiteral} :
    d.formatLiterals values = .error refusal ↔
      ∃ before value after, values = before ++ value :: after ∧
        (∀ earlier ∈ before, ∃ text, d.formatLiteral earlier = .ok text) ∧
        d.formatLiteral value = .error refusal := by
  induction values with
  | nil => simp [Dialect.formatLiterals]
  | cons first values ih =>
    have hcons : d.formatLiterals (first :: values) = .error refusal ↔
        d.formatLiteral first = .error refusal ∨
          ∃ text, d.formatLiteral first = .ok text ∧ d.formatLiterals values = .error refusal := by
      simp [Dialect.formatLiterals, bind_eq_error, pure, Except.pure]
    rw [hcons, ih]
    constructor
    · rintro (hfirst | ⟨text, hfirst, before, value, after, rfl, hbefore, hvalue⟩)
      · exact ⟨[], first, values, rfl, by simp, hfirst⟩
      · refine ⟨first :: before, value, after, rfl, ?_, hvalue⟩
        exact List.forall_mem_cons.mpr ⟨⟨text, hfirst⟩, hbefore⟩
    · rintro ⟨_ | ⟨earlier, before⟩, value, after, hvalues, hbefore, hvalue⟩
      · obtain ⟨rfl, rfl⟩ := List.cons.inj hvalues
        exact .inl hvalue
      · obtain ⟨rfl, rfl⟩ := List.cons.inj hvalues
        obtain ⟨⟨text, hfirst⟩, hrest⟩ := List.forall_mem_cons.mp hbefore
        exact .inr ⟨text, hfirst, before, value, after, rfl, hrest, hvalue⟩

theorem Dialect.tupleAt_eq_ok {d : Dialect} {site : LiteralSite} {values : List Literal}
    {text : String} :
    d.tupleAt site values = .ok text ↔
      ∃ texts, d.formatLiterals values = .ok texts ∧
        "(" ++ ", ".intercalate texts ++ ")" = text := by
  simp only [Dialect.tupleAt, bind_eq_ok, pure_eq_ok, Dialect.literalsAt_eq_ok]

/-- Lists of literals with the same texts, one by one. -/
def Dialect.WritesAlike (d : Dialect) (values others : List Literal) : Prop :=
  ∃ texts, d.formatLiterals values = .ok texts ∧ d.formatLiterals others = .ok texts

theorem Dialect.WritesAlike.tupleAt_eq {d : Dialect} {values others : List Literal}
    (h : d.WritesAlike values others) (site site' : LiteralSite) :
    d.tupleAt site values = d.tupleAt site' others := by
  obtain ⟨texts, htexts, htexts'⟩ := h
  rw [Dialect.tupleAt_eq_ok.mpr ⟨texts, htexts, rfl⟩, Dialect.tupleAt_eq_ok.mpr ⟨texts, htexts', rfl⟩]

end SchemaDraft
