import SchemaDraft.Proofs.Literal.Formatting
import SchemaDraft.Proofs.Literal.Text
import SchemaDraft.Proofs.Sql.Boundary

/-!
Where a number, a literal or a list of literals in parentheses ends in a statement, so that each can
be told from a text that goes on behind it.
-/

namespace SchemaDraft.Postgres

open Sql

variable {rest rest' : List Char}

theorem repr_append_inj {n m : Nat} (hrest : StopsAt Char.isDigit rest)
    (hrest' : StopsAt Char.isDigit rest')
    (h : n.repr.toList ++ rest = m.repr.toList ++ rest') : n = m ∧ rest = rest' := by
  have hdigits (n : Nat) : Outside Char.isDigit none (Nat.toDigits 10 n) := by
    apply outside_of_forall
    intro c hc
    have hdigit : c.isDigit = true := Nat.isDigit_of_mem_toDigits (by decide) (by decide) hc
    exact ⟨hdigit, isQuoteMark_eq_false_of_isLiteralChar (by simp [isLiteralChar, hdigit])⟩
  rw [Nat.toList_repr, Nat.toList_repr] at h
  obtain ⟨hsame, hafter⟩ := (hdigits n).append_inj (hdigits m) hrest hrest' h
  refine ⟨?_, hafter⟩
  rw [← Nat.ofDigitChars_ten_toDigits (n := n), hsame, Nat.ofDigitChars_ten_toDigits]

theorem number_append_inj {n m : Nat} {c : Char}
    (h : n.repr.toList ++ c :: rest = m.repr.toList ++ c :: rest')
    (hc : isQuoteMark c = false ∧ c.isDigit = false := by decide) : n = m ∧ rest = rest' := by
  obtain ⟨hsame, hafter⟩ := repr_append_inj (stopsAt_cons.mpr hc) (stopsAt_cons.mpr hc) h
  exact ⟨hsame, (List.cons.inj hafter).2⟩

theorem LiteralText.ne_nil {text : List Char} (h : LiteralText text) : text ≠ [] := by
  cases h with
  | keyword hword =>
    have hkeywords : ∀ word ∈ keywords, word.toList ≠ [] := by decide
    exact hkeywords _ hword
  | number hnumber =>
    obtain ⟨digit, rest, rfl, -⟩ := hnumber
    simp
  | negative => simp
  | quoted => simp [quotedWith]

theorem literal_append_inj {value other : Literal} {text text' : String}
    (htext : dialect.formatLiteral value = .ok text)
    (htext' : dialect.formatLiteral other = .ok text') (hrest : StopsAt isLiteralChar rest)
    (hrest' : StopsAt isLiteralChar rest') (h : text.toList ++ rest = text'.toList ++ rest') :
    text = text' ∧ rest = rest' := by
  obtain ⟨hsame, hafter⟩ := (literalText_of_formatLiteral htext).outside.append_inj
    (literalText_of_formatLiteral htext').outside hrest hrest' h
  exact ⟨String.toList_inj.mp hsame, hafter⟩

/-- A literal begins unlike the parenthesis that closes a list, so that a list without literals is
told from the others. -/
theorem commas_eq_nil {texts : List String} (htexts : ∀ text ∈ texts, LiteralText text.toList)
    (h : (", ".intercalate texts).toList ++ ')' :: rest = ')' :: rest') : texts = [] := by
  cases texts with
  | nil => rfl
  | cons text texts =>
    have hliteral := htexts text (by simp)
    obtain ⟨c, more, htext⟩ := List.exists_cons_of_ne_nil hliteral.ne_nil
    have houtside := hliteral.outside
    have hfront : ∃ after, (", ".intercalate (text :: texts)).toList = c :: after := by
      cases texts with
      | nil => exact ⟨more, by simpa using htext⟩
      | cons next texts =>
        rw [String.intercalate_cons_cons]
        exact ⟨_, by simp only [String.toList_append, htext, List.cons_append]; rfl⟩
    obtain ⟨after, hafter⟩ := hfront
    rw [hafter] at h
    obtain rfl : c = ')' := (List.cons.inj h).1
    rw [htext] at houtside
    exact absurd houtside.1 (by decide)

theorem commas_append_inj {texts others : List String}
    (htexts : ∀ text ∈ texts, LiteralText text.toList)
    (hothers : ∀ text ∈ others, LiteralText text.toList)
    (h : (", ".intercalate texts).toList ++ ')' :: rest =
      (", ".intercalate others).toList ++ ')' :: rest') :
    texts = others ∧ rest = rest' := by
  rcases eq_or_ne texts [] with rfl | hne
  · obtain rfl := commas_eq_nil hothers h.symm
    exact ⟨rfl, (List.cons.inj h).2⟩
  rcases eq_or_ne others [] with rfl | hne'
  · exact absurd (commas_eq_nil htexts h) hne
  have hends : ∀ s ∈ texts, ∀ t ∈ others,
      EndAlike (StopsAt isLiteralChar) s.toList t.toList := by
    intro text htext other hother
    exact (htexts text htext).outside.endAlike (hothers other hother).outside
  have hclosed (rest : List Char) :
      StopsAt isLiteralChar (')' :: rest) ∧ ¬ ", ".toList <+: ')' :: rest :=
    ⟨stopsAt_cons.mpr (by decide), by simp⟩
  obtain ⟨hsame, hafter⟩ := intercalate_append_inj hne hne' hends
    (fun after => stopsAt_cons.mpr (by decide)) (hclosed rest) (hclosed rest') h
  exact ⟨hsame, (List.cons.inj hafter).2⟩

/-- A list of literals in parentheses begins with one. -/
theorem tuple_front {site : LiteralSite} {values : List Literal} {text : String}
    (h : dialect.tupleAt site values = .ok text) : ∃ after, text.toList = '(' :: after := by
  obtain ⟨texts, -, rfl⟩ := Dialect.tupleAt_eq_ok.mp h
  exact ⟨_, by simp only [String.toList_append]; rfl⟩

theorem tuple_append_inj {site site' : LiteralSite} {values others : List Literal}
    {text text' : String} (htext : dialect.tupleAt site values = .ok text)
    (htext' : dialect.tupleAt site' others = .ok text')
    (h : text.toList ++ rest = text'.toList ++ rest') :
    dialect.WritesAlike values others ∧ rest = rest' := by
  have hliterals {values : List Literal} {texts : List String}
      (h : dialect.formatLiterals values = .ok texts) :
      ∀ text ∈ texts, LiteralText text.toList := by
    intro text htext
    obtain ⟨value, -, hvalue⟩ := exists_left_of_forall₂ (Dialect.formatLiterals_eq_ok.mp h) htext
    exact literalText_of_formatLiteral hvalue
  obtain ⟨texts, htexts, rfl⟩ := Dialect.tupleAt_eq_ok.mp htext
  obtain ⟨texts', htexts', rfl⟩ := Dialect.tupleAt_eq_ok.mp htext'
  simp only [String.toList_append, List.append_assoc] at h
  obtain ⟨rfl, hafter⟩ := commas_append_inj (hliterals htexts) (hliterals htexts')
    (List.append_cancel_left h)
  exact ⟨⟨texts, htexts, htexts'⟩, hafter⟩

end SchemaDraft.Postgres
