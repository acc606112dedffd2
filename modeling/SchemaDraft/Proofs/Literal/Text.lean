import Mathlib.Tactic.SplitIfs
import SchemaDraft.Proofs.Sql.Quoting
import SchemaDraft.Sql.Postgres

/-!
What the text of a literal looks like in PostgreSQL: a key word, a number, or one quoted text. A
number has digits and points only, with at most one hyphen, which stands in front of a digit.
-/

namespace SchemaDraft.Postgres

open Sql

/-- An unsigned number: a digit, and then digits and points. -/
def IsNumber (text : List Char) : Prop :=
  ∃ digit rest, text = digit :: rest ∧ digit.isDigit = true ∧
    ∀ c ∈ rest, c.isDigit = true ∨ c = '.'

def keywords : List String := ["NULL", "true", "false"]

/-- The text of a literal. -/
inductive LiteralText : List Char → Prop where
  | keyword {word : String} (h : word ∈ keywords) : LiteralText word.toList
  | number {text : List Char} (h : IsNumber text) : LiteralText text
  | negative {text : List Char} (h : IsNumber text) : LiteralText ('-' :: text)
  | quoted (content : List Char) : LiteralText (quotedWith '\x27' content)

theorem isNumber_of_digits {digits rest : List Char} (hne : digits ≠ [])
    (hdigits : ∀ c ∈ digits, c.isDigit = true)
    (hrest : ∀ c ∈ rest, c.isDigit = true ∨ c = '.') : IsNumber (digits ++ rest) := by
  cases digits with
  | nil => exact absurd rfl hne
  | cons digit others =>
    refine ⟨digit, others ++ rest, rfl, hdigits digit (by simp), ?_⟩
    intro c hc
    rcases List.mem_append.mp hc with hc | hc
    · exact .inl (hdigits c (by simp [hc]))
    · exact hrest c hc

theorem isNumber_toDigits (n : Nat) : IsNumber (Nat.toDigits 10 n) := by
  rw [← List.append_nil (Nat.toDigits 10 n)]
  apply isNumber_of_digits Nat.toDigits_ne_nil
  · exact fun c hc => Nat.isDigit_of_mem_toDigits (by decide) (by decide) hc
  · simp

/-- A number with a point has a digit before the point, be the power of ten positive or not. -/
theorem isNumber_positional {digits : List Char} (exponent : Int) (hne : digits ≠ [])
    (hdigits : ∀ c ∈ digits, c.isDigit = true) :
    IsNumber (NumberLayout.positional digits exponent) := by
  have hzeros (n : Nat) : ∀ c ∈ List.replicate n '0', c.isDigit = true := by
    intro c hc
    obtain rfl := List.eq_of_mem_replicate hc
    rfl
  rw [NumberLayout.positional]
  split_ifs with hexponent hpoint
  · rw [List.append_assoc]
    apply isNumber_of_digits hne hdigits
    intro c hc
    rcases List.mem_append.mp hc with hc | hc
    · exact .inl (hzeros _ c hc)
    · have hend : c = '.' ∨ c = '0' := by simpa using hc
      rcases hend with rfl | rfl <;> decide
  · have htake : digits.take (digits.length + exponent).toNat ≠ [] := by
      have hlength := List.length_pos_iff.mpr hne
      rw [← List.length_pos_iff, List.length_take]
      omega
    apply isNumber_of_digits htake
    · exact fun c hc => hdigits c (List.mem_of_mem_take hc)
    · intro c hc
      rcases List.mem_cons.mp hc with rfl | hc
      · exact .inr rfl
      · exact .inl (hdigits c (List.mem_of_mem_drop hc))
  · refine ⟨'0', _, rfl, rfl, ?_⟩
    intro c hc
    rcases List.mem_cons.mp hc with rfl | hc
    · exact .inr rfl
    · rcases List.mem_append.mp hc with hc | hc
      · exact .inl (hzeros _ c hc)
      · exact .inl (hdigits c hc)

/-- A number with at most one hyphen in front of it. -/
inductive IsSigned : List Char → Prop where
  | number {text : List Char} (h : IsNumber text) : IsSigned text
  | negative {text : List Char} (h : IsNumber text) : IsSigned ('-' :: text)

theorem IsSigned.literalText {text : List Char} (h : IsSigned text) : LiteralText text := by
  cases h with
  | number hnumber => exact .number hnumber
  | negative hnumber => exact .negative hnumber

theorem isSigned_of_isNumber (negative : Bool) {text : List Char} (h : IsNumber text) :
    IsSigned (if negative then '-' :: text else text) := by
  cases negative with
  | false => exact .number h
  | true => exact .negative h

theorem isSigned_write (negative : Bool) (rank : Fin BinaryFormat.double.ranks) :
    IsSigned (numberLayout.write negative rank).toList := by
  have hpositional (leading : Int) : numberLayout.isPositional leading = true := rfl
  simp only [NumberLayout.write, hpositional, Bool.true_or, if_true, String.toList_ofList]
  apply isSigned_of_isNumber
  apply isNumber_positional
  · split <;> simp_all
  · intro c hc
    split at hc
    · obtain rfl := List.mem_singleton.mp hc
      rfl
    · -- what is kept are digits of the number, those at its end aside
      have hsub := List.mem_reverse.mp hc
      have hdigit := (List.dropWhile_sublist _).subset hsub
      exact Nat.isDigit_of_mem_toDigits (by decide) (by decide) (List.mem_reverse.mp hdigit)

theorem isSigned_repr (n : Int) : IsSigned n.repr.toList := by
  cases n with
  | ofNat m =>
    change IsSigned m.repr.toList
    rw [Nat.toList_repr]
    exact .number (isNumber_toDigits m)
  | negSucc m =>
    change IsSigned ("-" ++ m.succ.repr).toList
    rw [String.toList_append, Nat.toList_repr]
    exact .negative (isNumber_toDigits m.succ)

theorem literalText_stringConstant (text : String) : LiteralText (stringConstant text).toList := by
  rw [stringConstant, String.toList_ofList]
  exact .quoted text.toList

theorem literalText_of_formatLiteral {value : Literal} {text : String}
    (h : formatLiteral value = .ok text) : LiteralText text.toList := by
  cases value with
  | null =>
    obtain rfl := Except.ok.inj h
    exact .keyword (by decide)
  | boolean b =>
    cases b with
    | false =>
      obtain rfl := Except.ok.inj h
      exact .keyword (by decide)
    | true =>
      obtain rfl := Except.ok.inj h
      exact .keyword (by decide)
  | integer n =>
    obtain rfl := Except.ok.inj h
    exact (isSigned_repr n.toInt).literalText
  | float x =>
    cases x with
    | nan => cases h
    | infinite negative => cases negative <;> cases h
    | finite negative rank =>
      obtain rfl := Except.ok.inj h
      exact (isSigned_write negative rank).literalText
  | text s =>
    simp only [formatLiteral] at h
    split_ifs at h
    obtain rfl := Except.ok.inj h
    exact literalText_stringConstant s
  | date d =>
    obtain rfl := Except.ok.inj h
    exact literalText_stringConstant d.text
  | timestamp t =>
    obtain rfl := Except.ok.inj h
    exact literalText_stringConstant (t.textWith ' ')

/-- A number and a quoted text begin like no key word, so only NULL is written as NULL. -/
theorem formatLiteral_eq_null {value : Literal} :
    formatLiteral value = .ok "NULL" ↔ value = .null := by
  have hsigned {text : String} (h : IsSigned text.toList) : text ≠ "NULL" := by
    rintro rfl
    generalize hletters : "NULL".toList = letters at h
    cases h with
    | number hnumber =>
      obtain ⟨digit, rest, rfl, hdigit, -⟩ := hnumber
      obtain ⟨rfl, -⟩ := List.cons.inj hletters
      cases hdigit
    | negative => cases hletters
  have hquoted (text : String) : Sql.stringConstant text ≠ "NULL" := by
    intro h
    have hletters := congrArg String.toList h
    rw [stringConstant, String.toList_ofList] at hletters
    cases hletters
  cases value with
  | null => exact ⟨fun _ => rfl, fun _ => rfl⟩
  | boolean b => cases b <;> simp [formatLiteral]
  | integer n => simp [formatLiteral, hsigned (isSigned_repr n.toInt)]
  | float x =>
    cases x with
    | nan => simp [formatLiteral, floatText]
    | infinite negative => cases negative <;> simp [formatLiteral, floatText]
    | finite negative rank =>
      simp [formatLiteral, floatText, hsigned (isSigned_write negative rank)]
  | text s =>
    simp only [formatLiteral]
    split <;> simp [hquoted]
  | date d => simp [formatLiteral, hquoted]
  | timestamp t => simp [formatLiteral, hquoted]

/-- The characters of literals outside quotes. -/
def isLiteralChar (c : Char) : Bool := c.isAlpha || c.isDigit || c = '-' || c = '.'

theorem isQuoteMark_eq_false_of_isLiteralChar {c : Char} (h : isLiteralChar c = true) :
    isQuoteMark c = false := by
  rcases Bool.eq_false_or_eq_true (isQuoteMark c) with hmark | hmark
  · simp only [isQuoteMark, Bool.or_eq_true, decide_eq_true_eq] at hmark
    rcases hmark with rfl | rfl <;> revert h <;> decide
  · exact hmark

theorem IsNumber.forall_isLiteralChar {text : List Char} (h : IsNumber text) :
    ∀ c ∈ text, isLiteralChar c = true := by
  obtain ⟨digit, rest, rfl, hdigit, hrest⟩ := h
  intro c hc
  rcases List.mem_cons.mp hc with rfl | hc
  · simp [isLiteralChar, hdigit]
  · rcases hrest c hc with h | h <;> simp [isLiteralChar, h]

private theorem outside_of_isLiteralChar {text : List Char}
    (h : ∀ c ∈ text, isLiteralChar c = true) : Outside isLiteralChar none text :=
  outside_of_forall fun c hc => ⟨h c hc, isQuoteMark_eq_false_of_isLiteralChar (h c hc)⟩

theorem LiteralText.outside {text : List Char} (h : LiteralText text) :
    Outside isLiteralChar none text := by
  cases h with
  | quoted content => exact outside_quotedWith content rfl
  | keyword hword =>
    have hletters : keywords.all (fun word => word.toList.all isLiteralChar) = true := by decide
    simp only [List.all_eq_true] at hletters
    exact outside_of_isLiteralChar (hletters _ hword)
  | number hnumber => exact outside_of_isLiteralChar hnumber.forall_isLiteralChar
  | negative hnumber =>
    apply outside_of_isLiteralChar
    intro c hc
    rcases List.mem_cons.mp hc with rfl | hc
    · rfl
    · exact hnumber.forall_isLiteralChar c hc

end SchemaDraft.Postgres
