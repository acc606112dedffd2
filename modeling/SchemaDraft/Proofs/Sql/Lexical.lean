import SchemaDraft.Proofs.Sql.Spelling

/-!
Statements that are lexically closed: they end outside quotes, and outside quotes they have neither
a semicolon nor the beginning of a comment. The condition that is proved of statements is a little
stronger and goes over from parts to the whole: a hyphen outside quotes is followed by another
character that is no hyphen, and there is no slash.
-/

namespace SchemaDraft.Sql

/-- The characters outside quotes, with nothing in place of each character inside. A mark that opens
quotes is outside, the one that closes them inside. -/
def bareChars (quotes : Option Char) : List Char → List (Option Char)
  | [] => []
  | c :: rest => (if quotes.isNone then some c else none) :: bareChars (openAfter quotes c) rest

/-- A text that a reader takes for one statement, or for a part of one: quotes that are opened are
closed, and nothing outside them ends a statement or begins a comment. -/
structure LexicallyClosed (text : List Char) : Prop where
  ends_outside : text.foldl openAfter none = none
  no_semicolon : some ';' ∉ bareChars none text
  no_line_comment : ¬ [some '-', some '-'] <:+: bareChars none text
  no_block_comment : ¬ [some '/', some '*'] <:+: bareChars none text

/-- Whether a text, read from these quotes on and perhaps after a hyphen outside quotes, ends
outside quotes and not in a hyphen, and has outside them no semicolon, no slash and no two hyphens
in a row. -/
def sealedFrom (quotes : Option Char) (hyphen : Bool) : List Char → Bool
  | [] => quotes.isNone && !hyphen
  | c :: rest =>
    (quotes.isSome || (c ≠ ';' && c ≠ '/' && !(hyphen && c = '-'))) &&
      sealedFrom (openAfter quotes c) (quotes.isNone && c = '-') rest

/-- A text that keeps its neighbours apart from what is quoted in it. -/
def IsSealed (text : String) : Prop := sealedFrom none false text.toList = true

theorem sealedFrom_append {quotes : Option Char} {hyphen : Bool} {s t : List Char}
    (hs : sealedFrom quotes hyphen s = true) (ht : sealedFrom none false t = true) :
    sealedFrom quotes hyphen (s ++ t) = true := by
  induction s generalizing quotes hyphen with
  | nil =>
    simp only [sealedFrom, Bool.and_eq_true, Option.isNone_iff_eq_none, Bool.not_eq_true'] at hs
    obtain ⟨rfl, rfl⟩ := hs
    exact ht
  | cons c s ih =>
    simp only [sealedFrom, List.cons_append, Bool.and_eq_true] at hs ⊢
    exact ⟨hs.1, ih hs.2⟩

theorem IsSealed.append {s t : String} (hs : IsSealed s) (ht : IsSealed t) : IsSealed (s ++ t) := by
  rw [IsSealed, String.toList_append]
  exact sealedFrom_append hs ht

/-- A text that is written out is checked as the list of its characters. -/
theorem isSealed_ofList {word : List Char} (h : sealedFrom none false word = true) :
    IsSealed (String.ofList word) := by
  rwa [IsSealed, String.toList_ofList]

section Words

variable {s t : String} {word : List Char}

theorem IsSealed.prepend (ht : IsSealed t) (hword : sealedFrom none false word = true) :
    IsSealed (String.ofList word ++ t) :=
  (isSealed_ofList hword).append ht

theorem IsSealed.link (hs : IsSealed s) (hword : sealedFrom none false word = true)
    (ht : IsSealed t) : IsSealed (s ++ String.ofList word ++ t) :=
  (hs.append (isSealed_ofList hword)).append ht

theorem IsSealed.close (hs : IsSealed s) (hword : sealedFrom none false word = true) :
    IsSealed (s ++ String.ofList word) :=
  hs.append (isSealed_ofList hword)

end Words

theorem isSealed_join {texts : List String} (h : ∀ text ∈ texts, IsSealed text) :
    IsSealed (String.join texts) := by
  induction texts with
  | nil => exact rfl
  | cons text texts ih =>
    rw [String.join_cons]
    exact (h text (by simp)).append (ih fun t ht => h t (by simp [ht]))

theorem isSealed_intercalate {separator : String} {texts : List String}
    (hseparator : IsSealed separator) (h : ∀ text ∈ texts, IsSealed text) :
    IsSealed (separator.intercalate texts) := by
  induction texts with
  | nil => exact rfl
  | cons text texts ih =>
    have htext := h text (by simp)
    have hrest := ih fun t ht => h t (by simp [ht])
    cases texts with
    | nil => simpa using htext
    | cons next texts =>
      rw [String.intercalate_cons_cons]
      exact (htext.append hseparator).append hrest

/-- A text whose characters outside quotes are harmless is sealed. -/
theorem sealedFrom_of_outside {p : Char → Bool} {quotes : Option Char} {text : List Char}
    (hp : ∀ c, p c = true → c ≠ ';' ∧ c ≠ '/' ∧ c ≠ '-') (h : Outside p quotes text) :
    sealedFrom quotes false text = true := by
  induction text generalizing quotes with
  | nil =>
    obtain rfl : quotes = none := h
    rfl
  | cons c text ih =>
    obtain ⟨hc, hrest⟩ := h
    have htail := ih hrest
    cases quotes with
    | some mark => simpa [sealedFrom] using htail
    | none =>
      have hplain : c ≠ ';' ∧ c ≠ '/' ∧ c ≠ '-' := by
        simp only [Option.isSome_none, Bool.false_or, Bool.or_eq_true] at hc
        rcases hc with hmark | hc
        · refine ⟨?_, ?_, ?_⟩ <;> (rintro rfl; revert hmark; decide)
        · exact hp c hc
      simpa [sealedFrom, hplain] using htail

theorem isSealed_quoteIdentifier (name : String) : IsSealed (quoteIdentifier name) := by
  rw [IsSealed, toList_quoteIdentifier]
  refine sealedFrom_of_outside (fun c hc => ?_) (outside_spellName name.toList)
  refine ⟨?_, ?_, ?_⟩ <;> (rintro rfl; revert hc; decide)

private theorem foldl_openAfter_of_sealedFrom {quotes : Option Char} {hyphen : Bool}
    {text : List Char} (h : sealedFrom quotes hyphen text = true) :
    text.foldl openAfter quotes = none := by
  induction text generalizing quotes hyphen with
  | nil =>
    simp only [sealedFrom, Bool.and_eq_true, Option.isNone_iff_eq_none] at h
    exact h.1
  | cons c text ih =>
    simp only [sealedFrom, Bool.and_eq_true] at h
    exact ih h.2

private theorem forall_bareChars_of_sealedFrom {quotes : Option Char} {hyphen : Bool}
    {text : List Char} (h : sealedFrom quotes hyphen text = true) :
    ∀ x ∈ bareChars quotes text, x ≠ some ';' ∧ x ≠ some '/' := by
  induction text generalizing quotes hyphen with
  | nil => simp [bareChars]
  | cons c text ih =>
    simp only [sealedFrom, Bool.and_eq_true] at h
    intro x hx
    rcases List.mem_cons.mp hx with rfl | hx
    · cases quotes with
      | some mark => simp
      | none =>
        have hc : (c ≠ ';' ∧ c ≠ '/') ∧ (hyphen = false ∨ c ≠ '-') := by simpa using h.1
        simpa using hc.1
    · exact ih h.2 x hx

private theorem not_hyphens_of_sealedFrom {quotes : Option Char} {hyphen : Bool}
    {text : List Char} (h : sealedFrom quotes hyphen text = true) :
    (hyphen = true → (bareChars quotes text).head? ≠ some (some '-')) ∧
      ¬ [some '-', some '-'] <:+: bareChars quotes text := by
  induction text generalizing quotes hyphen with
  | nil => simp [bareChars]
  | cons c text ih =>
    simp only [sealedFrom, Bool.and_eq_true] at h
    obtain ⟨hhead, hrest⟩ := ih h.2
    cases quotes with
    | some mark => simpa [bareChars, List.infix_cons_iff] using hrest
    | none =>
      have hc : (c ≠ ';' ∧ c ≠ '/') ∧ (hyphen = false ∨ c ≠ '-') := by simpa using h.1
      refine ⟨fun hhyphen => ?_, ?_⟩
      · have hne := hc.2.resolve_left (by simp [hhyphen])
        simpa [bareChars] using hne
      · simp only [bareChars, List.infix_cons_iff, not_or]
        refine ⟨?_, hrest⟩
        rintro ⟨after, hafter⟩
        -- two hyphens in front would leave a hyphen at the head of the rest
        simp only [Option.isNone_none, if_true, List.cons_append, List.nil_append,
          List.cons.injEq, Option.some.injEq] at hafter
        obtain ⟨rfl, hafter⟩ := hafter
        exact hhead (by simp) (by rw [← hafter]; rfl)

theorem IsSealed.lexicallyClosed {text : String} (h : IsSealed text) :
    LexicallyClosed text.toList where
  ends_outside := foldl_openAfter_of_sealedFrom h
  no_semicolon hmem := (forall_bareChars_of_sealedFrom h _ hmem).1 rfl
  no_line_comment := (not_hyphens_of_sealedFrom h).2
  no_block_comment hcomment :=
    (forall_bareChars_of_sealedFrom h _ (hcomment.subset (by simp))).2 rfl

private theorem outside_of_bareChars {separator : Char} {quotes : Option Char} {text : List Char}
    (hends : text.foldl openAfter quotes = none) (h : some separator ∉ bareChars quotes text) :
    Outside (· ≠ separator) quotes text := by
  induction text generalizing quotes with
  | nil => exact hends
  | cons c text ih =>
    simp only [bareChars, List.mem_cons, not_or] at h
    refine ⟨?_, ih hends h.2⟩
    cases quotes with
    | some mark => rfl
    | none =>
      have hne : c ≠ separator := fun hsame => h.1 (by simp [hsame])
      simp [hne]

theorem LexicallyClosed.outside {text : List Char} (h : LexicallyClosed text) :
    Outside (· ≠ ';') none text :=
  outside_of_bareChars h.ends_outside h.no_semicolon

end SchemaDraft.Sql
