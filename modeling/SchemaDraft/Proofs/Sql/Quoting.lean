import SchemaDraft.Sql.Identifier

/-!
Text read from left to right with its quotes. A reader stands outside quotes or inside those that a
mark has opened, and only what stands outside can end a name, a literal or a statement. What is
stated here of a text that ends outside its quotes goes over to a text put together from such
texts.
-/

namespace SchemaDraft.Sql

/-- Whether a character opens quotes. -/
def isQuoteMark (c : Char) : Bool := c = '\x27' || c = '"'

/-- The mark of the quotes that are open after one more character. A doubled mark closes the quotes
and opens them again, so that what follows it is inside. -/
def openAfter (quotes : Option Char) (c : Char) : Option Char :=
  match quotes with
  | some mark => if c = mark then none else some mark
  | none => if isQuoteMark c then some c else none

/-- The longest front of a text in which each character outside quotes is a quote mark or meets
`p`, and what follows it. -/
def spanOutside (p : Char → Bool) (quotes : Option Char) : List Char → List Char × List Char
  | [] => ([], [])
  | c :: rest =>
    if quotes.isSome || isQuoteMark c || p c then
      let (front, after) := spanOutside p (openAfter quotes c) rest
      (c :: front, after)
    else ([], c :: rest)

/-- Cuts a text at each `separator` outside quotes. -/
def cutOutside (separator : Char) (quotes : Option Char) : List Char → List (List Char)
  | [] => [[]]
  | c :: rest =>
    if quotes.isNone && c = separator then [] :: cutOutside separator none rest
    else prependToFirst c (cutOutside separator (openAfter quotes c) rest)

def dropFront (filler : Char) : List Char → List Char
  | [] => []
  | c :: rest => if c = filler then rest else c :: rest

/-- Cuts a text at each `separator` outside quotes, and drops the `filler` after it. -/
def cutAt (separator filler : Char) (text : List Char) : List (List Char) :=
  match cutOutside separator none text with
  | [] => []
  | first :: others => first :: others.map (dropFront filler)

/-- The text ends outside quotes, and each of its characters outside quotes is a quote mark or
meets `p`. -/
def Outside (p : Char → Bool) (quotes : Option Char) : List Char → Prop
  | [] => quotes = none
  | c :: rest =>
    (quotes.isSome || isQuoteMark c || p c) = true ∧ Outside p (openAfter quotes c) rest

variable {p : Char → Bool} {quotes : Option Char} {mark : Char}

theorem Outside.append {s t : List Char} (hs : Outside p quotes s) (ht : Outside p none t) :
    Outside p quotes (s ++ t) := by
  induction s generalizing quotes with
  | nil =>
    obtain rfl : quotes = none := hs
    exact ht
  | cons c s ih => exact ⟨hs.1, ih hs.2⟩

theorem Outside.mono {q : Char → Bool} {text : List Char} (h : Outside p quotes text)
    (hpq : ∀ c, p c = true → q c = true) : Outside q quotes text := by
  induction text generalizing quotes with
  | nil => exact h
  | cons c text ih =>
    refine ⟨?_, ih h.2⟩
    have hc := h.1
    simp only [Bool.or_eq_true] at hc ⊢
    exact hc.imp_right (hpq c)

theorem outside_of_forall {text : List Char}
    (h : ∀ c ∈ text, p c = true ∧ isQuoteMark c = false) : Outside p none text := by
  induction text with
  | nil => rfl
  | cons c text ih =>
    have hc := h c (by simp)
    refine ⟨by simp [hc.1], ?_⟩
    have hopen : openAfter none c = none := by simp [openAfter, hc.2]
    rw [hopen]
    exact ih fun d hd => h d (by simp [hd])

/-- A doubled mark leaves the quotes open, and the mark after the content closes them. -/
theorem outside_doubled (content rest : List Char) (hmark : isQuoteMark mark = true) :
    Outside p (some mark) (doubled mark content ++ mark :: rest) ↔ Outside p none rest := by
  induction content with
  | nil => simp [Outside, openAfter]
  | cons c content ih =>
    by_cases hc : c = mark
    · simp [doubled, hc, Outside, openAfter, hmark, ih]
    · simp [doubled, hc, Outside, openAfter, ih]

theorem outside_quotedWith (content : List Char) (hmark : isQuoteMark mark = true) :
    Outside p none (quotedWith mark content) := by
  have hopen : openAfter none mark = some mark := by simp [openAfter, hmark]
  refine ⟨by simp [hmark], ?_⟩
  rw [hopen]
  exact (outside_doubled content [] hmark).mpr rfl

theorem outside_intercalate {separator : List Char} {texts : List (List Char)}
    (hseparator : Outside p none separator) (h : ∀ text ∈ texts, Outside p none text) :
    Outside p none (separator.intercalate texts) := by
  induction texts with
  | nil => rfl
  | cons text texts ih =>
    have htext := h text (by simp)
    have hrest := ih fun t ht => h t (by simp [ht])
    cases texts with
    | nil => simpa using htext
    | cons next texts =>
      rw [List.intercalate_cons_cons]
      exact (htext.append hseparator).append hrest

/-- A front that reads as one unit is read off up to the first character that cannot belong to
it. -/
theorem spanOutside_append {text rest : List Char} (h : Outside p quotes text)
    (hrest : ∀ c ∈ rest.head?, isQuoteMark c = false ∧ p c = false) :
    spanOutside p quotes (text ++ rest) = (text, rest) := by
  induction text generalizing quotes with
  | nil =>
    obtain rfl : quotes = none := h
    cases rest with
    | nil => rfl
    | cons c rest =>
      have hc := hrest c (by simp)
      simp [spanOutside, hc.1, hc.2]
  | cons c text ih => simp [spanOutside, h.1, ih h.2]

private theorem not_cut {separator c : Char} (hseparator : isQuoteMark separator = false)
    (h : (quotes.isSome || isQuoteMark c || decide (c ≠ separator)) = true) :
    ¬ (quotes.isNone && decide (c = separator)) = true := by
  intro hcut
  simp only [Bool.and_eq_true, Option.isNone_iff_eq_none, decide_eq_true_eq] at hcut
  obtain ⟨rfl, rfl⟩ := hcut
  simp [hseparator] at h

theorem cutOutside_eq_self {separator : Char} {text : List Char}
    (hseparator : isQuoteMark separator = false)
    (h : Outside (· ≠ separator) quotes text) : cutOutside separator quotes text = [text] := by
  induction text generalizing quotes with
  | nil => rfl
  | cons c text ih => rw [cutOutside, if_neg (not_cut hseparator h.1), ih h.2, prependToFirst]

/-- A text without the separator outside quotes is the first piece, whatever follows the
separator. -/
theorem cutOutside_append_cons {separator : Char} {text : List Char}
    (hseparator : isQuoteMark separator = false)
    (h : Outside (· ≠ separator) quotes text) (rest : List Char) :
    cutOutside separator quotes (text ++ separator :: rest) =
      text :: cutOutside separator none rest := by
  induction text generalizing quotes with
  | nil =>
    obtain rfl : quotes = none := h
    simp [cutOutside]
  | cons c text ih =>
    rw [List.cons_append, cutOutside, if_neg (not_cut hseparator h.1), ih h.2, prependToFirst]

/-- Pieces that are joined by a separator and a filler come out again, each but the first with the
filler in front. -/
private theorem cutOutside_intercalate {separator filler : Char} (text : List Char)
    (texts : List (List Char)) (hseparator : isQuoteMark separator = false)
    (hfiller : isQuoteMark filler = false) (hne : filler ≠ separator)
    (h : ∀ t ∈ text :: texts, Outside (· ≠ separator) none t) :
    cutOutside separator none ([separator, filler].intercalate (text :: texts)) =
      text :: texts.map (filler :: ·) := by
  induction texts generalizing text with
  | nil => simpa using cutOutside_eq_self hseparator (h text (by simp))
  | cons next texts ih =>
    have hrest := ih next fun t ht => h t (List.mem_cons_of_mem _ ht)
    have hopen : openAfter none filler = none := by simp [openAfter, hfiller]
    have hjoin : [separator, filler].intercalate (text :: next :: texts) =
        text ++ separator :: filler :: [separator, filler].intercalate (next :: texts) := by
      simp [List.intercalate_cons_cons]
    rw [hjoin, cutOutside_append_cons hseparator (h text (by simp)), cutOutside,
      if_neg (by simp [hne]), hopen, hrest]
    rfl

/-- Cutting undoes joining with the separator and the filler. -/
theorem cutAt_intercalate {separator filler : Char} {texts : List (List Char)}
    (hseparator : isQuoteMark separator = false) (hfiller : isQuoteMark filler = false)
    (hne : filler ≠ separator) (htexts : texts ≠ [])
    (h : ∀ t ∈ texts, Outside (· ≠ separator) none t) :
    cutAt separator filler ([separator, filler].intercalate texts) = texts := by
  cases texts with
  | nil => exact absurd rfl htexts
  | cons text texts =>
    have hdrop : dropFront filler ∘ (filler :: ·) = id := by
      funext t
      simp [dropFront]
    rw [cutAt, cutOutside_intercalate text texts hseparator hfiller hne h]
    simp [hdrop]

end SchemaDraft.Sql
