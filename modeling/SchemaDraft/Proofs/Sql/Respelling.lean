import SchemaDraft.Proofs.Sql.NameParts

/-!
Spelling a name that is spelled already. Each part of a spelled name is a bare word, which has
neither quotes nor dots, or one quoted text, which has its quotes in pairs and every dot between
them. So a spelling is cut into the parts that it was put together from, and each of these is kept
as it is. The names that spelling leaves alone are the ones that are made of such parts.
-/

namespace SchemaDraft.Sql

section Parts

variable {part : List Char} {parts : List (List Char)}

theorem count_doubled (mark : Char) (text : List Char) :
    (doubled mark text).count mark = 2 * text.count mark := by
  induction text with
  | nil => rfl
  | cons c text ih =>
    by_cases hc : c = mark
    · simp only [doubled, hc, if_true, List.count_cons_self, ih]
      omega
    · simp [doubled, hc, ih]

/-- Inside quotes a doubled mark leaves them open, so no dot before the last mark cuts. -/
theorem uncut_doubled (content : List Char) : Uncut true (doubled '"' content ++ ['"']) := by
  induction content with
  | nil => exact uncut_cons.mpr ⟨by simp, by simp [Uncut]⟩
  | cons c content ih =>
    by_cases hc : c = '"'
    · simp only [doubled, hc, if_true, List.cons_append]
      exact uncut_cons.mpr ⟨by simp, uncut_cons.mpr ⟨by simp, ih⟩⟩
    · have hopen : (true != (c == '"')) = true := by simp [hc]
      simp only [doubled, hc, if_false, List.cons_append]
      exact uncut_cons.mpr ⟨fun _ => rfl, by rwa [hopen]⟩

theorem SpelledPart.uncut (h : SpelledPart part) : Uncut false part := by
  cases h with
  | bare hword _ =>
    rintro before after rfl
    have hdot := forall_isBareRest_of_isBare hword '.' (by simp)
    exact absurd hdot (by decide)
  | quoted content => exact uncut_cons.mpr ⟨by simp, uncut_doubled content⟩

theorem SpelledPart.even_count (h : SpelledPart part) : Even (part.count '"') := by
  cases h with
  | bare hword _ =>
    have hfree : '"' ∉ part := by
      intro hmem
      have hmark := forall_isBareRest_of_isBare hword '"' hmem
      exact absurd hmark (by decide)
    simp [List.count_eq_zero.mpr hfree]
  | quoted content =>
    have hcount : (quotedWith '"' content).count '"' = 2 * (content.count '"' + 1) := by
      simp only [quotedWith, List.cons_append, List.count_cons_self, List.count_append,
        count_doubled, List.count_nil]
      omega
    rw [hcount]
    exact even_two_mul _

/-- Parts that are spelled and joined by dots come apart as they were. -/
theorem splitParts_of_spelled (hne : parts ≠ []) (h : ∀ part ∈ parts, SpelledPart part) :
    splitParts false (['.'].intercalate parts) = parts := by
  have heven : ∀ part ∈ parts.dropLast, Even (part.count '"') :=
    fun part hpart => (h part (List.dropLast_subset _ hpart)).even_count
  exact splitParts_intercalate
    (cutFrom_false.mpr ⟨hne, heven, fun part hpart => (h part hpart).uncut⟩)

theorem SpelledPart.spellPart_eq_self (h : SpelledPart part) : spellPart part = part := by
  cases h with
  | bare hword hfree => simp [spellPart, hword, hfree]
  | quoted content => simp [spellPart, quotedContent?_quotedWith]

theorem spelledPart_of_mem_map (h : part ∈ parts.map spellPart) : SpelledPart part := by
  obtain ⟨piece, -, rfl⟩ := List.mem_map.mp h
  exact spelledPart_spellPart piece

theorem splitParts_spellName (name : List Char) :
    splitParts false (spellName name) = (splitParts false name).map spellPart := by
  apply splitParts_of_spelled
  · simpa using splitParts_ne_nil false name
  · exact fun part hpart => spelledPart_of_mem_map hpart

end Parts

theorem spellName_eq_self_iff {name : List Char} :
    spellName name = name ↔ ∀ piece ∈ splitParts false name, SpelledPart piece := by
  constructor
  · intro hsame piece hpiece
    rw [← hsame, splitParts_spellName] at hpiece
    exact spelledPart_of_mem_map hpiece
  · intro h
    have hkept : (splitParts false name).map spellPart = (splitParts false name).map id :=
      List.map_congr_left fun piece hpiece => (h piece hpiece).spellPart_eq_self
    rw [List.map_id] at hkept
    rw [spellName, hkept, (cutFrom_splitParts false name).2]

theorem spellName_spellName (name : List Char) : spellName (spellName name) = spellName name := by
  rw [spellName_eq_self_iff, splitParts_spellName]
  exact fun part hpart => spelledPart_of_mem_map hpart

/-- A second spelling changes nothing, and the first changes nothing exactly if each piece of the
name is a word that stands bare or one quoted text. -/
theorem quoteIdentifier_quoteIdentifier (name : String) :
    quoteIdentifier (quoteIdentifier name) = quoteIdentifier name ∧
      (quoteIdentifier name = name ↔
        ∃ pieces, CutAtDots name.toList pieces ∧ ∀ piece ∈ pieces, SpelledPart piece) := by
  refine ⟨?_, ?_⟩
  · rw [← String.toList_inj, toList_quoteIdentifier, toList_quoteIdentifier, spellName_spellName]
  · have hsame : quoteIdentifier name = name ↔ spellName name.toList = name.toList := by
      rw [← String.toList_inj, toList_quoteIdentifier]
    simp only [hsame, spellName_eq_self_iff, cutAtDots_iff, exists_eq_left']

/-- A quote that is never closed hides the dot behind it, and is doubled once only. -/
example : quoteIdentifier "a.\"b.c" = "a.\"\"\"b.c\"" ∧
    quoteIdentifier "a.\"\"\"b.c\"" = "a.\"\"\"b.c\"" := by decide +kernel

end SchemaDraft.Sql
