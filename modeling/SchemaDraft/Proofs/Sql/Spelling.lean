import Mathlib.Tactic.ByContra
import Mathlib.Tactic.SplitIfs
import SchemaDraft.Proofs.Sql.Quoting

/-!
What a spelled name looks like: parts with dots between them, and each part either a word that
stands bare or one quoted text. Such a name is read as one unit, it begins with a letter, an
underscore or a double quote, and it is no reserved word.
-/

namespace SchemaDraft.Sql

/-- Reading a quoted text finds what was doubled and the mark that ends it. -/
theorem eq_of_readQuotedRest {mark : Char} {text content rest : List Char}
    (h : readQuotedRest mark text = some (content, rest)) :
    text = doubled mark content ++ mark :: rest := by
  fun_induction readQuotedRest mark text generalizing content rest with
  | case1 => simp at h
  | case2 after ih =>
    simp only [Option.map_eq_some_iff, Prod.exists, Prod.mk.injEq] at h
    obtain ⟨inner, r, hread, rfl, rfl⟩ := h
    simp [doubled, ih hread]
  | case3 d after hd =>
    simp only [Option.some.injEq, Prod.mk.injEq] at h
    obtain ⟨rfl, rfl⟩ := h
    rfl
  | case4 =>
    simp only [Option.some.injEq, Prod.mk.injEq] at h
    obtain ⟨rfl, rfl⟩ := h
    rfl
  | case5 c rest' hc ih =>
    simp only [Option.map_eq_some_iff, Prod.exists, Prod.mk.injEq] at h
    obtain ⟨inner, r, hread, rfl, rfl⟩ := h
    simp [doubled, hc, ih hread]

theorem eq_quotedWith_of_quotedContent? {mark : Char} {text content : List Char}
    (h : quotedContent? mark text = some content) : text = quotedWith mark content := by
  cases text with
  | nil => simp [quotedContent?, readQuoted] at h
  | cons c rest =>
    simp only [quotedContent?, readQuoted] at h
    split at h
    next found hread =>
      obtain rfl : found = content := by simpa using h
      split_ifs at hread with hc
      subst hc
      simp [quotedWith, eq_of_readQuotedRest hread]
    next => simp at h

/-- A part of a spelled name. -/
inductive SpelledPart : List Char → Prop where
  | bare {word : List Char} (hword : isBare word = true) (hfree : isReserved word = false) :
    SpelledPart word
  | quoted (content : List Char) : SpelledPart (quotedWith '"' content)

theorem spelledPart_spellPart (part : List Char) : SpelledPart (spellPart part) := by
  unfold spellPart
  split_ifs with hquoted hbare
  · obtain ⟨content, hcontent⟩ := Option.isSome_iff_exists.mp hquoted
    rw [eq_quotedWith_of_quotedContent? hcontent]
    exact .quoted content
  · simp only [Bool.and_eq_true, Bool.not_eq_true'] at hbare
    exact .bare hbare.1 hbare.2
  · exact .quoted part

/-- The characters of spelled names outside quotes. -/
def isNameChar (c : Char) : Bool := isBareRest c || c = '.'

theorem isQuoteMark_eq_false_of_isBareRest {c : Char} (h : isBareRest c = true) :
    isQuoteMark c = false := by
  by_contra hmark
  simp only [isQuoteMark, Bool.not_eq_false, Bool.or_eq_true, decide_eq_true_eq] at hmark
  rcases hmark with rfl | rfl <;> revert h <;> decide

theorem forall_isBareRest_of_isBare {word : List Char} (h : isBare word = true) :
    ∀ c ∈ word, isBareRest c = true := by
  cases word with
  | nil => simp
  | cons c rest =>
    simp only [isBare, Bool.and_eq_true, List.all_eq_true] at h
    intro d hd
    rcases List.mem_cons.mp hd with rfl | hd
    · simp [isBareRest, h.1]
    · exact h.2 d hd

theorem SpelledPart.outside {part : List Char} (h : SpelledPart part) :
    Outside isNameChar none part := by
  cases h with
  | bare hword _ =>
    apply outside_of_forall
    intro c hc
    have hrest := forall_isBareRest_of_isBare hword c hc
    exact ⟨by simp [isNameChar, hrest], isQuoteMark_eq_false_of_isBareRest hrest⟩
  | quoted content => exact outside_quotedWith content rfl

theorem SpelledPart.head {part : List Char} (h : SpelledPart part) :
    ∃ c rest, part = c :: rest ∧ (isBareStart c = true ∨ c = '"') := by
  cases h with
  | bare hword _ =>
    cases part with
    | nil => simp [isBare] at hword
    | cons c rest =>
      simp only [isBare, Bool.and_eq_true] at hword
      exact ⟨c, rest, rfl, .inl hword.1⟩
  | quoted content => exact ⟨'"', doubled '"' content ++ ['"'], rfl, .inr rfl⟩

theorem toList_quoteIdentifier (name : String) :
    (quoteIdentifier name).toList = spellName name.toList := by
  rw [quoteIdentifier, String.toList_ofList]

/-- A spelled name has a first part, and parts that follow it after a dot each. -/
theorem spellName_parts (name : List Char) :
    ∃ part parts, (∀ p ∈ part :: parts, SpelledPart p) ∧
      spellName name = ['.'].intercalate (part :: parts) := by
  cases hsplit : splitParts false name with
  | nil => exact absurd hsplit (splitParts_ne_nil false name)
  | cons first others =>
    refine ⟨spellPart first, others.map spellPart, ?_, by simp [spellName, hsplit]⟩
    intro p hp
    rw [← List.map_cons] at hp
    obtain ⟨raw, -, rfl⟩ := List.mem_map.mp hp
    exact spelledPart_spellPart raw

theorem outside_spellName (name : List Char) : Outside isNameChar none (spellName name) := by
  obtain ⟨part, parts, hparts, htext⟩ := spellName_parts name
  rw [htext]
  exact outside_intercalate ⟨by decide, rfl⟩ fun p hp => (hparts p hp).outside

theorem spellName_head (name : List Char) :
    ∃ c rest, spellName name = c :: rest ∧ (isBareStart c = true ∨ c = '"') := by
  obtain ⟨part, parts, hparts, htext⟩ := spellName_parts name
  obtain ⟨c, rest, rfl, hc⟩ := (hparts part (by simp)).head
  rw [htext]
  cases parts with
  | nil => exact ⟨c, rest, by simp, hc⟩
  | cons next parts => exact ⟨c, _, by rw [List.intercalate_cons_cons]; rfl, hc⟩

/-- Words that are written out are looked at one by one, as lists of characters. -/
theorem forall_toList_cons {p : List Char → Prop} {word : List Char} {words : List String}
    (hword : p word) (hwords : ∀ r ∈ words, p r.toList) :
    ∀ r ∈ String.ofList word :: words, p r.toList := by
  intro r hr
  rcases List.mem_cons.mp hr with rfl | hr
  · rwa [String.toList_ofList]
  · exact hwords r hr

/-- Reserved words have neither quotes nor dots in them. -/
theorem forall_reservedWords : ∀ r ∈ reservedWords, '"' ∉ r.toList ∧ '.' ∉ r.toList := by
  unfold reservedWords
  repeat' refine forall_toList_cons (p := fun word => '"' ∉ word ∧ '.' ∉ word) (by decide) ?_
  simp

theorem not_isReserved_of_mem {word : List Char} {c : Char} (hc : c = '"' ∨ c = '.')
    (hmem : c ∈ word) : isReserved word = false := by
  by_contra hreserved
  simp only [isReserved, Bool.not_eq_false, List.contains_iff_mem] at hreserved
  have hfree := forall_reservedWords _ hreserved
  have hupper : c.toUpper ∈ word.map Char.toUpper := List.mem_map_of_mem hmem
  rw [String.toList_ofList] at hfree
  rcases hc with rfl | rfl
  · exact hfree.1 hupper
  · exact hfree.2 hupper

theorem SpelledPart.not_isReserved {part : List Char} (h : SpelledPart part) :
    isReserved part = false := by
  cases h with
  | bare _ hfree => exact hfree
  | quoted content => exact not_isReserved_of_mem (.inl rfl) (by simp [quotedWith])

theorem not_isReserved_spellName (name : List Char) : isReserved (spellName name) = false := by
  obtain ⟨part, parts, hparts, htext⟩ := spellName_parts name
  rw [htext]
  cases parts with
  | nil => simpa using (hparts part (by simp)).not_isReserved
  | cons next parts =>
    exact not_isReserved_of_mem (.inr rfl) (by simp [List.intercalate_cons_cons])

end SchemaDraft.Sql
