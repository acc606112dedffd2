import Mathlib.Data.List.Pairwise
import SchemaDraft.Proofs.Sql.Spelling
import SchemaDraft.Sql.Postgres

/-!
Where a spelled name or a list of them ends in a statement. Of two texts that begin with such a part
each, and go on with something that cannot belong to it, the parts are the same and the rests are
the same if the texts are. A list of parts with a separator between them has this property if each
part has it.
-/

namespace SchemaDraft.Sql

variable {p : Char → Bool} {c : Char} {rest rest' : List Char}

/-- What may follow a text whose characters outside quotes meet `p`. -/
def StopsAt (p : Char → Bool) (rest : List Char) : Prop :=
  ∀ c ∈ rest.head?, isQuoteMark c = false ∧ p c = false

theorem stopsAt_cons : StopsAt p (c :: rest) ↔ isQuoteMark c = false ∧ p c = false := by
  simp [StopsAt]

theorem Outside.append_inj {s t : List Char} (hs : Outside p none s) (ht : Outside p none t)
    (hrest : StopsAt p rest) (hrest' : StopsAt p rest') (h : s ++ rest = t ++ rest') :
    s = t ∧ rest = rest' := by
  have hread := spanOutside_append hs hrest
  rw [h, spanOutside_append ht hrest'] at hread
  obtain ⟨hsame, hafter⟩ := Prod.mk.inj hread
  exact ⟨hsame.symm, hafter.symm⟩

section Words

variable {α : Type} {word : α → String} {all as bs : List α} {a b : α}

/-- None of the words begins another. -/
def PrefixFree (word : α → String) (all : List α) : Prop :=
  (all.map fun a => (word a).toList).Pairwise fun s t => ¬ s <+: t ∧ ¬ t <+: s

instance (word : α → String) (all : List α) : Decidable (PrefixFree word all) :=
  inferInstanceAs (Decidable (List.Pairwise _ _))

theorem PrefixFree.eq_of_prefix (hfree : PrefixFree word all) (ha : a ∈ all) (hb : b ∈ all)
    (h : (word a).toList <+: (word b).toList ∨ (word b).toList <+: (word a).toList) : a = b := by
  have hpairs := List.pairwise_map.mp hfree
  have hsymm : Std.Symm fun a b => ¬ (word a).toList <+: (word b).toList ∧
      ¬ (word b).toList <+: (word a).toList := ⟨fun _ _ => And.symm⟩
  by_contra hne
  obtain ⟨hab, hba⟩ := hpairs.forall ha hb hne
  exact h.elim hab hba

/-- Of words none of which begins another, the one in front of a text is never in doubt. -/
theorem append_inj_of_prefixFree (hfree : PrefixFree word all) (ha : a ∈ all) (hb : b ∈ all)
    (h : (word a).toList ++ rest = (word b).toList ++ rest') : a = b ∧ rest = rest' := by
  have hfront : (word a).toList <+: (word b).toList ++ rest' := ⟨rest, h⟩
  obtain rfl : a = b :=
    hfree.eq_of_prefix ha hb (List.prefix_or_prefix_of_prefix hfront ⟨rest', rfl⟩)
  exact ⟨rfl, List.append_cancel_left h⟩

/-- Words in a row, none of which begins another, if none of them begins what follows the row. -/
theorem join_append_inj_of_prefixFree (hfree : PrefixFree word all) (has : as ⊆ all)
    (hbs : bs ⊆ all) (hrest : ∀ a ∈ all, ¬ (word a).toList <+: rest)
    (hrest' : ∀ a ∈ all, ¬ (word a).toList <+: rest')
    (h : (String.join (as.map word)).toList ++ rest =
      (String.join (bs.map word)).toList ++ rest') :
    as = bs ∧ rest = rest' := by
  induction as generalizing bs with
  | nil =>
    cases bs with
    | nil => exact ⟨rfl, List.append_cancel_left h⟩
    | cons b bs => exact absurd ⟨_, by simpa using h.symm⟩ (hrest b (hbs (by simp)))
  | cons a as ih =>
    cases bs with
    | nil => exact absurd ⟨_, by simpa using h⟩ (hrest' a (has (by simp)))
    | cons b bs =>
      obtain ⟨hfirst, hmore⟩ := List.cons_subset.mp has
      obtain ⟨hfirst', hmore'⟩ := List.cons_subset.mp hbs
      simp only [List.map_cons, String.join_cons, String.toList_append, List.append_assoc] at h
      obtain ⟨rfl, hothers⟩ := append_inj_of_prefixFree hfree hfirst hfirst' h
      obtain ⟨rfl, hsame⟩ := ih hmore hmore' hothers
      exact ⟨rfl, hsame⟩

end Words

section Joined

variable {ends : List Char → Prop} {separator s t : List Char} {texts others : List (List Char)}

/-- Whichever of two texts stands in front, what follows it is the same, as long as it is something
that may follow. -/
def EndAlike (ends : List Char → Prop) (s t : List Char) : Prop :=
  ∀ ⦃rest rest' : List Char⦄, ends rest → ends rest' → s ++ rest = t ++ rest' → rest = rest'

theorem EndAlike.append_inj (hst : EndAlike ends s t) (hrest : ends rest) (hrest' : ends rest')
    (h : s ++ rest = t ++ rest') : s = t ∧ rest = rest' := by
  obtain rfl := hst hrest hrest' h
  exact ⟨List.append_cancel_right h, rfl⟩

theorem EndAlike.prepend (hst : EndAlike ends s t) (front : List Char) :
    EndAlike ends (front ++ s) (front ++ t) := by
  intro rest rest' hrest hrest' h
  simp only [List.append_assoc, List.append_cancel_left_eq] at h
  exact hst hrest hrest' h

theorem Outside.endAlike (hs : Outside p none s) (ht : Outside p none t) :
    EndAlike (StopsAt p) s t :=
  fun _ _ hrest hrest' h => (hs.append_inj ht hrest hrest' h).2

/-- Texts with a separator in front of each can be told apart, and so can what follows them, if it
is not taken for a further text. -/
theorem flatMap_append_inj (hends : ∀ s ∈ texts, ∀ t ∈ others, EndAlike ends s t)
    (hseparator : ∀ after, ends (separator ++ after))
    (hrest : ends rest ∧ ¬ separator <+: rest) (hrest' : ends rest' ∧ ¬ separator <+: rest')
    (h : texts.flatMap (separator ++ ·) ++ rest = others.flatMap (separator ++ ·) ++ rest') :
    texts = others ∧ rest = rest' := by
  have hfollows {texts : List (List Char)} {rest : List Char} (hrest : ends rest) :
      ends (texts.flatMap (separator ++ ·) ++ rest) := by
    cases texts with
    | nil => exact hrest
    | cons text texts =>
      simp only [List.flatMap_cons, List.append_assoc]
      exact hseparator _
  induction texts generalizing others with
  | nil =>
    cases others with
    | nil => exact ⟨rfl, h⟩
    | cons other others => exact absurd ⟨_, by simpa using h.symm⟩ hrest.2
  | cons text texts ih =>
    cases others with
    | nil => exact absurd ⟨_, by simpa using h⟩ hrest'.2
    | cons other others =>
      simp only [List.flatMap_cons, List.append_assoc, List.append_cancel_left_eq] at h
      have hfirst : EndAlike ends text other := hends text (by simp) other (by simp)
      obtain ⟨rfl, hothers⟩ := hfirst.append_inj (hfollows hrest.1) (hfollows hrest'.1) h
      obtain ⟨rfl, hsame⟩ := ih (fun s hs t ht => hends s (by simp [hs]) t (by simp [ht])) hothers
      exact ⟨rfl, hsame⟩

theorem append_intercalate (hne : texts ≠ []) :
    separator ++ separator.intercalate texts = texts.flatMap (separator ++ ·) := by
  induction texts with
  | nil => exact absurd rfl hne
  | cons text texts ih =>
    cases texts with
    | nil => simp
    | cons next texts =>
      rw [List.intercalate_cons_cons, List.flatMap_cons, ← ih (by simp)]
      simp

theorem intercalate_append_inj {separator : String} {texts others : List String}
    (hne : texts ≠ []) (hne' : others ≠ [])
    (hends : ∀ s ∈ texts, ∀ t ∈ others, EndAlike ends s.toList t.toList)
    (hseparator : ∀ after, ends (separator.toList ++ after))
    (hrest : ends rest ∧ ¬ separator.toList <+: rest)
    (hrest' : ends rest' ∧ ¬ separator.toList <+: rest')
    (h : (separator.intercalate texts).toList ++ rest =
      (separator.intercalate others).toList ++ rest') :
    texts = others ∧ rest = rest' := by
  rw [String.toList_intercalate, String.toList_intercalate] at h
  -- a separator in front of both makes the first texts like the later ones
  have hfront := congrArg (separator.toList ++ ·) h
  simp only [← List.append_assoc, append_intercalate (List.map_eq_nil_iff.not.mpr hne),
    append_intercalate (List.map_eq_nil_iff.not.mpr hne')] at hfront
  have hlists : ∀ s ∈ texts.map String.toList, ∀ t ∈ others.map String.toList,
      EndAlike ends s t := by
    simpa only [List.forall_mem_map] using hends
  obtain ⟨hsame, hafter⟩ := flatMap_append_inj hlists hseparator hrest hrest' hfront
  exact ⟨(List.map_inj_right fun _ _ => String.toList_inj.mp).mp hsame, hafter⟩

end Joined

/-- Words that begin with what neither opens quotes nor begins a bare name. -/
theorem quoteIdentifier_append_ne {name word : String}
    (hword : word.toList.head?.any (fun c => !isBareStart c && c ≠ '"') = true := by decide) :
    (quoteIdentifier name).toList ++ rest ≠ word.toList ++ rest' := by
  obtain ⟨c, after, hname, hc⟩ := spellName_head name.toList
  rw [toList_quoteIdentifier, hname]
  intro h
  cases hfirst : word.toList with
  | nil => simp [hfirst] at hword
  | cons d more =>
    rw [hfirst] at h hword
    obtain rfl : c = d := (List.cons.inj h).1
    rcases hc with hstart | rfl
    · simp [hstart] at hword
    · simp at hword

theorem spelling_append_inj {name other : String} (hrest : StopsAt isNameChar rest)
    (hrest' : StopsAt isNameChar rest')
    (h : (quoteIdentifier name).toList ++ rest = (quoteIdentifier other).toList ++ rest') :
    quoteIdentifier name = quoteIdentifier other ∧ rest = rest' := by
  rw [toList_quoteIdentifier, toList_quoteIdentifier] at h
  obtain ⟨hname, hafter⟩ := (outside_spellName name.toList).append_inj
    (outside_spellName other.toList) hrest hrest' h
  exact ⟨congrArg String.ofList hname, hafter⟩

theorem quoteIdentifier_append_inj {name other : String}
    (h : (quoteIdentifier name).toList ++ ' ' :: rest =
      (quoteIdentifier other).toList ++ ' ' :: rest') :
    quoteIdentifier name = quoteIdentifier other ∧ rest = rest' := by
  have hblank (rest : List Char) : StopsAt isNameChar (' ' :: rest) := stopsAt_cons.mpr (by decide)
  obtain ⟨hname, hafter⟩ := spelling_append_inj (hblank rest) (hblank rest') h
  exact ⟨hname, (List.cons.inj hafter).2⟩

/-- A list of names ends in front of a character that is neither a comma nor one of a name. -/
theorem quoteAll_append_inj {names others : List String} (hnames : names ≠ [])
    (hothers : others ≠ [])
    (h : (Postgres.dialect.quoteAll names).toList ++ c :: rest =
      (Postgres.dialect.quoteAll others).toList ++ c :: rest')
    (hc : c ≠ ',' ∧ isQuoteMark c = false ∧ isNameChar c = false := by decide) :
    names.map quoteIdentifier = others.map quoteIdentifier ∧ rest = rest' := by
  have hspelled : ∀ s ∈ names.map quoteIdentifier, ∀ t ∈ others.map quoteIdentifier,
      EndAlike (StopsAt isNameChar) s.toList t.toList := by
    simp only [List.forall_mem_map, toList_quoteIdentifier]
    intro name _ other _
    exact (outside_spellName name.toList).endAlike (outside_spellName other.toList)
  have hends (rest : List Char) :
      StopsAt isNameChar (c :: rest) ∧ ¬ ", ".toList <+: c :: rest := by
    refine ⟨stopsAt_cons.mpr hc.2, ?_⟩
    rintro ⟨after, hafter⟩
    exact hc.1 (List.cons.inj hafter).1.symm
  obtain ⟨hsame, hafter⟩ := intercalate_append_inj (List.map_eq_nil_iff.not.mpr hnames)
    (List.map_eq_nil_iff.not.mpr hothers) hspelled (fun after => stopsAt_cons.mpr (by decide))
    (hends rest) (hends rest') h
  exact ⟨hsame, (List.cons.inj hafter).2⟩

end SchemaDraft.Sql
