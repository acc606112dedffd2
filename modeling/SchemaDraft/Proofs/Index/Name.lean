import Mathlib.Data.List.Basic
import Mathlib.Tactic.SplitIfs
import SchemaDraft.Index.Basic

/-!
Conventional names of indexes. Whatever the names of the table and the columns are, the name made up
from them has an underscore and no dot, and a NUL only if one of them has. Lower-casing brings no
character into a text that stands before the small letters.
-/

namespace SchemaDraft

namespace Text

variable {before after text : List Char} {c d : Char}

theorem mem_intercalate {separator : List Char} (hc : c ∉ separator) {texts : List (List Char)} :
    c ∈ separator.intercalate texts ↔ ∃ text ∈ texts, c ∈ text := by
  induction texts with
  | nil => simp
  | cons text texts ih =>
    cases texts with
    | nil => simp
    | cons next texts =>
      rw [List.intercalate_cons_cons, List.mem_append, List.mem_append, ih]
      simp [hc]

theorem mem_lowercaseAfter :
    d ∈ lowercaseAfter before text ↔
      ∃ left c right, text = left ++ c :: right ∧
        d ∈ lowercaseOne (left.reverse ++ before) right c := by
  induction text generalizing before with
  | nil => simp [lowercaseAfter]
  | cons first rest ih =>
    rw [lowercaseAfter, List.mem_append, ih]
    constructor
    · rintro (hhead | ⟨left, c, right, rfl, hmem⟩)
      · exact ⟨[], first, rest, rfl, hhead⟩
      · exact ⟨first :: left, c, right, rfl, by simpa using hmem⟩
    · rintro ⟨left, c, right, htext, hmem⟩
      cases left with
      | nil =>
        obtain ⟨rfl, rfl⟩ := List.cons.inj htext
        exact .inl hmem
      | cons other left =>
        obtain ⟨rfl, rfl⟩ := List.cons.inj htext
        exact .inr ⟨left, c, right, rfl, by simpa using hmem⟩

/-- The table leads to small letters and further on, and past the surrogates. -/
theorem targets_of_mem_upperCaseRuns : ∀ run ∈ upperCaseRuns, ∀ n ∈ run.target,
    0x61 ≤ n ∧ (n + (run.last - run.first) < 0xD800 ∨
      0xDFFF < n ∧ n + (run.last - run.first) < 0x110000) := by
  decide +kernel

theorem le_toNat_of_mapped {targets : List Char} (h : mapped? upperCaseRuns c = some targets) :
    ∀ d ∈ targets, 0x61 ≤ d.toNat := by
  obtain ⟨run, hfind, rfl⟩ := Option.map_eq_some_iff.mp h
  have hcovers := List.find?_some hfind
  have htargets := targets_of_mem_upperCaseRuns run (List.mem_of_find?_eq_some hfind)
  intro d hd
  obtain ⟨n, hn, rfl⟩ := List.mem_map.mp hd
  obtain ⟨hlow, hvalid⟩ := htargets n hn
  simp only [CodeRun.covers, Bool.and_eq_true, decide_eq_true_eq] at hcovers
  have hcode : (n + (c.toNat - run.first)).isValidChar := by
    unfold Nat.isValidChar
    omega
  rw [Char.ofNat, dif_pos hcode]
  show 0x61 ≤ n + (c.toNat - run.first)
  omega

theorem eq_of_mem_lowercaseOne (h : d ∈ lowercaseOne before after c) (hd : d.toNat < 0x61) :
    d = c := by
  unfold lowercaseOne at h
  split_ifs at h
  · obtain rfl := List.mem_singleton.mp h
    exact absurd hd (by decide)
  · obtain rfl := List.mem_singleton.mp h
    exact absurd hd (by decide)
  · rcases List.mem_pair.mp h with rfl | rfl <;> exact absurd hd (by decide)
  · obtain rfl := List.mem_singleton.mp h
    unfold simpleLowercase at hd ⊢
    split at hd
    next lower hmapped =>
      have := le_toNat_of_mapped hmapped lower (by simp)
      omega
    next => rfl

/-- What stands before the small letters in a lower-cased text stands in the text itself. -/
theorem mem_of_mem_lowercaseAfter (h : d ∈ lowercaseAfter before text) (hd : d.toNat < 0x61) :
    d ∈ text := by
  obtain ⟨left, c, right, rfl, hmem⟩ := mem_lowercaseAfter.mp h
  obtain rfl := eq_of_mem_lowercaseOne hmem hd
  simp

theorem lowercaseOne_ne_nil : lowercaseOne before after c ≠ [] := by
  unfold lowercaseOne
  split_ifs <;> simp

/-- The end of a lower-cased text is made of its last character. -/
theorem lowercaseAfter_concat (before text : List Char) (c : Char) :
    ∃ front before', lowercaseAfter before (text ++ [c]) = front ++ lowercaseOne before' [] c := by
  induction text generalizing before with
  | nil => exact ⟨[], before, by simp [lowercaseAfter]⟩
  | cons d text ih =>
    obtain ⟨front, before', hfront⟩ := ih (d :: before)
    exact ⟨lowercaseOne before (text ++ [c]) d ++ front, before', by simp [lowercaseAfter, hfront]⟩

theorem lowercaseOne_underscore : lowercaseOne before after '_' = ['_'] := by
  rw [lowercaseOne, if_neg (by decide), if_neg (by decide)]
  decide +kernel

theorem underscore_mem_lowercaseAfter (h : '_' ∈ text) : '_' ∈ lowercaseAfter before text := by
  obtain ⟨left, right, rfl⟩ := List.append_of_mem h
  exact mem_lowercaseAfter.mpr ⟨left, '_', right, rfl, by simp [lowercaseOne_underscore]⟩

end Text

namespace Index

variable {table ending : String} {columns : List String}

theorem toList_conventionalName : (conventionalName table columns ending).toList =
    (Text.lowercaseAfter [] (table.toList ++ '_' :: ((['_'].intercalate
      (columns.map String.toList)) ++ '_' :: ending.toList))).map underscoreFor := by
  simp [conventionalName, Text.lowercase, String.toList_intercalate]

theorem underscore_mem_conventionalName :
    '_' ∈ (conventionalName table columns ending).toList := by
  rw [toList_conventionalName]
  exact List.mem_map.mpr ⟨'_', Text.underscore_mem_lowercaseAfter (by simp), rfl⟩

theorem dot_notMem_conventionalName : '.' ∉ (conventionalName table columns ending).toList := by
  rw [toList_conventionalName, List.mem_map]
  rintro ⟨c, -, hc⟩
  unfold underscoreFor at hc
  split_ifs at hc with h
  · cases hc
  · simp [hc] at h

/-- What a conventional name ends in comes from its ending. -/
theorem getLast?_conventionalName {c d : Char} (hending : ending.toList.getLast? = some c)
    (h : (conventionalName table columns ending).toList.getLast? = some d) (hd : d.toNat < 0x5F) :
    d = c := by
  obtain ⟨front, hfront⟩ := List.getLast?_eq_some_iff.mp hending
  obtain ⟨text, htext⟩ : ∃ text, table.toList ++ '_' :: ((['_'].intercalate
      (columns.map String.toList)) ++ '_' :: ending.toList) = text ++ [c] :=
    ⟨_, by rw [hfront, ← List.cons_append, ← List.append_assoc, ← List.cons_append,
      ← List.append_assoc]⟩
  obtain ⟨before, seen, hlower⟩ := Text.lowercaseAfter_concat [] text c
  rw [toList_conventionalName, htext, hlower, List.map_append,
    List.getLast?_append_of_ne_nil _ (by simp [Text.lowercaseOne_ne_nil])] at h
  obtain ⟨e, he, hed⟩ := List.mem_map.mp (List.mem_of_getLast? h)
  obtain rfl : e = d := by
    unfold underscoreFor at hed
    split_ifs at hed
    · exact absurd hd (by rw [← hed]; decide)
    · exact hed
  exact Text.eq_of_mem_lowercaseOne he (by omega)

theorem getLast?_ending (index : Index) :
    ∃ c, index.ending.toList.getLast? = some c ∧ c ≠ '"' := by
  unfold ending
  split_ifs
  · exact ⟨'e', by decide, by decide⟩
  · cases index.method <;> exact ⟨_, rfl, by decide⟩

theorem getLast?_conventionalName_ne (index : Index) :
    (conventionalName table columns index.ending).toList.getLast? ≠ some '"' := by
  obtain ⟨c, hending, hc⟩ := getLast?_ending index
  intro hlast
  exact hc (getLast?_conventionalName hending hlast (by decide)).symm

theorem conventionalName_ne_empty : conventionalName table columns ending ≠ "" := by
  intro hempty
  have hmem : '_' ∈ (conventionalName table columns ending).toList :=
    underscore_mem_conventionalName
  simp [hempty] at hmem

/-- A NUL in a conventional name comes from a name that it is made up from. -/
theorem nul_mem_of_mem_conventionalName
    (h : '\x00' ∈ (conventionalName table columns ending).toList) :
    '\x00' ∈ table.toList ∨ (∃ column ∈ columns, '\x00' ∈ column.toList) ∨
      '\x00' ∈ ending.toList := by
  rw [toList_conventionalName] at h
  obtain ⟨c, hc, hnul⟩ := List.mem_map.mp h
  obtain rfl : c = '\x00' := by
    unfold underscoreFor at hnul
    split_ifs at hnul
    · cases hnul
    · exact hnul
  have hjoined := Text.mem_of_mem_lowercaseAfter hc (by decide)
  simp only [List.mem_append, List.mem_cons] at hjoined
  rcases hjoined with htable | hunderscore | hcolumns | hunderscore | hending
  · exact .inl htable
  · cases hunderscore
  · refine .inr (.inl ?_)
    simpa using (Text.mem_intercalate (by decide)).mp hcolumns
  · cases hunderscore
  · exact .inr (.inr hending)

theorem nul_notMem_ending (index : Index) : '\x00' ∉ index.ending.toList := by
  unfold ending
  split_ifs
  · decide
  · cases index.method <;> decide

theorem resolvedName_ne_empty {index : Index} (table : String)
    (h : ∀ name ∈ index.name, name ≠ "") : index.resolvedName table ≠ "" := by
  unfold resolvedName
  cases hname : index.name with
  | some name => exact h name hname
  | none => exact conventionalName_ne_empty

end Index

end SchemaDraft
