import Mathlib.Tactic.SplitIfs
import SchemaDraft.Condition.Sql
import SchemaDraft.Proofs.Literal.Formatting
import SchemaDraft.Sql.Postgres

/-!
What becomes of a fragment of SQL text with bound values. Its template is a list of pieces with
question marks between them, and its text has the texts of the values there instead. The question
marks are counted before any value is looked at, and none is looked for in the text of a value.
-/

namespace SchemaDraft

/-- The pieces of a template: it has a question mark between any two of them and no other. -/
structure CutAtMarks (template : String) (pieces : List String) : Prop where
  nonempty : pieces ≠ []
  joined : "?".intercalate pieces = template
  markless : ∀ piece ∈ pieces, '?' ∉ piece.toList

/-- What a fragment is rendered to, if its template has a first piece and further ones, each of them
after a question mark. -/
inductive FragmentOutcome (d : Dialect) (template : String) (bindings : List Literal)
    (first : String) (rest : List String) : Except RenderError String → Prop where
  | mismatched (hcount : bindings.length ≠ rest.length) :
    FragmentOutcome d template bindings first rest
      (.error (.placeholderMismatch template rest.length bindings.length))
  | refused {before after : List Literal} {value : Literal} {refusal : UnsupportedLiteral}
    (hcount : bindings.length = rest.length) (hbindings : bindings = before ++ value :: after)
    (hbefore : ∀ earlier ∈ before, ∃ text, d.formatLiteral earlier = .ok text)
    (hvalue : d.formatLiteral value = .error refusal) :
    FragmentOutcome d template bindings first rest
      (.error (.unsupportedLiteral (.condition (.fragment template bindings)) refusal.reason))
  | filled {texts : List String} (hcount : bindings.length = rest.length)
    (htexts : List.Forall₂ (fun value text => d.formatLiteral value = .ok text) bindings texts) :
    FragmentOutcome d template bindings first rest
      (.ok (first ++ String.join (List.zipWith (· ++ ·) texts rest)))

section Pieces

variable {template first : String} {pieces rest : List String}

theorem notMem_of_mem_splitOn {mark : Char} {text piece : List Char}
    (h : piece ∈ text.splitOn mark) : mark ∉ piece := by
  induction text generalizing piece with
  | nil => simp_all
  | cons c text ih =>
    rw [List.splitOn_cons_eq_if_modifyHead] at h
    split_ifs at h with hc
    · rcases List.mem_cons.mp h with rfl | h
      · exact List.not_mem_nil
      · exact ih h
    · cases hsplit : text.splitOn mark with
      | nil => exact absurd hsplit (List.splitOn_ne_nil mark text)
      | cons first others =>
        rw [hsplit] at h ih
        rcases List.mem_cons.mp h with rfl | h
        · have hne : mark ≠ c := fun hsame => hc (by simp [hsame])
          exact fun hmem => ih List.mem_cons_self ((List.mem_cons.mp hmem).resolve_left hne)
        · exact ih (List.mem_cons_of_mem _ h)

/-- A template has exactly one list of pieces. -/
theorem cutAtMarks_iff :
    CutAtMarks template pieces ↔ pieces.map String.toList = template.toList.splitOn '?' := by
  constructor
  · rintro ⟨hne, rfl, hmarkless⟩
    have hpieces : ∀ piece ∈ pieces.map String.toList, '?' ∉ piece := by
      simpa using hmarkless
    rw [String.toList_intercalate]
    exact (List.splitOn_intercalate '?' hpieces (by simpa using hne)).symm
  · intro h
    refine ⟨?_, ?_, ?_⟩
    · rintro rfl
      exact List.splitOn_ne_nil '?' template.toList h.symm
    · rw [← String.toList_inj, String.toList_intercalate, h]
      exact List.intercalate_splitOn '?'
    · intro piece hpiece
      exact notMem_of_mem_splitOn (h ▸ List.mem_map_of_mem hpiece)

theorem exists_cutAtMarks (template : String) :
    ∃ first rest, ∀ pieces, CutAtMarks template pieces ↔ pieces = first :: rest := by
  have hpieces : ((template.toList.splitOn '?').map String.ofList).map String.toList =
      template.toList.splitOn '?' := by
    simp [Function.comp_def]
  cases hcut : (template.toList.splitOn '?').map String.ofList with
  | nil => exact absurd (List.map_eq_nil_iff.mp hcut) (List.splitOn_ne_nil '?' _)
  | cons first rest =>
    refine ⟨first, rest, fun pieces => ?_⟩
    rw [cutAtMarks_iff, ← hpieces, hcut]
    exact List.map_inj_right fun s t => String.toList_inj.mp

theorem toList_marks_cons_cons (first next : String) (rest : List String) :
    ("?".intercalate (first :: next :: rest)).toList =
      first.toList ++ '?' :: ("?".intercalate (next :: rest)).toList := by
  simp [String.intercalate_cons_cons]

theorem CutAtMarks.placeholders (h : CutAtMarks template (first :: rest)) :
    Condition.placeholders template = rest.length := by
  obtain ⟨-, rfl, hmarkless⟩ := h
  induction rest generalizing first with
  | nil => simpa [Condition.placeholders, List.count_eq_zero] using hmarkless
  | cons next rest ih =>
    rw [List.forall_mem_cons] at hmarkless
    have hrest := ih hmarkless.2
    rw [Condition.placeholders] at hrest ⊢
    rw [toList_marks_cons_cons, List.count_append, List.count_cons_self,
      List.count_eq_zero.mpr hmarkless.1, hrest, Nat.zero_add, List.length_cons]

theorem Condition.fill_append {piece : List Char} (h : '?' ∉ piece) (rest : List Char)
    (texts : List String) : fill (piece ++ rest) texts = piece ++ fill rest texts := by
  induction piece with
  | nil => rfl
  | cons c piece ih =>
    simp only [List.mem_cons, not_or] at h
    simp only [List.cons_append, fill, if_neg (Ne.symm h.1), ih h.2]

/-- Each text takes the place of one question mark, in order. -/
theorem CutAtMarks.fill {texts : List String} (h : CutAtMarks template (first :: rest))
    (hcount : texts.length = rest.length) :
    String.ofList (Condition.fill template.toList texts) =
      first ++ String.join (List.zipWith (· ++ ·) texts rest) := by
  obtain ⟨-, rfl, hmarkless⟩ := h
  induction rest generalizing first texts with
  | nil =>
    have hfirst : Condition.fill first.toList texts = first.toList := by
      simpa [Condition.fill] using Condition.fill_append (hmarkless first (by simp)) [] texts
    simp [hfirst]
  | cons next rest ih =>
    cases texts with
    | nil => cases hcount
    | cons text texts =>
      rw [List.forall_mem_cons] at hmarkless
      have hrest := ih (Nat.succ.inj hcount) hmarkless.2
      rw [toList_marks_cons_cons, Condition.fill_append hmarkless.1]
      simp only [Condition.fill, if_true, String.ofList_append, String.ofList_toList, hrest,
        List.zipWith_cons_cons, String.join_cons, String.append_assoc]

end Pieces

namespace Condition

variable {d : Dialect} {template first : String} {bindings : List Literal} {rest : List String}
  {result : Except RenderError String}

theorem render_of_fragmentOutcome (hcut : CutAtMarks template (first :: rest))
    (h : FragmentOutcome d template bindings first rest result) :
    (Condition.fragment template bindings).render d = result := by
  have hplaceholders := hcut.placeholders
  cases h with
  | mismatched hcount =>
    rw [render, if_pos (by omega), hplaceholders]
    rfl
  | refused hcount hbindings hbefore hvalue =>
    have hrefusal := Dialect.formatLiterals_eq_error.mpr ⟨_, _, _, hbindings, hbefore, hvalue⟩
    rw [render, if_neg (by omega), Dialect.literalsAt, hrefusal]
    rfl
  | filled hcount htexts =>
    have hformat := Dialect.formatLiterals_eq_ok.mpr htexts
    have hlength := htexts.length_eq
    rw [render, if_neg (by omega), Dialect.literalsAt, hformat, ← hcut.fill (by omega)]
    rfl

theorem exists_fragmentOutcome (d : Dialect) (template : String) (bindings : List Literal)
    (first : String) (rest : List String) :
    ∃ result, FragmentOutcome d template bindings first rest result := by
  by_cases hcount : bindings.length = rest.length
  · cases hformat : d.formatLiterals bindings with
    | error refusal =>
      obtain ⟨_, _, _, hbindings, hbefore, hvalue⟩ := Dialect.formatLiterals_eq_error.mp hformat
      exact ⟨_, .refused hcount hbindings hbefore hvalue⟩
    | ok texts => exact ⟨_, .filled hcount (Dialect.formatLiterals_eq_ok.mp hformat)⟩
  · exact ⟨_, .mismatched hcount⟩

/-- A fragment whose question marks are not as many as its bound values is refused for that,
whatever the values are; else it is refused for its first value without text, and else its text is
made of the pieces of the template and the texts of the values in turn. -/
theorem render_fragment_iff (d : Dialect) (template : String) (bindings : List Literal) :
    ∃ first rest, (∀ pieces, CutAtMarks template pieces ↔ pieces = first :: rest) ∧
      ∀ result, (Condition.fragment template bindings).render d = result ↔
        FragmentOutcome d template bindings first rest result := by
  obtain ⟨first, rest, hpieces⟩ := exists_cutAtMarks template
  have hcut : CutAtMarks template (first :: rest) := (hpieces _).mpr rfl
  refine ⟨first, rest, hpieces, fun result => ⟨?_, render_of_fragmentOutcome hcut⟩⟩
  rintro rfl
  obtain ⟨result, houtcome⟩ := exists_fragmentOutcome d template bindings first rest
  rwa [render_of_fragmentOutcome hcut houtcome]

/-- A question mark in a value is not filled in again. -/
example : (Condition.fragment "??" [.text "?", .integer 1]).render Postgres.dialect =
    .ok "'?'1" := by decide +kernel

end Condition

end SchemaDraft
