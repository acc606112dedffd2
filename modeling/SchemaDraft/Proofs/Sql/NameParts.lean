import Mathlib.Algebra.Ring.Parity
import Mathlib.Data.List.Forall2
import Mathlib.Data.List.TakeWhile
import SchemaDraft.Proofs.Sql.Spelling

/-!
The parts that a name stands for, and how PostgreSQL reads them back from its spelling. A name is
cut at the dots that stand after an even number of double quotes; a piece that is one quoted text
stands for its content and any other piece for itself, character by character. An identifier is read
part by part: a word in small letters that is not reserved stands for itself, a text between double
quotes for its content, and a dot leads to the next part. Reading the spelling of a name gives the
parts of the name and ends where the spelling does.
-/

namespace SchemaDraft.Sql

/-- The pieces of a name, cut at the dots that stand after an even number of double quotes: every
piece but the last holds an even number of them, and a dot inside a piece stands after an odd
number. -/
structure CutAtDots (name : List Char) (pieces : List (List Char)) : Prop where
  nonempty : pieces ≠ []
  joined : ['.'].intercalate pieces = name
  even : ∀ piece ∈ pieces.dropLast, Even (piece.count '"')
  odd : ∀ piece ∈ pieces, ∀ before after, piece = before ++ '.' :: after →
    ¬ Even (before.count '"')

/-- What a piece stands for. -/
inductive PieceDenotes : List Char → List Char → Prop where
  | quoted (content : List Char) : PieceDenotes (quotedWith '"' content) content
  | plain {piece : List Char} (h : ∀ content, piece ≠ quotedWith '"' content) :
    PieceDenotes piece piece

/-- The parts that a name stands for, one for each piece. -/
def NameDenotes (name : List Char) (parts : List (List Char)) : Prop :=
  ∃ pieces, CutAtDots name pieces ∧ List.Forall₂ PieceDenotes pieces parts

/-- Reads one part of an identifier, and gives what it stands for and what follows it. -/
def readPart (text : List Char) : Option (List Char × List Char) :=
  match readQuoted '"' text with
  | some read => some read
  | none =>
    let word := text.takeWhile isBareRest
    if isBare word && !isReserved word then some (word, text.drop word.length) else none

/-- Reads parts with dots between them, at most `count` of them. -/
def readParts : Nat → List Char → Option (List (List Char) × List Char)
  | 0, _ => none
  | count + 1, text =>
    match readPart text with
    | none => none
    | some (part, '.' :: rest) =>
      (readParts count rest).map fun (parts, rest) => (part :: parts, rest)
    | some (part, rest) => some ([part], rest)

/-- Reads an identifier at the front of a text. Each further part takes a dot, so there are no more
of them than characters. -/
def readIdentifier (text : List Char) : Option (List (List Char) × List Char) :=
  readParts (text.length + 1) text

/-- The parts of a text that is one identifier from end to end. -/
def identifierParts? (text : String) : Option (List (List Char)) :=
  match readIdentifier text.toList with
  | some (parts, []) => some parts
  | _ => none

section Pieces

/-- Whether an odd number of double quotes stands before what follows a text. -/
def quotedAfter (quoted : Bool) (text : List Char) : Bool :=
  text.foldl (fun quoted c => quoted != (c == '"')) quoted

/-- No dot in the piece cuts it. -/
def Uncut (quoted : Bool) (piece : List Char) : Prop :=
  ∀ before after, piece = before ++ '.' :: after → quotedAfter quoted before = true

/-- The pieces of a text before which an odd number of double quotes stands or not. -/
def CutFrom (quoted : Bool) : List (List Char) → Prop
  | [] => False
  | [last] => Uncut quoted last
  | piece :: next :: rest =>
    Uncut quoted piece ∧ quotedAfter quoted piece = false ∧ CutFrom false (next :: rest)

variable {quoted : Bool} {c : Char} {piece name : List Char} {pieces : List (List Char)}

theorem quotedAfter_eq (quoted : Bool) (text : List Char) :
    quotedAfter quoted text = (quoted != decide (¬ Even (text.count '"'))) := by
  induction text generalizing quoted with
  | nil => simp [quotedAfter]
  | cons c text ih =>
    rw [quotedAfter, List.foldl_cons, ← quotedAfter, ih]
    by_cases hc : c = '"'
    · subst hc
      by_cases heven : Even (text.count '"') <;> cases quoted <;>
        simp [Nat.even_add_one, heven]
    · have hne : (c == '"') = false := by simpa using hc
      rw [hne, Bool.bne_false, List.count_cons_of_ne hc]

theorem quotedAfter_false {text : List Char} :
    quotedAfter false text = false ↔ Even (text.count '"') := by
  simp [quotedAfter_eq]

theorem uncut_cons :
    Uncut quoted (c :: piece) ↔ (c = '.' → quoted = true) ∧ Uncut (quoted != (c == '"')) piece := by
  constructor
  · intro h
    refine ⟨?_, ?_⟩
    · rintro rfl
      exact h [] piece rfl
    · rintro before after rfl
      exact h (c :: before) after rfl
  · rintro ⟨hdot, hrest⟩ before after hpiece
    cases before with
    | nil =>
      obtain ⟨rfl, rfl⟩ := List.cons.inj hpiece
      exact hdot rfl
    | cons d before =>
      obtain ⟨rfl, rfl⟩ := List.cons.inj hpiece
      exact hrest before after rfl

theorem cutFrom_prependToFirst (hdot : c = '.' → quoted = true)
    (h : CutFrom (quoted != (c == '"')) pieces) : CutFrom quoted (prependToFirst c pieces) := by
  match pieces, h with
  | [_], h => exact uncut_cons.mpr ⟨hdot, h⟩
  | _ :: _ :: _, ⟨huncut, hclosed, hrest⟩ =>
    exact ⟨uncut_cons.mpr ⟨hdot, huncut⟩, hclosed, hrest⟩

theorem intercalate_prependToFirst {separator : List Char} (h : pieces ≠ []) :
    separator.intercalate (prependToFirst c pieces) = c :: separator.intercalate pieces := by
  match pieces, h with
  | [_], _ => simp [prependToFirst]
  | _ :: _ :: _, _ => simp [prependToFirst, List.intercalate_cons_cons]

theorem cutFrom_splitParts (quoted : Bool) (name : List Char) :
    CutFrom quoted (splitParts quoted name) ∧
      ['.'].intercalate (splitParts quoted name) = name := by
  induction name generalizing quoted with
  | nil => exact ⟨by simp [splitParts, CutFrom, Uncut], rfl⟩
  | cons c rest ih =>
    rw [splitParts]
    split_ifs with hcut
    · simp only [Bool.and_eq_true, decide_eq_true_eq, Bool.not_eq_true'] at hcut
      obtain ⟨rfl, rfl⟩ := hcut
      cases hsplit : splitParts false rest with
      | nil => exact absurd hsplit (splitParts_ne_nil false rest)
      | cons next others =>
        obtain ⟨hcuts, hjoined⟩ := ih false
        rw [hsplit] at hcuts hjoined
        refine ⟨⟨by simp [Uncut], rfl, hcuts⟩, ?_⟩
        rw [List.intercalate_cons_cons, hjoined]
        rfl
    · have hdot : c = '.' → quoted = true := by
        intro hc
        simpa [hc] using hcut
      obtain ⟨hcuts, hjoined⟩ := ih (quoted != (c == '"'))
      refine ⟨cutFrom_prependToFirst hdot hcuts, ?_⟩
      rw [intercalate_prependToFirst (splitParts_ne_nil _ _), hjoined]

/-- A dot does not cut a piece that is uncut, and the dot behind it does where no quotes are
open. -/
theorem splitParts_of_uncut (h : Uncut quoted piece) : splitParts quoted piece = [piece] := by
  induction piece generalizing quoted with
  | nil => rfl
  | cons c piece ih =>
    obtain ⟨hdot, hrest⟩ := uncut_cons.mp h
    rw [splitParts, if_neg (by simpa using hdot), ih hrest, prependToFirst]

theorem splitParts_of_notMem (h : '.' ∉ name) : splitParts false name = [name] := by
  apply splitParts_of_uncut
  rintro before after rfl
  exact absurd (by simp) h

theorem splitParts_append_dot (h : Uncut quoted piece) (hclosed : quotedAfter quoted piece = false)
    (rest : List Char) :
    splitParts quoted (piece ++ '.' :: rest) = piece :: splitParts false rest := by
  induction piece generalizing quoted with
  | nil =>
    obtain rfl : quoted = false := hclosed
    simp [splitParts]
  | cons c piece ih =>
    obtain ⟨hdot, hrest⟩ := uncut_cons.mp h
    rw [List.cons_append, splitParts, if_neg (by simpa using hdot), ih hrest hclosed,
      prependToFirst]

theorem splitParts_intercalate (h : CutFrom quoted pieces) :
    splitParts quoted (['.'].intercalate pieces) = pieces := by
  induction pieces generalizing quoted with
  | nil => exact h.elim
  | cons piece pieces ih =>
    cases pieces with
    | nil => simpa using splitParts_of_uncut h
    | cons next rest =>
      obtain ⟨huncut, hclosed, hrest⟩ := h
      rw [List.intercalate_cons_cons, List.append_assoc, List.singleton_append,
        splitParts_append_dot huncut hclosed, ih hrest]

theorem uncut_false : Uncut false piece ↔
    ∀ before after, piece = before ++ '.' :: after → ¬ Even (before.count '"') := by
  simp only [Uncut, quotedAfter_eq, Bool.false_bne, decide_eq_true_eq]

theorem cutFrom_false : CutFrom false pieces ↔
    pieces ≠ [] ∧ (∀ piece ∈ pieces.dropLast, Even (piece.count '"')) ∧
      ∀ piece ∈ pieces, Uncut false piece := by
  induction pieces with
  | nil => simp [CutFrom]
  | cons piece pieces ih =>
    cases pieces with
    | nil => simp [CutFrom]
    | cons next rest =>
      have heven : (∀ p ∈ (piece :: next :: rest).dropLast, Even (p.count '"')) ↔
          Even (piece.count '"') ∧ ∀ p ∈ (next :: rest).dropLast, Even (p.count '"') := by
        rw [List.dropLast_cons_cons, List.forall_mem_cons]
      have huncut : (∀ p ∈ piece :: next :: rest, Uncut false p) ↔
          Uncut false piece ∧ ∀ p ∈ next :: rest, Uncut false p := List.forall_mem_cons
      rw [CutFrom, ih, quotedAfter_false, heven, huncut]
      simp only [ne_eq, reduceCtorEq, not_false_eq_true, true_and]
      tauto

/-- A name has exactly one list of pieces, which is what spelling takes it apart into. -/
theorem cutAtDots_iff : CutAtDots name pieces ↔ splitParts false name = pieces := by
  constructor
  · rintro ⟨hne, rfl, heven, hodd⟩
    exact splitParts_intercalate
      (cutFrom_false.mpr ⟨hne, heven, fun piece hpiece => uncut_false.mpr (hodd piece hpiece)⟩)
  · rintro rfl
    obtain ⟨hcuts, hjoined⟩ := cutFrom_splitParts false name
    obtain ⟨hne, heven, huncut⟩ := cutFrom_false.mp hcuts
    exact ⟨hne, hjoined, heven, fun piece hpiece => uncut_false.mp (huncut piece hpiece)⟩

end Pieces

/-- The part that a piece stands for. -/
def pieceContent (piece : List Char) : List Char := (quotedContent? '"' piece).getD piece

theorem quotedContent?_quotedWith (mark : Char) (content : List Char) :
    quotedContent? mark (quotedWith mark content) = some content := by
  have hread := readQuoted_quotedWith mark content [] (by simp)
  rw [List.append_nil] at hread
  simp only [quotedContent?, hread]

theorem pieceDenotes_iff {piece part : List Char} :
    PieceDenotes piece part ↔ part = pieceContent piece := by
  constructor
  · rintro (⟨content⟩ | hplain)
    · simp [pieceContent, quotedContent?_quotedWith]
    · cases hquoted : quotedContent? '"' piece with
      | none => simp [pieceContent, hquoted]
      | some content => exact absurd (eq_quotedWith_of_quotedContent? hquoted) (hplain content)
  · rintro rfl
    cases hquoted : quotedContent? '"' piece with
    | none =>
      have hplain (content : List Char) : piece ≠ quotedWith '"' content := by
        rintro rfl
        rw [quotedContent?_quotedWith] at hquoted
        cases hquoted
      simpa [pieceContent, hquoted] using PieceDenotes.plain hplain
    | some content =>
      rw [pieceContent, hquoted, Option.getD_some]
      nth_rewrite 1 [eq_quotedWith_of_quotedContent? hquoted]
      exact .quoted content

/-- The parts that a name stands for. -/
def nameParts (name : List Char) : List (List Char) := (splitParts false name).map pieceContent

/-- A name without a dot that does not end in a double quote stands for itself, whatever else is in
it. -/
theorem nameParts_of_plain {name : List Char} (hdot : '.' ∉ name)
    (hlast : name.getLast? ≠ some '"') : nameParts name = [name] := by
  have hplain : quotedContent? '"' name = none := by
    by_contra hquoted
    obtain ⟨content, hcontent⟩ := Option.ne_none_iff_exists'.mp hquoted
    apply hlast
    rw [eq_quotedWith_of_quotedContent? hcontent, quotedWith, List.getLast?_concat]
  rw [nameParts, splitParts_of_notMem hdot, List.map_singleton, pieceContent, hplain,
    Option.getD_none]

theorem nameDenotes_iff {name : List Char} {parts : List (List Char)} :
    NameDenotes name parts ↔ parts = nameParts name := by
  have hpieces (pieces : List (List Char)) :
      List.Forall₂ PieceDenotes pieces parts ↔ parts = pieces.map pieceContent := by
    have hcontent : PieceDenotes = fun piece part => pieceContent piece = part := by
      funext piece part
      exact propext (pieceDenotes_iff.trans eq_comm)
    rw [hcontent, ← List.forall₂_map_left_iff, List.forall₂_eq_eq_eq, eq_comm]
  simp only [NameDenotes, cutAtDots_iff, exists_eq_left', hpieces, nameParts]

section Reading

variable {rest : List Char}

/-- What may follow an identifier: nothing, or a character that neither belongs to its last part
nor leads to a further one. -/
def EndsIdentifier (rest : List Char) : Prop :=
  ∀ c ∈ rest.head?, c ≠ '"' ∧ c ≠ '.' ∧ isBareRest c = false

/-- What may follow a part. -/
def EndsPart (rest : List Char) : Prop := ∀ c ∈ rest.head?, c ≠ '"' ∧ isBareRest c = false

theorem EndsIdentifier.endsPart (h : EndsIdentifier rest) : EndsPart rest :=
  fun c hc => ⟨(h c hc).1, (h c hc).2.2⟩

theorem endsPart_dot (rest : List Char) : EndsPart ('.' :: rest) := by
  intro c hc
  obtain rfl : '.' = c := by simpa using hc
  decide

theorem readPart_quotedWith (content : List Char) (h : EndsPart rest) :
    readPart (quotedWith '"' content ++ rest) = some (content, rest) := by
  have hnext : rest.head? ≠ some '"' := fun hhead => (h '"' hhead).1 rfl
  rw [readPart, readQuoted_quotedWith '"' content rest hnext]

theorem readPart_bare {word : List Char} (hword : isBare word = true)
    (hfree : isReserved word = false) (h : EndsPart rest) :
    readPart (word ++ rest) = some (word, rest) := by
  have hnone : readQuoted '"' (word ++ rest) = none := by
    cases word with
    | nil => simp [isBare] at hword
    | cons c word =>
      have hc := forall_isBareRest_of_isBare hword c (by simp)
      have hne : c ≠ '"' := by
        rintro rfl
        revert hc
        decide
      simp [readQuoted, hne]
  have hrest : rest.takeWhile isBareRest = [] := by
    cases rest with
    | nil => rfl
    | cons c rest => simp [(h c rfl).2]
  have hrun : (word ++ rest).takeWhile isBareRest = word := by
    rw [List.takeWhile_append_of_pos (forall_isBareRest_of_isBare hword), hrest, List.append_nil]
  simp [readPart, hnone, hrun, hword, hfree]

/-- A spelled piece is read as what the piece stands for. -/
theorem readPart_spellPart (piece : List Char) (h : EndsPart rest) :
    readPart (spellPart piece ++ rest) = some (pieceContent piece, rest) := by
  unfold spellPart pieceContent
  split_ifs with hquoted hbare
  · obtain ⟨content, hcontent⟩ := Option.isSome_iff_exists.mp hquoted
    rw [hcontent, Option.getD_some]
    nth_rewrite 1 [eq_quotedWith_of_quotedContent? hcontent]
    exact readPart_quotedWith content h
  · rw [Option.not_isSome_iff_eq_none.mp hquoted, Option.getD_none]
    simp only [Bool.and_eq_true, Bool.not_eq_true'] at hbare
    exact readPart_bare hbare.1 hbare.2 h
  · rw [Option.not_isSome_iff_eq_none.mp hquoted, Option.getD_none]
    exact readPart_quotedWith piece h

theorem readParts_intercalate {pieces : List (List Char)} {count : Nat} (hne : pieces ≠ [])
    (hcount : pieces.length ≤ count) (h : EndsIdentifier rest) :
    readParts count (['.'].intercalate (pieces.map spellPart) ++ rest) =
      some (pieces.map pieceContent, rest) := by
  induction pieces generalizing count with
  | nil => exact absurd rfl hne
  | cons piece pieces ih =>
    cases count with
    | zero => simp at hcount
    | succ count =>
      cases pieces with
      | nil =>
        have hpart := readPart_spellPart piece h.endsPart
        simp only [List.map_cons, List.map_nil, List.intercalate_singleton, readParts, hpart]
        split
        · contradiction
        · next hdot =>
          obtain ⟨rfl, rfl⟩ := Prod.mk.inj (Option.some.inj hdot)
          exact absurd rfl (h '.' rfl).2.1
        · next hread =>
          obtain ⟨rfl, rfl⟩ := Prod.mk.inj (Option.some.inj hread)
          rfl
      | cons next pieces =>
        have hrest := ih (by simp) (by simpa using hcount)
        rw [List.map_cons, List.map_cons, List.intercalate_cons_cons, ← List.map_cons,
          List.append_assoc, List.append_assoc, List.singleton_append, readParts,
          readPart_spellPart piece (endsPart_dot _)]
        simp only [hrest, Option.map_some]
        rfl

theorem length_le_length_intercalate (texts : List (List Char)) :
    texts.length ≤ (['.'].intercalate texts).length + 1 := by
  induction texts with
  | nil => simp
  | cons text texts ih =>
    cases texts with
    | nil => simp
    | cons next texts =>
      rw [List.intercalate_cons_cons]
      simp only [List.length_cons, List.length_append, List.length_nil] at ih ⊢
      omega

theorem readIdentifier_spellName (name : List Char) (h : EndsIdentifier rest) :
    readIdentifier (spellName name ++ rest) = some (nameParts name, rest) := by
  have hlength := length_le_length_intercalate ((splitParts false name).map spellPart)
  apply readParts_intercalate (splitParts_ne_nil false name) _ h
  rw [List.length_map] at hlength
  rw [List.length_append, spellName]
  omega

/-- The spelling of a name is one identifier, with the parts of the name. -/
theorem identifierParts?_eq_nameParts (name : String) :
    identifierParts? (quoteIdentifier name) = some (nameParts name.toList) := by
  have hread : readIdentifier (spellName name.toList ++ []) = some (nameParts name.toList, []) :=
    readIdentifier_spellName name.toList (by simp [EndsIdentifier])
  rw [List.append_nil] at hread
  simp only [identifierParts?, toList_quoteIdentifier, hread]

end Reading

/-- The spelling of a name is read, from end to end and no further whatever ends it, as the parts
that the name stands for, which are never in doubt; so names that are spelled alike stand for the
same parts. -/
theorem identifierParts?_quoteIdentifier (name : String) :
    ∃ parts, identifierParts? (quoteIdentifier name) = some parts ∧
      (∀ others, NameDenotes name.toList others ↔ others = parts) ∧
      (∀ rest, EndsIdentifier rest →
        readIdentifier ((quoteIdentifier name).toList ++ rest) = some (parts, rest)) ∧
      ∀ other, quoteIdentifier other = quoteIdentifier name → NameDenotes other.toList parts := by
  have hread (name : String) (rest : List Char) (hrest : EndsIdentifier rest) :
      readIdentifier ((quoteIdentifier name).toList ++ rest) =
        some (nameParts name.toList, rest) := by
    rw [quoteIdentifier, String.toList_ofList]
    exact readIdentifier_spellName name.toList hrest
  refine ⟨_, identifierParts?_eq_nameParts name, fun others => nameDenotes_iff, hread name, ?_⟩
  intro other hother
  rw [nameDenotes_iff, ← Option.some.injEq, ← identifierParts?_eq_nameParts name,
    ← identifierParts?_eq_nameParts other, hother]

/-- Quotes that are closed, doubled and left open in one name. -/
theorem identifierParts?_quoteIdentifier_stray :
    let name := "a.\"B.\"\"\".select.c\"d.e"
    let parts := ["a", "B.\"", "select", "c\"d.e"].map String.toList
    EndsIdentifier " (b".toList ∧ NameDenotes name.toList parts ∧
      readIdentifier ((quoteIdentifier name).toList ++ " (b".toList) =
        some (parts, " (b".toList) := by
  intro name parts
  have hends : EndsIdentifier " (b".toList := by
    intro c hc
    obtain rfl : ' ' = c := by simpa using hc
    decide
  obtain ⟨found, hwhole, hdenotes, hread, -⟩ := identifierParts?_quoteIdentifier name
  have hparts : identifierParts? (quoteIdentifier name) = some parts := by decide +kernel
  obtain rfl := Option.some.inj (hparts.symm.trans hwhole)
  exact ⟨hends, (hdenotes parts).mpr rfl, hread _ hends⟩

end SchemaDraft.Sql
