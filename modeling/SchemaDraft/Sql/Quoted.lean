/-!
Text between quotes, where a quote inside is written twice. The same rule serves string constants,
with single quotes, and delimited identifiers, with double ones.
-/

namespace SchemaDraft.Sql

/-- The text with each `mark` in it written twice. -/
def doubled (mark : Char) : List Char → List Char
  | [] => []
  | c :: rest => if c = mark then mark :: mark :: doubled mark rest else c :: doubled mark rest

/-- The text between two marks. -/
def quotedWith (mark : Char) (text : List Char) : List Char :=
  mark :: doubled mark text ++ [mark]

/-- Reads up to the mark that ends a quoted text and over it. A mark that is followed by another
stands for one mark and ends nothing. -/
def readQuotedRest (mark : Char) : List Char → Option (List Char × List Char)
  | [] => none
  | c :: rest =>
    if c = mark then
      match rest with
      | d :: after =>
        if d = mark then (readQuotedRest mark after).map fun (text, r) => (mark :: text, r)
        else some ([], d :: after)
      | [] => some ([], [])
    else (readQuotedRest mark rest).map fun (text, r) => (c :: text, r)

/-- Reads a quoted text at the front, and gives its content and what follows it. -/
def readQuoted (mark : Char) : List Char → Option (List Char × List Char)
  | [] => none
  | c :: rest => if c = mark then readQuotedRest mark rest else none

/-- The content of a text that is one quoted text from end to end. -/
def quotedContent? (mark : Char) (text : List Char) : Option (List Char) :=
  match readQuoted mark text with
  | some (content, []) => some content
  | _ => none

/-- A string constant. -/
def stringConstant (text : String) : String :=
  String.ofList (quotedWith '\x27' text.toList)

@[simp] theorem doubled_nil (mark : Char) : doubled mark [] = [] := rfl

/-- Reading undoes writing, whatever follows, as long as no further mark does. -/
theorem readQuotedRest_doubled (mark : Char) (text rest : List Char)
    (h : rest.head? ≠ some mark) :
    readQuotedRest mark (doubled mark text ++ mark :: rest) = some (text, rest) := by
  induction text with
  | nil =>
    cases rest with
    | nil => simp [readQuotedRest]
    | cons d r =>
      have hd : d ≠ mark := fun e => h (by simp [e])
      simp [readQuotedRest, hd]
  | cons c s ih =>
    by_cases hc : c = mark
    · simp [doubled, hc, readQuotedRest, ih]
    · simp only [doubled, hc, if_false, List.cons_append]
      rw [readQuotedRest.eq_def]
      simp [hc, ih]

theorem readQuoted_quotedWith (mark : Char) (text rest : List Char)
    (h : rest.head? ≠ some mark) :
    readQuoted mark (quotedWith mark text ++ rest) = some (text, rest) := by
  simp [quotedWith, readQuoted, readQuotedRest_doubled mark text rest h]

end SchemaDraft.Sql
