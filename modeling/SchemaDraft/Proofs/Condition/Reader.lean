import SchemaDraft.Proofs.Condition.NormalForm

/-!
A reader of the SQL text of conditions. It goes from left to right, takes parentheses as they come,
and tells columns, literals and key words apart by how they begin. Reading a PostgreSQL condition
without fragments gives its normal form, so the text says nothing else, whatever the names and the
text values in it are.
-/

namespace SchemaDraft

namespace NormalForm

/-- What follows a word at the front of a text. -/
def after? : List Char → List Char → Option (List Char)
  | [], text => some text
  | c :: word, d :: text => if c = d then after? word text else none
  | _ :: _, [] => none

/-- The characters that columns and literals have outside quotes. -/
def isTokenChar (c : Char) : Bool := Sql.isNameChar c || Postgres.isLiteralChar c

/-- Reads a column or a literal. -/
def readToken (text : List Char) : String × List Char :=
  let (token, rest) := Sql.spanOutside isTokenChar none text
  (String.ofList token, rest)

/-- Whether a token is a literal and no column. -/
def isLiteralToken (token : String) : Bool :=
  match token.toList with
  | [] => false
  | c :: _ => c = '\x27' || c = '-' || c.isDigit || Postgres.keywords.contains token

/-- Reads what a column is compared with: another column or a literal. -/
def readComparison (column : String) (operator : Comparison) (text : List Char) :
    NormalForm × List Char :=
  let (token, rest) := readToken text
  (if isLiteralToken token then .comparison column operator token
    else .columnComparison column operator token, rest)

/-- Reads the elements of an array up to its end. -/
def readElements (text : List Char) : List String × List Char :=
  let (elements, rest) := Sql.spanOutside (· ≠ ']') none text
  ((Sql.cutAt ',' ' ' elements).map String.ofList, rest)

/-- Reads an operator between two blanks, and what the column is compared with. -/
def readOperator (column : String) (text : List Char) : Option (NormalForm × List Char) := do
  let text ← after? [' '] text
  let operator ← Comparison.ofSpelling? (String.ofList (text.takeWhile (· != ' ')))
  let text ← after? [' '] (text.dropWhile (· != ' '))
  return readComparison column operator text

/-- Reads a test that a column stands at the front of. -/
def readTest (column : String) (text : List Char) : Option (NormalForm × List Char) :=
  (after? " IS NULL".toList text).map (.nullCheck column true, ·) <|>
  (after? " IS NOT NULL".toList text).map (.nullCheck column false, ·) <|>
  (after? " = ANY (ARRAY[".toList text >>= readMembership false) <|>
  (after? " <> ALL (ARRAY[".toList text >>= readMembership true) <|>
  readOperator column text
where
  readMembership (negated : Bool) (text : List Char) : Option (NormalForm × List Char) := do
    let (elements, text) := readElements text
    let text ← after? "])".toList text
    return (.membership column elements negated, text)

/-- Reads a condition that has no operands: a constant, which begins with a digit, or a test of a
column. -/
def readLeaf : List Char → Option (NormalForm × List Char)
  | [] => none
  | c :: rest =>
    if c.isDigit then (after? " = 1".toList rest).map (.constant (c = '1'), ·)
    else
      let (column, rest) := readToken (c :: rest)
      readTest column rest

/-- Reads the junction between two operands. -/
def readJunction (left : NormalForm) (text : List Char) :
    Option ((NormalForm → NormalForm) × List Char) :=
  (after? ") AND (".toList text).map (.conjunction left, ·) <|>
  (after? ") OR (".toList text).map (.disjunction left, ·)

/-- Reads a condition at the front of a text, in which parentheses are nested less deeply than
`depth`. -/
def readFront : Nat → List Char → Option (NormalForm × List Char)
  | 0, _ => none
  | _ + 1, [] => none
  | depth + 1, c :: rest =>
    if c = '(' then do
      let (left, rest) ← readFront depth rest
      let (join, rest) ← readJunction left rest
      let (right, rest) ← readFront depth rest
      let rest ← after? [')'] rest
      return (join right, rest)
    else readLeaf (c :: rest)

/-- Reads a whole text as a condition. A text has no room for as many nested parentheses as it has
characters. -/
def read? (text : String) : Option NormalForm :=
  match readFront (text.length + 1) text.toList with
  | some (form, []) => some form
  | _ => none

/-- What may follow a token: nothing, or a character that can neither go on with it nor open
quotes. -/
def Stops (rest : List Char) : Prop :=
  ∀ c ∈ rest.head?, Sql.isQuoteMark c = false ∧ isTokenChar c = false

theorem stops_cons {c : Char} (rest : List Char)
    (h : Sql.isQuoteMark c = false ∧ isTokenChar c = false) : Stops (c :: rest) := by
  intro d hd
  obtain rfl : c = d := by simpa using hd
  exact h

theorem readToken_append {token : String} {rest : List Char}
    (h : Sql.Outside isTokenChar none token.toList) (hrest : Stops rest) :
    readToken (token.toList ++ rest) = (token, rest) := by
  rw [readToken, Sql.spanOutside_append h hrest]
  simp

theorem IsColumn.outside {column : String} (h : IsColumn column) :
    Sql.Outside isTokenChar none column.toList := by
  obtain ⟨name, rfl⟩ := h
  rw [Sql.toList_quoteIdentifier]
  exact (Sql.outside_spellName name.toList).mono fun c hc => by simp [isTokenChar, hc]

theorem IsLiteral.outside {literal : String} (h : IsLiteral literal) :
    Sql.Outside isTokenChar none literal.toList :=
  Postgres.LiteralText.outside h |>.mono fun c hc => by simp [isTokenChar, hc]

theorem IsColumn.head {column : String} (h : IsColumn column) :
    ∃ c rest, column.toList = c :: rest ∧ (Sql.isBareStart c = true ∨ c = '"') := by
  obtain ⟨name, rfl⟩ := h
  rw [Sql.toList_quoteIdentifier]
  exact Sql.spellName_head name.toList

theorem isDigit_eq_false_of_isBareStart {c : Char} (h : Sql.isBareStart c = true) :
    c.isDigit = false := by
  simp only [Sql.isBareStart, Bool.or_eq_true, Bool.and_eq_true, decide_eq_true_eq] at h
  rcases h with ⟨hlow, -⟩ | rfl
  · have hle : 'a'.val ≤ c.val := hlow
    have hgt : ¬ c.val ≤ '9'.val := by
      rw [UInt32.le_iff_toNat_le] at hle ⊢
      have ha : 'a'.val.toNat = 97 := rfl
      have hnine : '9'.val.toNat = 57 := rfl
      omega
    simp only [Char.isDigit, Bool.and_eq_false_iff, decide_eq_false_iff_not]
    exact .inr hgt
  · rfl

/-- A column begins like no literal, no operand in parentheses and no array. -/
theorem columnStart_ne {c : Char} (h : Sql.isBareStart c = true ∨ c = '"') :
    c.isDigit = false ∧ c ≠ '\x27' ∧ c ≠ '-' ∧ c ≠ '(' ∧ c ≠ 'A' := by
  rcases h with h | rfl
  · refine ⟨isDigit_eq_false_of_isBareStart h, ?_, ?_, ?_, ?_⟩ <;>
      (rintro rfl; revert h; decide)
  · decide

theorem IsColumn.not_isLiteralToken {column : String} (h : IsColumn column) :
    isLiteralToken column = false := by
  obtain ⟨c, rest, hcolumn, hc⟩ := h.head
  obtain ⟨hdigit, hquote, hhyphen, -, -⟩ := columnStart_ne hc
  have hkeyword : Postgres.keywords.contains column = false := by
    by_contra hmem
    simp only [Bool.not_eq_false, List.contains_iff_mem] at hmem
    have hreserved : ∀ word ∈ Postgres.keywords, Sql.isReserved word.toList = true := by decide
    obtain ⟨name, rfl⟩ := h
    have hname := hreserved _ hmem
    rw [Sql.toList_quoteIdentifier, Sql.not_isReserved_spellName] at hname
    cases hname
  simp only [isLiteralToken, hcolumn, hkeyword]
  simp [hdigit, hquote, hhyphen]

theorem IsLiteral.isLiteralToken {literal : String} (h : IsLiteral literal) :
    isLiteralToken literal = true := by
  obtain ⟨text, htext⟩ : ∃ text, literal.toList = text := ⟨_, rfl⟩
  rw [IsLiteral, htext] at h
  simp only [NormalForm.isLiteralToken, htext]
  cases h with
  | @keyword word hword =>
    obtain rfl := String.toList_inj.mp htext
    have hne : ∀ word ∈ Postgres.keywords, word.toList ≠ [] := by decide
    cases hletters : literal.toList with
    | nil => exact absurd hletters (hne literal hword)
    | cons c rest => simp [hword]
  | number hnumber =>
    obtain ⟨digit, rest, rfl, hdigit, -⟩ := hnumber
    simp [hdigit]
  | negative => simp
  | quoted content => simp [Sql.quotedWith]

theorem IsLiteral.head {literal : String} (h : IsLiteral literal) :
    ∃ c rest, literal.toList = c :: rest ∧ c ≠ 'A' := by
  obtain ⟨text, htext⟩ : ∃ text, literal.toList = text := ⟨_, rfl⟩
  rw [IsLiteral, htext] at h
  rw [htext]
  cases h with
  | keyword hword =>
    simp only [Postgres.keywords, List.mem_cons, List.not_mem_nil, or_false] at hword
    rcases hword with rfl | rfl | rfl <;> exact ⟨_, _, rfl, by decide⟩
  | number hnumber =>
    obtain ⟨digit, rest, rfl, hdigit, -⟩ := hnumber
    refine ⟨digit, rest, rfl, ?_⟩
    rintro rfl
    cases hdigit
  | negative => exact ⟨'-', _, rfl, by decide⟩
  | quoted content => exact ⟨'\x27', _, rfl, by decide⟩

theorem readComparison_literal {column literal : String} {operator : Comparison}
    {rest : List Char} (h : IsLiteral literal) (hrest : Stops rest) :
    readComparison column operator (literal.toList ++ rest) =
      (.comparison column operator literal, rest) := by
  simp [readComparison, readToken_append h.outside hrest, h.isLiteralToken]

theorem readComparison_column {left right : String} {operator : Comparison}
    {rest : List Char} (h : IsColumn right) (hrest : Stops rest) :
    readComparison left operator (right.toList ++ rest) =
      (.columnComparison left operator right, rest) := by
  simp [readComparison, readToken_append h.outside hrest, h.not_isLiteralToken]

/-- An operator is read, and no other test is taken for it, unless an array follows. -/
theorem readTest_operator {column : String} {operator : Comparison} {text : List Char}
    (h : ∃ c rest, text = c :: rest ∧ c ≠ 'A') :
    readTest column (' ' :: (operator.sql.toList ++ ' ' :: text)) =
      some (readComparison column operator text) := by
  obtain ⟨c, rest, rfl, hc⟩ := h
  have hread : readOperator column (' ' :: (operator.sql.toList ++ ' ' :: c :: rest)) =
      some (readComparison column operator (c :: rest)) := by
    have hword : (operator.sql.toList ++ ' ' :: c :: rest).takeWhile (· != ' ') =
        operator.sql.toList := by
      cases operator <;> simp [Comparison.sql]
    have hafter : (operator.sql.toList ++ ' ' :: c :: rest).dropWhile (· != ' ') =
        ' ' :: c :: rest := by
      cases operator <;> simp [Comparison.sql]
    simp [readOperator, after?, hword, hafter, Comparison.ofSpelling?_sql]
  cases operator <;> simp [readTest, after?, Comparison.sql, Ne.symm hc] at hread ⊢ <;>
    exact hread

/-- The elements of an array come out as they were put in. -/
theorem readElements_append {literals : List String} (rest : List Char) (hne : literals ≠ [])
    (h : ∀ literal ∈ literals, IsLiteral literal) :
    readElements ((", ".intercalate literals).toList ++ ']' :: rest) = (literals, ']' :: rest) := by
  have houtside (separator : Char) (hseparator : Postgres.isLiteralChar separator = false) :
      ∀ text ∈ literals.map String.toList, Sql.Outside (· ≠ separator) none text := by
    intro text htext
    obtain ⟨literal, hliteral, rfl⟩ := List.mem_map.mp htext
    refine (Postgres.LiteralText.outside (h literal hliteral)).mono fun c hc => ?_
    simp only [decide_eq_true_eq]
    rintro rfl
    rw [hseparator] at hc
    cases hc
  have hjoined : Sql.Outside (· ≠ ']') none ([',', ' '].intercalate (literals.map String.toList)) :=
    Sql.outside_intercalate ⟨by decide, by decide, rfl⟩ (houtside ']' (by decide))
  have hcut : Sql.cutAt ',' ' ' ([',', ' '].intercalate (literals.map String.toList)) =
      literals.map String.toList :=
    Sql.cutAt_intercalate rfl rfl (by decide) (by simpa using hne) (houtside ',' (by decide))
  have htext : (", ".intercalate literals).toList =
      [',', ' '].intercalate (literals.map String.toList) := String.toList_intercalate
  rw [readElements, htext, Sql.spanOutside_append hjoined (by simp [Sql.isQuoteMark])]
  simp [hcut]

theorem readTest_membership {column : String} {literals : List String} {negated : Bool}
    {text rest : List Char} (h : readElements text = (literals, ']' :: ')' :: rest)) :
    readTest column
      (' ' :: ((if negated then "<> ALL (ARRAY[" else "= ANY (ARRAY[").toList ++ text)) =
      some (.membership column literals negated, rest) := by
  cases negated <;> simp [readTest, readTest.readMembership, after?, h]

/-- How deeply parentheses are nested in the text of a form. -/
def depth : NormalForm → Nat
  | .conjunction left right => max left.depth right.depth + 1
  | .disjunction left right => max left.depth right.depth + 1
  | _ => 0

theorem depth_le_length (form : NormalForm) : form.depth ≤ form.text.length := by
  induction form with
  | conjunction left right ihl ihr =>
    simp only [depth, text, String.length_append]
    have hopen : "(".length = 1 := rfl
    omega
  | disjunction left right ihl ihr =>
    simp only [depth, text, String.length_append]
    have hopen : "(".length = 1 := rfl
    omega
  | _ => exact Nat.zero_le _

/-- What begins with a column is read as a test of that column. -/
theorem readFront_column {column : String} (h : IsColumn column) (depth : Nat)
    (text : List Char) :
    readFront (depth + 1) (column.toList ++ ' ' :: text) = readTest column (' ' :: text) := by
  have htoken := readToken_append h.outside (stops_cons text (c := ' ') (by decide))
  obtain ⟨c, rest, hcolumn, hc⟩ := h.head
  obtain ⟨hdigit, -, -, hparenthesis, -⟩ := columnStart_ne hc
  rw [hcolumn, List.cons_append] at htoken ⊢
  rw [readFront, if_neg hparenthesis, readLeaf, if_neg (by simp [hdigit]), htoken]

/-- Operands in parentheses are read one after the other, with the junction between them. -/
theorem readFront_operands {left right : NormalForm} {depth : Nat} {junction rest : List Char}
    {join : NormalForm → NormalForm}
    (hleft :
      readFront depth (left.text.toList ++ (junction ++ (right.text.toList ++ ')' :: rest))) =
        some (left, junction ++ (right.text.toList ++ ')' :: rest)))
    (hjunction : readJunction left (junction ++ (right.text.toList ++ ')' :: rest)) =
      some (join, right.text.toList ++ ')' :: rest))
    (hright : readFront depth (right.text.toList ++ ')' :: rest) = some (right, ')' :: rest)) :
    readFront (depth + 1)
      ('(' :: (left.text.toList ++ (junction ++ (right.text.toList ++ ')' :: rest)))) =
      some (join right, rest) := by
  rw [readFront, if_pos rfl]
  simp [hleft, hjunction, hright, after?]

/-- Reading undoes writing, whatever stands after the text, as long as it cannot go on with the
last token. -/
theorem readFront_text {form : NormalForm} {limit : Nat} {rest : List Char}
    (h : form.IsPostgres) (hlimit : form.depth ≤ limit) (hrest : Stops rest) :
    readFront (limit + 1) (form.text.toList ++ rest) = some (form, rest) := by
  induction form generalizing limit rest with
  | constant value =>
    cases value <;> simp [text, Condition.emptyMembershipText, readFront, readLeaf, after?]
  | comparison column operator literal =>
    have htext : (NormalForm.comparison column operator literal).text.toList ++ rest =
        column.toList ++ ' ' :: (operator.sql.toList ++ ' ' :: (literal.toList ++ rest)) := by
      simp [text]
    obtain ⟨c, others, hliteral, hc⟩ := h.2.head
    rw [htext, readFront_column h.1, readTest_operator ⟨c, _, by rw [hliteral]; rfl, hc⟩,
      readComparison_literal h.2 hrest]
  | columnComparison left operator right =>
    have htext : (NormalForm.columnComparison left operator right).text.toList ++ rest =
        left.toList ++ ' ' :: (operator.sql.toList ++ ' ' :: (right.toList ++ rest)) := by
      simp [text]
    obtain ⟨c, others, hright, hc⟩ := h.2.head
    have harray := (columnStart_ne hc).2.2.2.2
    rw [htext, readFront_column h.1, readTest_operator ⟨c, _, by rw [hright]; rfl, harray⟩,
      readComparison_column h.2 hrest]
  | membership column literals negated =>
    obtain ⟨hcolumn, hne, hliterals⟩ := h
    have hread := readElements_append (')' :: rest) hne hliterals
    have htext : (NormalForm.membership column literals negated).text.toList ++ rest =
        column.toList ++ ' ' :: ((if negated then "<> ALL (ARRAY[" else "= ANY (ARRAY[").toList ++
          ((", ".intercalate literals).toList ++ ']' :: ')' :: rest)) := by
      cases negated <;> simp [text, Condition.membershipText, arrayText]
    rw [htext, readFront_column hcolumn, readTest_membership hread]
  | nullCheck column isNull =>
    have htext : (NormalForm.nullCheck column isNull).text.toList ++ rest =
        column.toList ++ ' ' :: ((if isNull then "IS NULL" else "IS NOT NULL").toList ++ rest) := by
      cases isNull <;> simp [text]
    rw [htext, readFront_column h]
    cases isNull <;> simp [readTest, after?]
  | conjunction left right ihl ihr =>
    have htext : (NormalForm.conjunction left right).text.toList ++ rest =
        '(' :: (left.text.toList ++
          (") AND (".toList ++ (right.text.toList ++ ')' :: rest))) := by
      simp [text]
    simp only [depth] at hlimit
    obtain ⟨lower, rfl⟩ : ∃ lower, limit = lower + 1 := ⟨limit - 1, by omega⟩
    rw [htext]
    exact readFront_operands (ihl h.1 (by omega) (stops_cons _ (by decide)))
      (by simp [readJunction, after?]) (ihr h.2 (by omega) (stops_cons _ (by decide)))
  | disjunction left right ihl ihr =>
    have htext : (NormalForm.disjunction left right).text.toList ++ rest =
        '(' :: (left.text.toList ++
          (") OR (".toList ++ (right.text.toList ++ ')' :: rest))) := by
      simp [text]
    simp only [depth] at hlimit
    obtain ⟨lower, rfl⟩ : ∃ lower, limit = lower + 1 := ⟨limit - 1, by omega⟩
    rw [htext]
    exact readFront_operands (ihl h.1 (by omega) (stops_cons _ (by decide)))
      (by simp [readJunction, after?]) (ihr h.2 (by omega) (stops_cons _ (by decide)))

theorem read?_text {form : NormalForm} (h : form.IsPostgres) : read? form.text = some form := by
  have hread := readFront_text h form.depth_le_length (show Stops [] by simp [Stops])
  rw [List.append_nil] at hread
  simp [read?, hread]

end NormalForm

namespace Condition

/-- The text of a condition without fragments is read in one way only, as its normal form, and two
such conditions have the same text exactly if they have the same normal form. -/
theorem read?_render {e : Condition} {text : String} (hfree : e.fragmentFree = true)
    (h : e.render Postgres.dialect = .ok text) :
    ∃ form, e.normalForm Postgres.dialect = some form ∧ NormalForm.read? text = some form ∧
      ∀ (e' : Condition) (text' : String), e'.fragmentFree = true →
        e'.render Postgres.dialect = .ok text' →
          (text' = text ↔ e'.normalForm Postgres.dialect = some form) := by
  obtain ⟨form, hform, rfl⟩ := normalForm_of_render hfree h
  have hread := NormalForm.read?_text (isPostgres_of_normalForm hform)
  refine ⟨form, hform, hread, ?_⟩
  intro e' text' hfree' h'
  obtain ⟨form', hform', rfl⟩ := normalForm_of_render hfree' h'
  have hread' := NormalForm.read?_text (isPostgres_of_normalForm hform')
  constructor
  · intro hsame
    rw [hsame, hread] at hread'
    rw [hform', hread']
  · intro hsame
    rw [hform'] at hsame
    obtain rfl := Option.some.inj hsame
    rfl

/-- A column that seems to end its quotes, a value that seems to be a junction and a column that is
a key word are read as what they are. -/
theorem read?_render_misleading :
    let e : Condition := .conjunction
      (.between "a\") AND (b" (.text "it's) OR (") (.integer (-5)) true)
      (.membership "true.x" [.null, .text "', ]"] false)
    let text := "((\"a\"\") AND (b\" < 'it''s) OR (') OR (\"a\"\") AND (b\" > -5)) AND " ++
      "(\"true\".x = ANY (ARRAY[NULL, ''', ]']))"
    e.fragmentFree = true ∧ e.render Postgres.dialect = .ok text ∧
      NormalForm.read? text = some (.conjunction
        (.disjunction (.comparison "\"a\"\") AND (b\"" .lt "'it''s) OR ('")
          (.comparison "\"a\"\") AND (b\"" .gt "-5"))
        (.membership "\"true\".x" ["NULL", "''', ]'"] false)) := by
  intro e text
  have hrender : e.render Postgres.dialect = .ok text := by decide +kernel
  obtain ⟨form, hform, hread, -⟩ := read?_render (e := e) rfl hrender
  refine ⟨rfl, hrender, ?_⟩
  rw [hread, ← hform]
  decide +kernel

end Condition

end SchemaDraft
