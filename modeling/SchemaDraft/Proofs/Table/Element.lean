import Mathlib.Data.Option.Defs
import SchemaDraft.Proofs.Literal.Boundary
import SchemaDraft.Proofs.Statement.Sealed

/-!
What an element of a table definition tells. The elements are joined by commas, which names, text
values and the parameters of a type contain as well; but each element has an end of its own, and so
has each part of it. So the name, the type, the constraint and the default of a column can be told
from the text of a definition as far as they are spelled there, and so can a LIKE clause.
-/

namespace SchemaDraft

open Sql Postgres

/-- The text that stands behind DEFAULT. -/
def DefaultValue.text? (d : Dialect) : DefaultValue → Option String
  | .literal value => (d.formatLiteral value).toOption
  | .expression sql => some sql

theorem DefaultValue.text?_literal {d : Dialect} {value : Literal} {text : String}
    (h : d.formatLiteral value = .ok text) :
    (DefaultValue.literal value).text? d = some text := by
  rw [DefaultValue.text?, h]
  rfl

/-- Columns that a dialect defines alike: NOT NULL says nothing more of a primary key. -/
structure Column.DefinedAlike (d : Dialect) (column other : Column) : Prop where
  name : d.quoteIdentifier column.name = d.quoteIdentifier other.name
  type : column.type = other.type
  primaryKey : column.primaryKey = other.primaryKey
  nullable : column.primaryKey = false → column.nullable = other.nullable
  /-- Either both have no default, or both have one with the same text. -/
  default : Option.Rel (fun value value' => ∃ text, value.text? d = some text ∧
    value'.text? d = some text) column.defaultValue other.defaultValue

/-- The clauses behind the source of a LIKE clause, one after the other, with none in place of
INCLUDING ALL. -/
def LikeOptions.clauses : LikeOptions → List (Option LikeOption)
  | .plain => []
  | .includingAll => [none]
  | .selected options => options.map some

structure LikeClause.SpelledAlike (d : Dialect) (clause other : LikeClause) : Prop where
  source : d.quoteIdentifier clause.source = d.quoteIdentifier other.source
  options : clause.options.clauses = other.options.clauses

variable {rest rest' : List Char}

/-- What may follow an element of a definition: a comma, the parenthesis at the end, or nothing. -/
def EndsElement (rest : List Char) : Prop := ∀ c ∈ rest.head?, c = ',' ∨ c = ')'

theorem endsElement_nil : EndsElement [] := by simp [EndsElement]

theorem EndsElement.stopsAt {p : Char → Bool} (h : EndsElement rest)
    (hp : p ',' = false ∧ p ')' = false := by decide) : StopsAt p rest := by
  intro c hc
  rcases h c hc with rfl | rfl
  · exact ⟨by decide, hp.1⟩
  · exact ⟨by decide, hp.2⟩

theorem EndsElement.ne_blank (h : EndsElement rest) (after : List Char) : rest ≠ ' ' :: after := by
  rintro rfl
  have hblank := h ' ' rfl
  revert hblank
  decide

namespace ColumnType

/-- The name of a type up to its parameters. -/
def opening : ColumnType → String
  | .string _ => "varchar("
  | .timestamp _ => "timestamp"
  | .timestampTz _ => "timestamp"
  | .decimal _ _ => "decimal("
  | type => type.sql

def openings : List String :=
  ["serial", "bigserial", "smallint", "integer", "bigint", "varchar(", "text", "boolean", "date",
   "timestamp", "decimal(", "uuid", "jsonb", "tsrange", "tsvector"]

/-- The name of a type from its parameters on. -/
def ending : ColumnType → String
  | .string length => length.toNat.repr ++ ")"
  | .timestamp precision => precisionText precision ++ " without time zone"
  | .timestampTz precision => precisionText precision ++ " with time zone"
  | .decimal precision scale => precision.toNat.repr ++ ", " ++ scale.toNat.repr ++ ")"
  | _ => ""

theorem opening_append_ending (type : ColumnType) : type.opening ++ type.ending = type.sql := by
  cases type <;> simp [opening, ending, sql, String.append_assoc]

theorem opening_mem {type : ColumnType} (h : type.verbatimFree = true) :
    type.opening ∈ openings := by
  cases type with
  | custom name => cases h
  | _ => simp [opening, openings, sql]

theorem prefixFree_openings : PrefixFree id openings := by decide +kernel

theorem precisionText_append_inj {precision other : Option UInt8}
    (h : (precisionText precision).toList ++ ' ' :: rest =
      (precisionText other).toList ++ ' ' :: rest') : precision = other ∧ rest = rest' := by
  cases precision with
  | none =>
    cases other with
    | none => exact ⟨rfl, by simpa [precisionText] using h⟩
    | some m => simp [precisionText] at h
  | some n =>
    cases other with
    | none => simp [precisionText] at h
    | some m =>
      have hnumbers : n.toNat.repr.toList ++ ')' :: ' ' :: rest =
          m.toNat.repr.toList ++ ')' :: ' ' :: rest' := by
        simpa [precisionText] using h
      obtain ⟨hsame, hafter⟩ := number_append_inj hnumbers
      exact ⟨congrArg some (UInt8.toNat_inj.mp hsame), (List.cons.inj hafter).2⟩

/-- Types that begin with different words are told apart by these, and the others by their
parameters. -/
theorem sql_append_inj {type other : ColumnType} (htype : type.verbatimFree = true)
    (hother : other.verbatimFree = true)
    (h : type.sql.toList ++ rest = other.sql.toList ++ rest') : type = other ∧ rest = rest' := by
  rw [← opening_append_ending, ← opening_append_ending] at h
  simp only [String.toList_append, List.append_assoc] at h
  obtain ⟨hopening, hending⟩ := append_inj_of_prefixFree prefixFree_openings (opening_mem htype)
    (opening_mem hother) h
  cases type <;> cases other <;> simp [opening, sql, verbatimFree] at hopening htype hother
  case string.string n m =>
    have hnumbers : n.toNat.repr.toList ++ ')' :: rest = m.toNat.repr.toList ++ ')' :: rest' := by
      simpa [ending] using hending
    obtain ⟨hsame, hafter⟩ := number_append_inj hnumbers
    exact ⟨congrArg string (UInt32.toNat_inj.mp hsame), hafter⟩
  case decimal.decimal n k m l =>
    have hnumbers : n.toNat.repr.toList ++ ',' :: ' ' :: (k.toNat.repr.toList ++ ')' :: rest) =
        m.toNat.repr.toList ++ ',' :: ' ' :: (l.toNat.repr.toList ++ ')' :: rest') := by
      simpa [ending] using hending
    obtain ⟨hprecision, hscales⟩ := number_append_inj hnumbers
    obtain ⟨hscale, hafter⟩ := number_append_inj (List.cons.inj hscales).2
    exact ⟨congrArg₂ decimal (UInt8.toNat_inj.mp hprecision) (UInt8.toNat_inj.mp hscale), hafter⟩
  case timestamp.timestamp precision other =>
    obtain ⟨rfl, hafter⟩ := precisionText_append_inj (by simpa [ending] using hending)
    exact ⟨rfl, by simpa using hafter⟩
  case timestampTz.timestampTz precision other =>
    obtain ⟨rfl, hafter⟩ := precisionText_append_inj (by simpa [ending] using hending)
    exact ⟨rfl, by simpa using hafter⟩
  case timestamp.timestampTz precision other =>
    have hafter := (precisionText_append_inj (by simpa [ending] using hending)).2
    simp at hafter
  case timestampTz.timestamp precision other =>
    have hafter := (precisionText_append_inj (by simpa [ending] using hending)).2
    simp at hafter
  all_goals exact ⟨rfl, by simpa [ending] using hending⟩

end ColumnType

namespace LikeOptions

def clauseText : Option LikeOption → String
  | none => " INCLUDING ALL"
  | some option => option.sql

def allClauses : List (Option LikeOption) :=
  none :: LikeFeature.all.flatMap fun feature => [some ⟨true, feature⟩, some ⟨false, feature⟩]

theorem mem_allClauses (clause : Option LikeOption) : clause ∈ allClauses := by
  rcases clause with _ | ⟨including, feature⟩
  · decide
  · cases including <;> cases feature <;> decide

theorem prefixFree_clauseText : PrefixFree clauseText allClauses := by decide +kernel

theorem sql_eq_join_clauses (options : LikeOptions) :
    options.sql = String.join (options.clauses.map clauseText) := by
  cases options with
  | plain => rfl
  | includingAll => rfl
  | selected options =>
    rw [clauses, List.map_map]
    rfl

theorem exists_clauseText (clause : Option LikeOption) :
    ∃ after, (clauseText clause).toList = ' ' :: after := by
  rcases clause with _ | ⟨including, feature⟩
  · exact ⟨_, rfl⟩
  · cases including with
    | false =>
      exact ⟨"EXCLUDING ".toList ++ feature.sql.toList, by simp [clauseText, LikeOption.sql]⟩
    | true =>
      exact ⟨"INCLUDING ".toList ++ feature.sql.toList, by simp [clauseText, LikeOption.sql]⟩

theorem clauses_append_inj {clauses others : List (Option LikeOption)} (hrest : EndsElement rest)
    (hrest' : EndsElement rest')
    (h : (String.join (clauses.map clauseText)).toList ++ rest =
      (String.join (others.map clauseText)).toList ++ rest') :
    clauses = others ∧ rest = rest' := by
  have hnone {rest : List Char} (hrest : EndsElement rest) :
      ∀ clause ∈ allClauses, ¬ (clauseText clause).toList <+: rest := by
    rintro clause - ⟨after, rfl⟩
    obtain ⟨words, hwords⟩ := exists_clauseText clause
    exact hrest.ne_blank (words ++ after) (by simp [hwords])
  exact join_append_inj_of_prefixFree prefixFree_clauseText (fun clause _ => mem_allClauses clause)
    (fun clause _ => mem_allClauses clause) (hnone hrest) (hnone hrest') h

end LikeOptions

theorem LikeClause.append_inj {clause other : LikeClause} (hrest : EndsElement rest)
    (hrest' : EndsElement rest')
    (h : (clause.render dialect).toList ++ rest = (other.render dialect).toList ++ rest') :
    clause.SpelledAlike dialect other ∧ rest = rest' := by
  have hstops (options : LikeOptions) {rest : List Char} (hrest : EndsElement rest) :
      StopsAt isNameChar ((String.join (options.clauses.map LikeOptions.clauseText)).toList ++
        rest) := by
    cases options.clauses with
    | nil => simpa using hrest.stopsAt
    | cons clause clauses =>
      obtain ⟨after, hafter⟩ := LikeOptions.exists_clauseText clause
      simp only [List.map_cons, String.join_cons, String.toList_append, hafter, List.cons_append]
      exact stopsAt_cons.mpr (by decide)
  simp only [LikeClause.render, LikeOptions.sql_eq_join_clauses, String.toList_append,
    List.append_assoc, List.append_cancel_left_eq] at h
  obtain ⟨hsource, hclauses⟩ := spelling_append_inj (hstops clause.options hrest)
    (hstops other.options hrest') h
  obtain ⟨hoptions, hafter⟩ := LikeOptions.clauses_append_inj hrest hrest' hclauses
  exact ⟨⟨hsource, hoptions⟩, hafter⟩

theorem LikeClause.SpelledAlike.render_eq {d : Dialect} {clause other : LikeClause}
    (h : clause.SpelledAlike d other) : clause.render d = other.render d := by
  simp only [LikeClause.render, LikeOptions.sql_eq_join_clauses, h.source, h.options]

namespace Column

variable {column other : Column} {text text' : String}

/-- What may follow the constraint of a column: its default, or what follows the column. -/
inductive EndsConstraint : List Char → Prop where
  | default (after : List Char) : EndsConstraint (' ' :: 'D' :: after)
  | element {rest : List Char} (h : EndsElement rest) : EndsConstraint rest

theorem EndsConstraint.eq_of_blank {c : Char} {after : List Char}
    (h : EndsConstraint (' ' :: c :: after)) : c = 'D' := by
  cases h with
  | default => rfl
  | element h => exact absurd rfl (h.ne_blank _)

/-- The constraint of a column as a list of at most one. -/
def constraints (column : Column) : List String :=
  if column.primaryKey then [" PRIMARY KEY"]
  else if column.nullable then [] else [" NOT NULL"]

theorem constraintText_eq_join (column : Column) :
    column.constraintText = String.join (column.constraints.map id) := by
  unfold constraintText constraints
  cases column.primaryKey <;> cases column.nullable <;> rfl

theorem constraints_eq_iff : column.constraints = other.constraints ↔
    column.primaryKey = other.primaryKey ∧
      (column.primaryKey = false → column.nullable = other.nullable) := by
  unfold constraints
  cases column.primaryKey <;> cases other.primaryKey <;> cases column.nullable <;>
    cases other.nullable <;> decide

theorem constraintText_append_inj (hrest : EndsConstraint rest) (hrest' : EndsConstraint rest')
    (h : column.constraintText.toList ++ rest = other.constraintText.toList ++ rest') :
    column.constraints = other.constraints ∧ rest = rest' := by
  have hall (column : Column) : column.constraints ⊆ [" NOT NULL", " PRIMARY KEY"] := by
    unfold constraints
    cases column.primaryKey <;> cases column.nullable <;> decide
  have hnone {rest : List Char} (hrest : EndsConstraint rest) :
      ∀ word ∈ [" NOT NULL", " PRIMARY KEY"], ¬ word.toList <+: rest := by
    simp only [List.forall_mem_cons]
    refine ⟨?_, ?_, by simp⟩
    · rintro ⟨after, rfl⟩
      exact absurd hrest.eq_of_blank (by decide)
    · rintro ⟨after, rfl⟩
      exact absurd hrest.eq_of_blank (by decide)
  rw [constraintText_eq_join, constraintText_eq_join] at h
  exact join_append_inj_of_prefixFree (by decide) (hall column) (hall other) (hnone hrest)
    (hnone hrest') h

/-- The text of a default, if there is one. -/
inductive DefaultForm (column : Column) : List Char → Prop where
  | absent (h : column.defaultValue = none) : DefaultForm column []
  | present {value : Literal} {text : String} (h : column.defaultValue = some (.literal value))
    (htext : dialect.formatLiteral value = .ok text) :
    DefaultForm column (" DEFAULT ".toList ++ text.toList)

theorem defaultForm_of_renderDefault (hfree : column.verbatimFree = true)
    (h : column.renderDefault dialect = .ok text) : DefaultForm column text.toList := by
  unfold renderDefault at h
  cases hdefault : column.defaultValue with
  | none =>
    rw [hdefault] at h
    obtain rfl := pure_eq_ok.mp h
    exact .absent hdefault
  | some value =>
    cases value with
    | expression sql => simp [verbatimFree, hdefault, DefaultValue.verbatimFree] at hfree
    | literal value =>
      simp only [hdefault, bind_eq_ok, pure_eq_ok, Dialect.literalAt_eq_ok] at h
      obtain ⟨literal, hliteral, rfl⟩ := h
      rw [String.toList_append]
      exact .present hdefault hliteral

theorem DefaultForm.endsConstraint {text : List Char} (h : DefaultForm column text)
    (hrest : EndsElement rest) : EndsConstraint (text ++ rest) := by
  cases h with
  | absent => exact .element hrest
  | present => exact .default _

theorem DefaultForm.append_inj {text text' : List Char} (h : DefaultForm column text)
    (h' : DefaultForm other text') (hrest : EndsElement rest) (hrest' : EndsElement rest')
    (hsame : text ++ rest = text' ++ rest') :
    Option.Rel (fun value value' => ∃ text, value.text? dialect = some text ∧
      value'.text? dialect = some text) column.defaultValue other.defaultValue ∧ rest = rest' := by
  cases h with
  | absent hdefault =>
    cases h' with
    | absent hdefault' =>
      rw [hdefault, hdefault']
      exact ⟨.none, hsame⟩
    | present => exact absurd hsame (hrest.ne_blank _)
  | @present value text hdefault htext =>
    cases h' with
    | absent => exact absurd hsame.symm (hrest'.ne_blank _)
    | present hdefault' htext' =>
      rw [List.append_assoc, List.append_assoc] at hsame
      obtain ⟨rfl, hafter⟩ := literal_append_inj htext htext' hrest.stopsAt hrest'.stopsAt
        (List.append_cancel_left hsame)
      rw [hdefault, hdefault']
      exact ⟨.some ⟨text, DefaultValue.text?_literal htext, DefaultValue.text?_literal htext'⟩,
        hafter⟩

theorem append_inj (hfree : column.verbatimFree = true) (hfree' : other.verbatimFree = true)
    (h : column.render dialect = .ok text) (h' : other.render dialect = .ok text')
    (hrest : EndsElement rest) (hrest' : EndsElement rest')
    (hsame : text.toList ++ rest = text'.toList ++ rest') :
    column.DefinedAlike dialect other ∧ rest = rest' := by
  simp only [render, bind_eq_ok, pure_eq_ok] at h h'
  obtain ⟨default, hdefault, rfl⟩ := h
  obtain ⟨default', hdefault', rfl⟩ := h'
  have hform := defaultForm_of_renderDefault hfree hdefault
  have hform' := defaultForm_of_renderDefault hfree' hdefault'
  simp only [verbatimFree, Bool.and_eq_true] at hfree hfree'
  simp only [String.toList_append, List.append_assoc] at hsame
  obtain ⟨hname, htypes⟩ := quoteIdentifier_append_inj hsame
  obtain ⟨htype, hconstraints⟩ := ColumnType.sql_append_inj hfree.1 hfree'.1 htypes
  obtain ⟨hconstraint, hdefaults⟩ := constraintText_append_inj (hform.endsConstraint hrest)
    (hform'.endsConstraint hrest') hconstraints
  obtain ⟨hprimary, hnullable⟩ := constraints_eq_iff.mp hconstraint
  obtain ⟨hvalue, hafter⟩ := hform.append_inj hform' hrest hrest' hdefaults
  exact ⟨⟨hname, htype, hprimary, hnullable, hvalue⟩, hafter⟩

theorem renderDefault_of_text? {d : Dialect} {value : DefaultValue}
    (h : column.defaultValue = some value) (htext : value.text? d = some text) :
    column.renderDefault d = .ok (" DEFAULT " ++ text) := by
  unfold renderDefault
  rw [h]
  cases value with
  | expression sql =>
    obtain rfl := Option.some.inj htext
    rfl
  | literal value =>
    have hliteral : d.literalAt (.columnDefault column.name) value = .ok text := by
      apply Dialect.literalAt_eq_ok.mpr
      cases hvalue : d.formatLiteral value <;> simp_all [DefaultValue.text?, Except.toOption]
    simp only [hliteral]
    rfl

theorem DefinedAlike.render_eq {d : Dialect} (h : column.DefinedAlike d other) :
    column.render d = other.render d := by
  obtain ⟨hname, htype, hprimary, hnullable, hdefault⟩ := h
  have hconstraint : column.constraintText = other.constraintText := by
    rw [constraintText_eq_join, constraintText_eq_join,
      constraints_eq_iff.mpr ⟨hprimary, hnullable⟩]
  have hdefaults : column.renderDefault d = other.renderDefault d := by
    cases hvalue : column.defaultValue <;> cases hvalue' : other.defaultValue <;>
      rw [hvalue, hvalue'] at hdefault
    case none.none => rw [renderDefault, renderDefault, hvalue, hvalue']
    case some.some value value' =>
      obtain ⟨text, htext, htext'⟩ := Option.rel_some_some.mp hdefault
      rw [renderDefault_of_text? hvalue htext, renderDefault_of_text? hvalue' htext']
    all_goals cases hdefault
  rw [render, render, hname, htype, hconstraint, hdefaults]

end Column

/-- An element of a table definition as it is written. -/
inductive IsElement : List Char → Prop where
  | like (clause : LikeClause) : IsElement (clause.render dialect).toList
  | column {column : Column} {text : String} (hfree : column.verbatimFree = true)
    (h : column.render dialect = .ok text) : IsElement text.toList

/-- A LIKE clause is told from a column by its first letter, which no spelled name begins with. -/
theorem LikeClause.render_append_ne {clause : LikeClause} {column : Column} {text : String}
    (h : column.render dialect = .ok text) (rest rest' : List Char) :
    (clause.render dialect).toList ++ rest ≠ text.toList ++ rest' := by
  simp only [Column.render, bind_eq_ok, pure_eq_ok] at h
  obtain ⟨default, -, rfl⟩ := h
  simp only [LikeClause.render, String.toList_append, List.append_assoc]
  exact fun hsame => absurd hsame.symm quoteIdentifier_append_ne

theorem IsElement.endAlike {s t : List Char} (hs : IsElement s) (ht : IsElement t) :
    EndAlike EndsElement s t := by
  intro rest rest' hrest hrest' h
  cases hs with
  | like clause =>
    cases ht with
    | like other => exact (clause.append_inj hrest hrest' h).2
    | column _ htext => exact absurd h (LikeClause.render_append_ne htext _ _)
  | column hfree htext =>
    cases ht with
    | like other => exact absurd h.symm (LikeClause.render_append_ne htext _ _)
    | column hfree' htext' =>
      exact (Column.append_inj hfree hfree' htext htext' hrest hrest' h).2

end SchemaDraft
