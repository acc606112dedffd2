import SchemaDraft.Proofs.Calendar.Text
import SchemaDraft.Proofs.Condition.Acceptance
import SchemaDraft.Proofs.Condition.Json
import SchemaDraft.Proofs.Number.Digits

/-!
Literals read back from their text in PostgreSQL, by a reader that is told which kind of value to
expect. Numbers that are not integers are left aside. A leap second in the midst of a minute has the
text of another moment, and so is read as that.
-/

namespace SchemaDraft.Postgres

open Sql

/-- The kinds of literals that are read back. -/
inductive ReadKind where
  | boolean
  | integer
  | text
  | date
  | timestamp
  deriving DecidableEq

namespace ReadKind

def of? : Literal → Option ReadKind
  | .boolean _ => some .boolean
  | .integer _ => some .integer
  | .text _ => some .text
  | .date _ => some .date
  | .timestamp _ => some .timestamp
  | _ => none

/-- What may follow a literal of the kind and is not taken for a part of it: no letter after a word,
no digit after a number, and no quote after quotes. -/
def MayPrecede : ReadKind → List Char → Prop
  | .boolean, rest => ∀ c ∈ rest.head?, c.isAlpha = false
  | .integer, rest => ∀ c ∈ rest.head?, c.isDigit = false
  | _, rest => rest.head? ≠ some '\x27'

end ReadKind

/-- Reads a word as a truth value. -/
def readBoolean (text : List Char) : Option (Bool × List Char) :=
  let (word, rest) := text.span Char.isAlpha
  if word = "true".toList then some (true, rest)
  else if word = "false".toList then some (false, rest)
  else none

def readNumber (text : List Char) : Option (Nat × List Char) :=
  match Decimal.digitRun text with
  | ([], _) => none
  | (digits, rest) => some (Decimal.digitsValue digits, rest)

def readSigned : List Char → Option (Int × List Char)
  | '-' :: rest => (readNumber rest).map fun (n, r) => (-(n : Int), r)
  | rest => (readNumber rest).map fun (n, r) => ((n : Int), r)

/-- Reads an integer that fits into 64 bits. -/
def readInteger (text : List Char) : Option (Int64 × List Char) := do
  let (n, rest) ← readSigned text
  let value ← Literal.integer? n
  return (value, rest)

/-- Reads a whole text as a day and a time of day with one blank between them. -/
def moment? (text : List Char) : Option Timestamp := do
  let (date, rest) ← Date.readFront text
  match rest with
  | ' ' :: rest =>
    let ((hour, minute, second, nanosecond), rest) ← Timestamp.readTime rest
    if rest.isEmpty then Timestamp.of? date hour minute second nanosecond else none
  | _ => none

/-- Reads a literal of the kind at the front of a text, and gives its value and what follows it. -/
def readAs (kind : ReadKind) (text : List Char) : Option (Literal × List Char) :=
  match kind with
  | .boolean => (readBoolean text).map fun (b, rest) => (.boolean b, rest)
  | .integer => (readInteger text).map fun (n, rest) => (.integer n, rest)
  | .text => (readQuoted '\x27' text).map fun (content, rest) => (.text (.ofList content), rest)
  | .date => do
    let (content, rest) ← readQuoted '\x27' text
    let date ← Date.ofText? (.ofList content)
    return (.date date, rest)
  | .timestamp => do
    let (content, rest) ← readQuoted '\x27' text
    let moment ← moment? content
    return (.timestamp moment, rest)

variable {rest : List Char}

theorem readBoolean_append (b : Bool) (hrest : ∀ c ∈ rest.head?, c.isAlpha = false) :
    readBoolean ((if b then "true" else "false").toList ++ rest) = some (b, rest) := by
  have hword : ∀ c ∈ (if b then "true" else "false").toList, c.isAlpha = true := by
    cases b <;> exact List.all_eq_true.mp rfl
  rw [readBoolean, Decimal.span_append hword hrest]
  cases b <;> rfl

theorem readNumber_append (n : Nat) (hrest : ∀ c ∈ rest.head?, c.isDigit = false) :
    readNumber (Nat.toDigits 10 n ++ rest) = some (n, rest) := by
  have hnumeral := isNumeral_toDigits n
  have hvalue := Decimal.digitsValue_toDigits n
  rw [readNumber, Decimal.digitRun_append hnumeral.isDigit hrest]
  obtain ⟨digit, others, hcons⟩ := List.exists_cons_of_ne_nil hnumeral.ne_nil
  rw [hcons] at hvalue ⊢
  simp only [hvalue]

/-- A digit is no hyphen, so that a number without a sign is not taken for a negative one. -/
theorem readSigned_repr (n : Int) (hrest : ∀ c ∈ rest.head?, c.isDigit = false) :
    readSigned (n.repr.toList ++ rest) = some (n, rest) := by
  cases n with
  | ofNat m =>
    change readSigned (m.repr.toList ++ rest) = some ((m : Int), rest)
    have hread := readNumber_append m hrest
    obtain ⟨digit, others, hcons, hdigit, -⟩ := isNumber_toDigits m
    rw [Nat.toList_repr, hcons, List.cons_append]
    rw [hcons, List.cons_append] at hread
    have hne : digit ≠ '-' := by
      rintro rfl
      exact absurd hdigit (by decide)
    unfold readSigned
    split
    · simp_all
    · rw [hread]
      rfl
  | negSucc m =>
    change readSigned (("-" ++ m.succ.repr).toList ++ rest) = some (Int.negSucc m, rest)
    have hread := readNumber_append m.succ hrest
    rw [String.toList_append, Nat.toList_repr, List.append_assoc]
    change (readNumber (Nat.toDigits 10 m.succ ++ rest)).map _ = _
    rw [hread]
    rfl

theorem readInteger_repr (n : Int64) (hrest : ∀ c ∈ rest.head?, c.isDigit = false) :
    readInteger (n.toInt.repr.toList ++ rest) = some (n, rest) := by
  rw [readInteger, readSigned_repr n.toInt hrest]
  simp only [Option.bind_eq_bind, Option.bind_some, Literal.integer?_toInt]
  rfl

theorem moment?_charsWith (t : Timestamp) : moment? (t.charsWith ' ') = some t.asWritten := by
  have htime := Timestamp.readTime_timeChars t.hasOwnText_asWritten [] (by simp)
  rw [List.append_nil] at htime
  rw [moment?, ← Timestamp.charsWith_asWritten, Timestamp.charsWith_eq, Date.readFront_chars]
  simp only [Option.bind_eq_bind, Option.bind_some, htime, List.isEmpty_nil, if_true,
    Timestamp.of?_eq_some]

/-- Each kind of literal is read as it is written, whatever follows it that is not taken for a part
of it. -/
theorem readAs_append {kind : ReadKind} {value : Literal} {text : String}
    (hkind : ReadKind.of? value = some kind) (htext : dialect.formatLiteral value = .ok text)
    (hrest : kind.MayPrecede rest) :
    readAs kind (text.toList ++ rest) = some (value.asWritten, rest) := by
  cases value with
  | null => cases hkind
  | float => cases hkind
  | boolean b =>
    obtain rfl := Option.some.inj hkind
    obtain rfl : (if b then "true" else "false") = text := by
      cases b <;> exact Except.ok.inj htext
    rw [readAs, readBoolean_append b hrest]
    rfl
  | integer n =>
    obtain rfl := Option.some.inj hkind
    obtain rfl := Except.ok.inj htext
    rw [readAs, readInteger_repr n hrest]
    rfl
  | text s =>
    obtain rfl := Option.some.inj hkind
    simp only [dialect, formatLiteral] at htext
    split_ifs at htext
    obtain rfl := Except.ok.inj htext
    rw [readAs, stringConstant, String.toList_ofList, readQuoted_quotedWith _ _ _ hrest]
    simp [Literal.asWritten]
  | date d =>
    obtain rfl := Option.some.inj hkind
    obtain rfl := Except.ok.inj htext
    rw [readAs, stringConstant, String.toList_ofList, readQuoted_quotedWith _ _ _ hrest]
    simp [Date.ofText?_text, Literal.asWritten]
  | timestamp t =>
    obtain rfl := Option.some.inj hkind
    obtain rfl := Except.ok.inj htext
    rw [readAs, stringConstant, String.toList_ofList, readQuoted_quotedWith _ _ _ hrest]
    simp [Timestamp.textWith, moment?_charsWith, Literal.asWritten]

theorem formatLiteral_asWritten (value : Literal) :
    dialect.formatLiteral value.asWritten = dialect.formatLiteral value := by
  cases value with
  | timestamp t =>
    have htext := t.charsWith_asWritten ' '
    simp only [dialect, formatLiteral, Literal.asWritten, Timestamp.textWith, htext]
  | _ => rfl

/-- A literal of one of these kinds has text, unless it is a text with a NUL in it, and its value is
read from the text, alone or in front of something else. The value comes back as it was, unless it is
a leap second in the midst of a minute; what is read then is the moment that has the same text. -/
theorem readAs_formatLiteral {kind : ReadKind} {value : Literal}
    (hkind : ReadKind.of? value = some kind) :
    ((∃ text, dialect.formatLiteral value = .ok text) ↔
        ∀ s, value = .text s → '\x00' ∉ s.toList) ∧
      (∀ text, dialect.formatLiteral value = .ok text →
        readAs kind text.toList = some (value.asWritten, []) ∧
          ∀ rest, kind.MayPrecede rest →
            readAs kind (text.toList ++ rest) = some (value.asWritten, rest)) ∧
      (value.asWritten = value ↔ value.hasOwnText = true) ∧
      dialect.formatLiteral value.asWritten = dialect.formatLiteral value := by
  refine ⟨?_, ?_, Literal.asWritten_eq_self_iff, formatLiteral_asWritten value⟩
  · rw [Literal.exists_formatLiteral]
    cases value <;> simp_all [Literal.Renderable, ReadKind.of?]
  · intro text htext
    have hnothing : kind.MayPrecede [] := by cases kind <;> simp [ReadKind.MayPrecede]
    have hwhole := readAs_append hkind htext hnothing
    rw [List.append_nil] at hwhole
    exact ⟨hwhole, fun rest hrest => readAs_append hkind htext hrest⟩

/-- A leap second at the end of a year before the first, in front of a cast. -/
theorem readAs_formatLiteral_leapSecond :
    let value : Literal :=
      .timestamp ⟨⟨-1, 12, 31, by decide⟩, 23, 59, 59, 1500000000, by decide⟩
    let text := "'-0001-12-31 23:59:60.500'"
    ReadKind.of? value = some .timestamp ∧ dialect.formatLiteral value = .ok text ∧
      readAs .timestamp text.toList = some (value, []) ∧
      readAs .timestamp (text.toList ++ "::timestamp, 'x'".toList) =
        some (value, "::timestamp, 'x'".toList) := by
  intro value text
  have htext : dialect.formatLiteral value = .ok text := by decide +kernel
  have hkind : ReadKind.of? value = some .timestamp := rfl
  obtain ⟨-, hread, hsame, -⟩ := readAs_formatLiteral hkind
  obtain ⟨hwhole, hfront⟩ := hread text htext
  rw [hsame.mpr rfl] at hwhole hfront
  exact ⟨hkind, htext, hwhole, hfront _ (by simp [ReadKind.MayPrecede])⟩

/-- A leap second in the midst of a minute has the text of the second after it, so that no reader
whatever gives both back. -/
theorem not_exists_reader :
    let text := "'2015-06-30 23:56:05.333333333'"
    dialect.formatLiteral (.timestamp .midMinute) = .ok text ∧
      dialect.formatLiteral (.timestamp .afterMidMinute) = .ok text ∧
      ¬ ∃ read : String → Option Literal, ∀ value text,
        ReadKind.of? value = some .timestamp → dialect.formatLiteral value = .ok text →
          read text = some value := by
  intro text
  have hleap : dialect.formatLiteral (.timestamp .midMinute) = .ok text := by decide +kernel
  have hplain : dialect.formatLiteral (.timestamp .afterMidMinute) = .ok text := by decide +kernel
  refine ⟨hleap, hplain, ?_⟩
  rintro ⟨read, hread⟩
  have hboth := (hread _ _ rfl hleap).symm.trans (hread _ _ rfl hplain)
  exact absurd hboth (by decide)

end SchemaDraft.Postgres
