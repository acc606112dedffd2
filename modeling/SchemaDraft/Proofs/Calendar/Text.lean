import Mathlib.Algebra.Group.Nat.Defs
import Mathlib.Tactic.SplitIfs
import SchemaDraft.Calendar.Timestamp

/-!
Days and moments read back from their texts. Each part is written with so many digits that it is
clear where it ends, so that nothing is asked of what follows a day, and of what follows a moment
only that it does not go on a fraction.

A leap second has a text of its own only at the end of a minute. Anywhere else it is written, and so
read, as the second after it.
-/

namespace SchemaDraft

namespace Calendar

theorem forall_isDigit_padded (width n : Nat) : ∀ c ∈ padded width n, c.isDigit = true := by
  intro c hc
  rcases List.mem_append.mp hc with hc | hc
  · rw [List.eq_of_mem_replicate hc]
    rfl
  · exact Nat.isDigit_of_mem_toDigits (by decide) (by decide) hc

theorem padded_ne_nil (width n : Nat) : padded width n ≠ [] := by
  simp [padded]

theorem length_padded {width n : Nat} (hwidth : 0 < width) (hn : n < 10 ^ width) :
    (padded width n).length = width := by
  have hlength := (Nat.length_toDigits_le_iff (by decide) hwidth).mpr hn
  simp only [padded, List.length_append, List.length_replicate]
  omega

theorem ofDigitChars_padded (width n : Nat) : Nat.ofDigitChars 10 (padded width n) 0 = n := by
  rw [padded, Nat.ofDigitChars_append, Nat.ofDigitChars_replicate_zero, Nat.mul_zero,
    Nat.ofDigitChars_ten_toDigits]

theorem isBlank_of_isDigit {c : Char} (hc : c.isDigit = true) : Text.isBlank c = false := by
  rw [Char.isDigit_iff_toNat] at hc
  obtain ⟨hlow, hhigh⟩ : 48 ≤ c.toNat ∧ c.toNat ≤ 57 := hc
  simp only [Text.isBlank, Bool.or_eq_false_iff, Bool.and_eq_false_iff, decide_eq_false_iff_not,
    beq_eq_false_iff_ne]
  omega

variable {rest : List Char}

/-- Digits are read up to the width, or up to where no more follow. -/
theorem readDigits_append {width : Nat} {digits : List Char} (hne : digits ≠ [])
    (hdigits : ∀ c ∈ digits, c.isDigit = true) (hwidth : digits.length ≤ width)
    (hend : digits.length = width ∨ ∀ c ∈ rest.head?, c.isDigit = false) :
    readDigits width (digits ++ rest) = some (Nat.ofDigitChars 10 digits 0, rest) := by
  have hnone : (rest.take (width - digits.length)).takeWhile Char.isDigit = [] := by
    rcases hend with hend | hend
    · simp [hend]
    · cases rest with
      | nil => simp
      | cons c rest =>
        have hc := hend c (by simp)
        cases width - digits.length <;> simp [hc]
  have hrun : ((digits ++ rest).take width).takeWhile Char.isDigit = digits := by
    rw [List.take_append, List.take_of_length_le hwidth, List.takeWhile_append_of_pos hdigits,
      hnone, List.append_nil]
  obtain ⟨digit, others, rfl⟩ := List.exists_cons_of_ne_nil hne
  rw [readDigits, hrun]
  simp

theorem readDigits_padded {width n : Nat} (hwidth : 0 < width) (hn : n < 10 ^ width)
    (rest : List Char) : readDigits width (padded width n ++ rest) = some (n, rest) := by
  have hlength := length_padded hwidth hn
  rw [readDigits_append (padded_ne_nil width n) (forall_isDigit_padded width n)
    (Nat.le_of_eq hlength) (.inl hlength), ofDigitChars_padded]

theorem skipBlanks_padded (width n : Nat) (rest : List Char) :
    Text.skipBlanks (padded width n ++ rest) = padded width n ++ rest := by
  obtain ⟨digit, others, hdigits⟩ := List.exists_cons_of_ne_nil (padded_ne_nil width n)
  have hdigit := forall_isDigit_padded width n digit (by simp [hdigits])
  rw [hdigits]
  exact Text.skipBlanks_cons_of_not_blank (isBlank_of_isDigit hdigit)

theorem readComponent_padded {n : Nat} (hn : n < 100) (rest : List Char) :
    readComponent (padded 2 n ++ rest) = some (n, rest) := by
  rw [readComponent, skipBlanks_padded, readDigits_padded (by decide) hn]

theorem readMark_cons {mark : Char} (hmark : Text.isBlank mark = false) (rest : List Char) :
    readMark mark (mark :: rest) = some rest := by
  simp [readMark, Text.skipBlanks_cons_of_not_blank hmark]

/-- A year ends where no digit follows, and nothing else is asked of what follows it. -/
theorem readYear_yearText (year : Int) (hrest : ∀ c ∈ rest.head?, c.isDigit = false) :
    readYear (yearText year ++ rest) = some (year, rest) := by
  have hsigned : readDigits (padded 4 year.natAbs ++ rest).length (padded 4 year.natAbs ++ rest) =
      some (year.natAbs, rest) := by
    rw [readDigits_append (padded_ne_nil 4 _) (forall_isDigit_padded 4 _) (by simp) (.inr hrest),
      ofDigitChars_padded]
  rw [yearText]
  split_ifs with hplain hnegative
  · simp only [Bool.and_eq_true, decide_eq_true_eq] at hplain
    have hfour : readDigits 4 (padded 4 year.natAbs ++ rest) = some (year.natAbs, rest) :=
      readDigits_padded (by decide) (by omega) rest
    obtain ⟨digit, others, hdigits⟩ := List.exists_cons_of_ne_nil (padded_ne_nil 4 year.natAbs)
    have hdigit := forall_isDigit_padded 4 year.natAbs digit (by simp [hdigits])
    rw [readYear, skipBlanks_padded, hdigits]
    rw [hdigits] at hfour
    rw [List.cons_append] at hfour ⊢
    split
    · simp_all
    · simp_all
    · rw [hfour]
      simp
      omega
  · rw [readYear, List.cons_append, Text.skipBlanks_cons_of_not_blank (by decide)]
    simp only [hsigned, Option.map_some]
    congr 2
    omega
  · simp only [Bool.and_eq_true, decide_eq_true_eq] at hplain
    rw [readYear, List.cons_append, Text.skipBlanks_cons_of_not_blank (by decide)]
    simp only [hsigned, Option.map_some]
    congr 2
    omega

end Calendar

open Calendar

namespace Date

theorem of?_eq_some (d : Date) : of? d.year d.month d.day = some d := dif_pos d.exists_day

theorem readFront_chars (d : Date) (rest : List Char) :
    readFront (d.chars ++ rest) = some (d, rest) := by
  obtain ⟨-, ⟨-, hmonth⟩, -, hday⟩ := d.exists_day
  have hdays : daysInMonth d.year d.month ≤ 31 := by
    unfold daysInMonth
    split_ifs <;> decide
  have htext : d.chars ++ rest =
      yearText d.year ++ '-' :: (padded 2 d.month ++ '-' :: (padded 2 d.day ++ rest)) := by
    simp [chars]
  have hmark : Text.isBlank '-' = false := by decide
  rw [htext, readFront, readYear_yearText d.year (by simp)]
  simp only [Option.bind_eq_bind, Option.bind_some, readMark_cons hmark,
    readComponent_padded (by omega : d.month < 100), readComponent_padded (by omega : d.day < 100),
    of?_eq_some]
  rfl

/-- A day is read back from its text. -/
theorem ofText?_text (d : Date) : ofText? d.text = some d := by
  have hfront := readFront_chars d []
  rw [List.append_nil] at hfront
  rw [ofText?, text, String.toList_ofList, hfront]
  rfl

end Date

namespace Timestamp

theorem of?_eq_some (t : Timestamp) :
    of? t.date t.hour t.minute t.second t.nanosecond = some t := dif_pos t.exists_moment

/-- Up to nine digits after the point count units of their last place. -/
private theorem readFraction_padded {width units n : Nat} {rest : List Char} (hwidth : 0 < width)
    (hnine : width ≤ 9) (hunits : units < 10 ^ width) (hn : units * 10 ^ (9 - width) = n)
    (hrest : ∀ c ∈ rest.head?, c.isDigit = false) :
    readFraction ('.' :: padded width units ++ rest) = some (n, rest) := by
  have hlength := length_padded hwidth hunits
  have hread : readDigits 9 (padded width units ++ rest) = some (units, rest) := by
    rw [readDigits_append (padded_ne_nil width units) (forall_isDigit_padded width units) (by omega)
      (.inr hrest), ofDigitChars_padded]
  have hdrop : rest.dropWhile Char.isDigit = rest := by
    cases rest with
    | nil => rfl
    | cons c rest => simp [hrest c (by simp)]
  simp [readFraction, hread, hlength, hdrop, hn]

/-- A fraction is read back if what follows it does not go on one. -/
theorem readFraction_fractionText {n : Nat} {rest : List Char} (hn : n < 1000000000)
    (hrest : ∀ c ∈ rest.head?, c.isDigit = false ∧ c ≠ '.') :
    readFraction (fractionText n ++ rest) = some (n, rest) := by
  have hdigit : ∀ c ∈ rest.head?, c.isDigit = false := fun c hc => (hrest c hc).1
  rw [fractionText]
  split_ifs with hzero hmilli hmicro
  · rw [List.nil_append, hzero]
    unfold readFraction
    split
    · exact absurd rfl (hrest '.' (by simp)).2
    · rfl
  · exact readFraction_padded (by decide) (by decide) (by omega) (by omega) hdigit
  · exact readFraction_padded (by decide) (by decide) (by omega) (by omega) hdigit
  · exact readFraction_padded (by decide) (by decide) hn (by omega) hdigit

/-- The time of day as it is written. -/
def timeChars (t : Timestamp) : List Char :=
  padded 2 t.hour ++ ':' :: (padded 2 t.minute ++
    ':' :: (padded 2 t.writtenSecond.1 ++ fractionText t.writtenSecond.2))

theorem charsWith_eq (separator : Char) (t : Timestamp) :
    t.charsWith separator = t.date.chars ++ separator :: t.timeChars := by
  simp [charsWith, timeChars]

/-- Whether the moment is no leap second, or one at the end of a minute. -/
def hasOwnText (t : Timestamp) : Bool := t.second = 59 || t.nanosecond < 1000000000

/-- The moment that the text of this one stands for. -/
def asWritten (t : Timestamp) : Timestamp :=
  if h : t.hasOwnText then t
  else
    { t with
      second := t.second + 1
      nanosecond := t.nanosecond - 1000000000
      exists_moment := by
        simp only [hasOwnText, Bool.or_eq_true, decide_eq_true_eq] at h
        obtain ⟨hhour, hminute, hsecond, hnano⟩ := t.exists_moment
        omega }

theorem hasOwnText_asWritten (t : Timestamp) : t.asWritten.hasOwnText = true := by
  obtain ⟨-, -, -, hnano⟩ := t.exists_moment
  rw [asWritten]
  split
  · assumption
  · simp only [hasOwnText, Bool.or_eq_true, decide_eq_true_eq]
    omega

/-- A moment without a text of its own is read as another. -/
theorem asWritten_eq_self_iff {t : Timestamp} : t.asWritten = t ↔ t.hasOwnText = true := by
  constructor
  · intro h
    rw [← h]
    exact t.hasOwnText_asWritten
  · exact fun h => dif_pos h

theorem writtenSecond_asWritten (t : Timestamp) :
    t.asWritten.writtenSecond = t.writtenSecond := by
  unfold asWritten
  split
  · rfl
  case isFalse hnot =>
    obtain ⟨-, -, -, hnano⟩ := t.exists_moment
    simp only [hasOwnText, Bool.or_eq_true, decide_eq_true_eq, not_or] at hnot
    have hshort : t.nanosecond - 1000000000 < 1000000000 := by omega
    simp only [writtenSecond, if_pos hshort, if_neg hnot.2]

/-- The two moments are written alike. -/
theorem charsWith_asWritten (separator : Char) (t : Timestamp) :
    t.asWritten.charsWith separator = t.charsWith separator := by
  have hparts : t.asWritten.date = t.date ∧ t.asWritten.hour = t.hour ∧
      t.asWritten.minute = t.minute := by
    unfold asWritten
    split <;> exact ⟨rfl, rfl, rfl⟩
  simp only [charsWith, t.writtenSecond_asWritten, hparts]

/-- A leap second in the midst of a minute. -/
def midMinute : Timestamp :=
  { date := ⟨2015, 6, 30, by decide⟩, hour := 23, minute := 56, second := 4,
    nanosecond := 1333333333 }

/-- The moment that is written as that leap second is. -/
def afterMidMinute : Timestamp :=
  { date := ⟨2015, 6, 30, by decide⟩, hour := 23, minute := 56, second := 5,
    nanosecond := 333333333 }

/-- A leap second at the end of a minute is written as second 60, and second 60 is read as one. -/
theorem readTime_timeChars {t : Timestamp} (hown : t.hasOwnText = true) (rest : List Char)
    (hrest : ∀ c ∈ rest.head?, c.isDigit = false ∧ c ≠ '.') :
    readTime (t.timeChars ++ rest) = some ((t.hour, t.minute, t.second, t.nanosecond), rest) := by
  obtain ⟨hhour, hminute, hsecond, hnano⟩ := t.exists_moment
  simp only [hasOwnText, Bool.or_eq_true, decide_eq_true_eq] at hown
  have hmark : Text.isBlank ':' = false := by decide
  have hwritten : t.writtenSecond.1 < 100 ∧ t.writtenSecond.2 < 1000000000 := by
    unfold writtenSecond
    split
    · dsimp only; omega
    · dsimp only; omega
  have htext : t.timeChars ++ rest = padded 2 t.hour ++ ':' :: (padded 2 t.minute ++
      ':' :: (padded 2 t.writtenSecond.1 ++ (fractionText t.writtenSecond.2 ++ rest))) := by
    simp [timeChars]
  rw [htext, readTime, readComponent_padded (by omega)]
  simp only [Option.bind_eq_bind, Option.bind_some, readMark_cons hmark,
    readComponent_padded (by omega : t.minute < 100), readComponent_padded hwritten.1,
    readFraction_fractionText hwritten.2 hrest]
  unfold writtenSecond
  split
  case isTrue =>
    have hnot : ¬ t.second = 60 := by omega
    simp [hnot]
  case isFalse hlong =>
    obtain hfiftyNine : t.second = 59 := by omega
    simp [hfiftyNine]
    omega

/-- From its text with a separator that is no blank, the moment is read that the text stands for. -/
theorem ofTextWith?_textWith {separator : Char} (hseparator : Text.isBlank separator = false)
    (t : Timestamp) : ofTextWith? separator (t.textWith separator) = some t.asWritten := by
  have htime := readTime_timeChars t.hasOwnText_asWritten [] (by simp)
  rw [List.append_nil] at htime
  rw [ofTextWith?, textWith, String.toList_ofList, ← charsWith_asWritten, charsWith_eq,
    Date.readFront_chars]
  simp only [Option.bind_eq_bind, Option.bind_some, readMark_cons hseparator, htime]
  rw [of?_eq_some]
  rfl

end Timestamp

end SchemaDraft
