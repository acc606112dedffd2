import Mathlib.Tactic.SplitIfs
import SchemaDraft.Json.Printer
import SchemaDraft.Json.Reader
import SchemaDraft.Proofs.Number.Digits

/-!
Numbers in JSON text. What is written for a number is read back as that number, however it is laid
out and whatever follows that does not go on a number.
-/

namespace SchemaDraft.Json

/-- The text does not go on a number that stands before it. -/
def EndsNumber (rest : List Char) : Prop :=
  ∀ c ∈ rest.head?, c.isDigit = false ∧ c ≠ '.' ∧ c ≠ 'e' ∧ c ≠ 'E'

variable {rest : List Char}

theorem EndsNumber.no_digit (h : EndsNumber rest) : ∀ c ∈ rest.head?, c.isDigit = false :=
  fun c hc => (h c hc).1

theorem EndsNumber.fractionDigits (h : EndsNumber rest) :
    Json.fractionDigits rest = some (none, rest) := by
  unfold Json.fractionDigits
  split
  · exact absurd rfl (h '.' (by simp)).2.1
  · rfl

theorem EndsNumber.readPower (h : EndsNumber rest) :
    Decimal.readPower rest = some (none, rest) := by
  cases rest with
  | nil => rfl
  | cons c rest =>
    have hc := h c (by simp)
    simp [Decimal.readPower, hc.2.2.1, hc.2.2.2]

theorem wholeDigits_append {digits : List Char} (hdigits : IsNumeral digits)
    (hrest : ∀ c ∈ rest.head?, c.isDigit = false) :
    wholeDigits (digits ++ rest) = some (digits, rest) := by
  obtain ⟨digit, others, rfl⟩ := List.exists_cons_of_ne_nil hdigits.ne_nil
  by_cases hzero : digit = '0'
  · subst hzero
    have hothers : others = [] := (List.cons.inj (hdigits.head rfl)).2
    subst hothers
    rfl
  · have hrun := Decimal.digitRun_append hdigits.isDigit hrest
    unfold wholeDigits
    split
    · simp_all
    · rw [hrun]

theorem fractionDigits_append {digits : List Char} (hne : digits ≠ [])
    (hdigits : ∀ c ∈ digits, c.isDigit = true) (hrest : ∀ c ∈ rest.head?, c.isDigit = false) :
    fractionDigits ('.' :: (digits ++ rest)) = some (some digits, rest) := by
  obtain ⟨digit, others, rfl⟩ := List.exists_cons_of_ne_nil hne
  rw [fractionDigits, Decimal.digitRun_append hdigits hrest]

theorem readPower_append (negative : Bool) (n : Nat) (hrest : EndsNumber rest) :
    Decimal.readPower
        ('e' :: (if negative then '-' else '+') :: (Nat.toDigits 10 n ++ rest)) =
      some (some (if negative then -(n : Int) else n), rest) := by
  have hrun := Decimal.digitRun_append (isNumeral_toDigits n).isDigit hrest.no_digit
  have hvalue := Decimal.digitsValue_toDigits n
  obtain ⟨digit, others, hdigits⟩ := List.exists_cons_of_ne_nil (isNumeral_toDigits n).ne_nil
  rw [hdigits] at hrun hvalue ⊢
  rw [List.cons_append] at hrun ⊢
  cases negative <;> simp [Decimal.readPower, hrun, hvalue]

/-- Reads a number with a point or a power of ten part by part. -/
theorem number_of_parts {negative : Bool} {text whole afterWhole afterFraction : List Char}
    {fraction : Option (List Char)} {power : Option Int}
    (hwhole : wholeDigits text = some (whole, afterWhole))
    (hfraction : fractionDigits afterWhole = some (fraction, afterFraction))
    (hpower : Decimal.readPower afterFraction = some (power, rest))
    (hparts : fraction.isSome ∨ power.isSome) :
    number negative text =
      (ofDecimal (Decimal.ofParts negative whole (fraction.getD []) (power.getD 0))).map
        (·, rest) := by
  unfold number
  rw [hwhole]
  simp only [Option.bind_eq_bind, Option.bind_some, hfraction, hpower, Option.map_eq_bind]
  cases fraction with
  | some digits => rfl
  | none =>
    cases power with
    | some n => rfl
    | none => simp at hparts

theorem number_integer {negative : Bool} {digits : List Char} (hdigits : IsNumeral digits)
    (hrest : EndsNumber rest) :
    number negative (digits ++ rest) = (ofInteger negative digits).map (·, rest) := by
  unfold number
  rw [wholeDigits_append hdigits hrest.no_digit]
  simp only [Option.bind_eq_bind, Option.bind_some, hrest.fractionDigits, hrest.readPower,
    Option.map_eq_bind]
  rfl

theorem ofDecimal_mul_pow (negative : Bool) (n k : Nat) (exponent : Int) :
    ofDecimal ⟨negative, n * 10 ^ k, exponent⟩ = ofDecimal ⟨negative, n, exponent + k⟩ := by
  rw [ofDecimal, ofDecimal, Decimal.toBinary64_mul_pow]

/-- A number with a point and without a power of ten is read up to where its digits end. -/
theorem number_of_point {whole fraction : List Char} (negative : Bool) (hwhole : IsNumeral whole)
    (hne : fraction ≠ []) (hfraction : ∀ c ∈ fraction, c.isDigit = true) (hrest : EndsNumber rest) :
    number negative (whole ++ '.' :: (fraction ++ rest)) =
      (ofDecimal ⟨negative, Decimal.digitsValue (whole ++ fraction), -fraction.length⟩).map
        (·, rest) := by
  have hpoint : ∀ c ∈ ('.' :: (fraction ++ rest)).head?, c.isDigit = false := by simp
  rw [number_of_parts (wholeDigits_append hwhole hpoint)
    (fractionDigits_append hne hfraction hrest.no_digit) hrest.readPower (.inl rfl)]
  simp [Decimal.ofParts]

/-- Digits laid out with a point are read as the decimal of these digits. -/
theorem number_positional {digits : List Char} {exponent : Int} (negative : Bool)
    (hdigits : IsNumeral digits) (hzero : digits = ['0'] → exponent = 0)
    (hrest : EndsNumber rest) :
    number negative (NumberLayout.positional digits exponent ++ rest) =
      (ofDecimal ⟨negative, Decimal.digitsValue digits, exponent⟩).map (·, rest) := by
  have hlength := List.length_pos_iff.mpr hdigits.ne_nil
  rw [NumberLayout.positional]
  split_ifs with hexponent hinside
  · -- all digits stand before the point, and zeros after them
    obtain ⟨zeros, rfl⟩ := Int.eq_ofNat_of_zero_le hexponent
    have hwhole : IsNumeral (digits ++ List.replicate zeros '0') :=
      hdigits.append_zeros fun hdigit => by simpa using hzero hdigit
    have hvalue : Decimal.digitsValue ((digits ++ List.replicate zeros '0') ++ ['0']) =
        Decimal.digitsValue digits * 10 ^ (zeros + 1) := by
      rw [List.append_assoc, ← List.replicate_succ', Decimal.digitsValue_append_zeros]
    have hread := number_of_point negative hwhole (List.cons_ne_nil '0' []) (by simp) hrest
    rw [hvalue, ofDecimal_mul_pow] at hread
    have hpower : -(['0'].length : Int) + (zeros + 1 : Nat) = zeros := by
      rw [List.length_singleton]
      omega
    rw [hpower] at hread
    simpa using hread
  · -- the point stands among the digits
    set point := (digits.length + exponent).toNat with hpointEq
    have hsplit := List.take_append_drop point digits
    have hne : digits.take point ≠ [] := by
      rw [← List.length_pos_iff, List.length_take]
      omega
    have hwhole : IsNumeral (digits.take point) := by
      rw [← hsplit] at hdigits
      exact hdigits.of_append hne
    have hdrop : digits.drop point ≠ [] := by
      rw [← List.length_pos_iff, List.length_drop]
      omega
    have hread := number_of_point negative hwhole hdrop
      (fun c hc => hdigits.isDigit c (List.mem_of_mem_drop hc)) hrest
    have hpower : -((digits.drop point).length : Int) = exponent := by
      rw [List.length_drop]
      omega
    rw [hsplit, hpower] at hread
    simpa using hread
  · -- the point stands before all digits
    set zeros := (-(digits.length + exponent)).toNat with hzeros
    have hwhole : IsNumeral ['0'] := ⟨by simp, by simp, by simp⟩
    have hvalue : Decimal.digitsValue (['0'] ++ (List.replicate zeros '0' ++ digits)) =
        Decimal.digitsValue digits := by
      rw [← List.append_assoc, show ['0'] = List.replicate 1 '0' from rfl,
        List.replicate_append_replicate, Decimal.digitsValue_zeros_append]
    have hread := number_of_point negative hwhole
      (List.append_ne_nil_of_right_ne_nil (List.replicate zeros '0') hdigits.ne_nil)
      (fun c hc => (List.mem_append.mp hc).elim (forall_isDigit_zeros zeros c)
        (hdigits.isDigit c)) hrest
    have hpower : -((List.replicate zeros '0' ++ digits).length : Int) = exponent := by
      rw [List.length_append, List.length_replicate]
      omega
    rw [hvalue, hpower] at hread
    simpa using hread

/-- Digits laid out with a power of ten are read as the decimal of these digits. -/
theorem number_scientific {digits : List Char} {exponent : Int} (negative : Bool)
    (hdigits : IsNumeral digits) (hrest : EndsNumber rest) :
    number negative
        (NumberLayout.scientific digits (exponent + digits.length - 1) ++ rest) =
      (ofDecimal ⟨negative, Decimal.digitsValue digits, exponent⟩).map (·, rest) := by
  set leading := exponent + digits.length - 1 with hleading
  set power := 'e' :: (if decide (leading < 0) then '-' else '+') ::
    (Nat.toDigits 10 leading.natAbs ++ rest) with hpowerText
  have hpower : Decimal.readPower power = some (some leading, rest) := by
    rw [hpowerText, readPower_append _ _ hrest]
    congr 3
    simp only [decide_eq_true_eq]
    split <;> omega
  obtain ⟨digit, others, rfl⟩ := List.exists_cons_of_ne_nil hdigits.ne_nil
  have hwhole : IsNumeral [digit] := 
    IsNumeral.of_append (show IsNumeral ([digit] ++ others) from hdigits) (by simp)
  cases others with
  | nil =>
    have htext : NumberLayout.scientific [digit] leading ++ rest = [digit] ++ power := by
      simp [NumberLayout.scientific, hpowerText]
    have hfraction : fractionDigits power = some (none, power) := rfl
    rw [htext, number_of_parts (wholeDigits_append hwhole (by simp [hpowerText])) hfraction hpower
      (.inr rfl)]
    simp only [Decimal.ofParts, Option.getD_some, Option.getD_none, List.append_nil]
    congr 3
    simp [hleading]
  | cons next more =>
    have htext : NumberLayout.scientific (digit :: next :: more) leading ++ rest =
        [digit] ++ '.' :: ((next :: more) ++ power) := by
      simp [NumberLayout.scientific, hpowerText]
    have hfraction : fractionDigits ('.' :: ((next :: more) ++ power)) =
        some (some (next :: more), power) :=
      fractionDigits_append (by simp) (fun c hc => hdigits.isDigit c (List.mem_cons_of_mem _ hc))
        (by simp [hpowerText])
    rw [htext, number_of_parts (wholeDigits_append hwhole (by simp)) hfraction hpower (.inl rfl)]
    simp only [Decimal.ofParts, Option.getD_some, List.singleton_append]
    congr 3
    simp only [hleading, List.length_cons]
    omega

theorem exists_digit_of_number {negative : Bool} {text : List Char} {read : Json × List Char}
    (h : number negative text = some read) :
    ∃ digit others, text = digit :: others ∧ digit.isDigit = true := by
  cases text with
  | nil => cases h
  | cons c others =>
    refine ⟨c, others, rfl, ?_⟩
    by_contra hdigit
    have hzero : c ≠ '0' := by
      rintro rfl
      exact hdigit rfl
    have hwhole : wholeDigits (c :: others) = none := by
      unfold wholeDigits
      split
      · simp_all
      · simp [Decimal.digitRun, List.span_eq_takeWhile_dropWhile, hdigit]
    simp [number, hwhole] at h

variable {fuel depth : Nat}

/-- A value that starts with none of the marks of the other values is a number. -/
theorem value_of_number {text : List Char} {read : Json × List Char}
    (h : number false text = some read) : value (fuel + 1) depth text = some read := by
  obtain ⟨digit, others, rfl, hdigit⟩ := exists_digit_of_number h
  have hblank : skipJsonBlanks (digit :: others) = digit :: others := by
    have hnot : isJsonBlank digit = false := by
      rw [← Bool.not_eq_true]
      intro hblank
      simp only [isJsonBlank, Bool.or_eq_true, decide_eq_true_eq] at hblank
      rcases hblank with ((rfl | rfl) | rfl) | rfl <;> cases hdigit
    simp [skipJsonBlanks, hnot]
  rw [value, hblank]
  split
  case h_8 => exact h
  -- the marks of the other values are no digits
  all_goals
    rename_i heq
    cases heq
    cases hdigit

theorem value_minus (text : List Char) :
    value (fuel + 1) depth ('-' :: text) = number true text := by
  rw [value]
  rfl

theorem value_floatText {x : Binary64} (hfinite : x.isFinite = true) (hrest : EndsNumber rest) :
    value (fuel + 1) depth ((floatText x).toList ++ rest) = some (.float x, rest) := by
  cases x with
  | nan => cases hfinite
  | infinite negative => cases hfinite
  | finite negative rank =>
    obtain ⟨digits, exponent, text, hwritten, hlayout, hlist⟩ :=
      numberLayout.exists_isWritten_write negative rank
    have hnumber : number negative (text ++ rest) =
        some (.float (.finite negative rank), rest) := by
      have hdecimal : number negative (text ++ rest) =
          (ofDecimal ⟨negative, Decimal.digitsValue digits, exponent⟩).map (·, rest) := by
        rcases hlayout with rfl | rfl
        · exact number_positional negative hwritten.isNumeral hwritten.exponent_of_zero hrest
        · exact number_scientific negative hwritten.isNumeral hrest
      rw [hdecimal, ofDecimal, hwritten.toBinary64]
      rfl
    rw [floatText, hlist]
    cases negative with
    | false => exact value_of_number hnumber
    | true => exact (value_minus _).trans hnumber

/-- The integers that are read as integers: those of 64 bits, with or without a sign. -/
def IsMachineInt (n : Int) : Prop := -(UInt64.size / 2 : Nat) ≤ n ∧ n < UInt64.size

theorem value_repr {n : Int} (hn : IsMachineInt n) (hrest : EndsNumber rest) :
    value (fuel + 1) depth (n.repr.toList ++ rest) = some (.int n, rest) := by
  obtain ⟨hlow, hhigh⟩ := hn
  cases n with
  | ofNat m =>
    have htext : (Int.ofNat m).repr.toList = Nat.toDigits 10 m := Nat.toList_repr
    have hfits : ¬ UInt64.size ≤ m := by
      rw [Int.ofNat_eq_natCast] at hhigh
      omega
    rw [htext]
    apply value_of_number
    rw [number_integer (isNumeral_toDigits m) hrest]
    simp [ofInteger, Decimal.digitsValue_toDigits, hfits]
  | negSucc m =>
    have htext : (Int.negSucc m).repr.toList = '-' :: Nat.toDigits 10 (m + 1) := by
      change ("-" ++ m.succ.repr).toList = _
      rw [String.toList_append, Nat.toList_repr]
      rfl
    have hfits : ¬ UInt64.size / 2 < m + 1 := by omega
    rw [htext, List.cons_append, value_minus, number_integer (isNumeral_toDigits (m + 1)) hrest]
    simp [ofInteger, Decimal.digitsValue_toDigits, hfits, Int.negSucc_eq]

end SchemaDraft.Json
