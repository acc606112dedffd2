import Mathlib.Data.List.TakeWhile
import SchemaDraft.Proofs.Number.Rounding

/-!
The decimal digits of a number, and which of them its text keeps. The zeros at the end of the
digits of the shortest decimal are counted in its power of ten, so that what is laid out is still a
decimal that rounds to the number.
-/

namespace SchemaDraft

/-- Digits without a zero in front, unless they are a zero alone. -/
structure IsNumeral (digits : List Char) : Prop where
  ne_nil : digits ≠ []
  isDigit : ∀ c ∈ digits, c.isDigit = true
  head : digits.head? = some '0' → digits = ['0']

private theorem head?_toDigits {n : Nat} (hn : 0 < n) :
    (Nat.toDigits 10 n).head? ≠ some '0' := by
  induction n using Nat.base_induction 10 (by decide) with
  | single m hm =>
    rw [Nat.toDigits_of_lt_base hm]
    have hdigits : ∀ k < 10, 0 < k → [Nat.digitChar k].head? ≠ some '0' := by decide
    exact hdigits m hm hn
  | digit m k hk hm ih =>
    rw [← Nat.toDigits_append_toDigits (by decide) hm hk,
      List.head?_append_of_ne_nil _ Nat.toDigits_ne_nil]
    exact ih hm

theorem isNumeral_toDigits (n : Nat) : IsNumeral (Nat.toDigits 10 n) where
  ne_nil := Nat.toDigits_ne_nil
  isDigit c hc := Nat.isDigit_of_mem_toDigits (by decide) (by decide) hc
  head h := by
    rcases Nat.eq_zero_or_pos n with rfl | hn
    · exact Nat.toDigits_zero 10
    · exact absurd h (head?_toDigits hn)

theorem IsNumeral.of_append {digits others : List Char} (h : IsNumeral (digits ++ others))
    (hne : digits ≠ []) : IsNumeral digits where
  ne_nil := hne
  isDigit c hc := h.isDigit c (List.mem_append_left _ hc)
  head hhead := by
    have hwhole := h.head (by rw [List.head?_append_of_ne_nil _ hne, hhead])
    obtain ⟨digit, more, rfl⟩ := List.exists_cons_of_ne_nil hne
    simp only [List.cons_append, List.cons.injEq, List.append_eq_nil_iff] at hwhole
    simp [hwhole]

theorem forall_isDigit_zeros (k : Nat) : ∀ c ∈ List.replicate k '0', c.isDigit = true := by
  intro c hc
  rw [List.eq_of_mem_replicate hc]
  rfl

theorem IsNumeral.append_zeros {digits : List Char} {k : Nat} (h : IsNumeral digits)
    (hzero : digits = ['0'] → k = 0) : IsNumeral (digits ++ List.replicate k '0') where
  ne_nil := by simp [h.ne_nil]
  isDigit c hc := (List.mem_append.mp hc).elim (h.isDigit c) (forall_isDigit_zeros k c)
  head hhead := by
    rw [List.head?_append_of_ne_nil _ h.ne_nil] at hhead
    have hdigit := h.head hhead
    simp [hdigit, hzero hdigit]

namespace Decimal

theorem digitsValue_append_zeros (digits : List Char) (k : Nat) :
    digitsValue (digits ++ List.replicate k '0') = digitsValue digits * 10 ^ k := by
  rw [digitsValue, Nat.ofDigitChars_append, Nat.ofDigitChars_replicate_zero, Nat.mul_comm]
  rfl

theorem digitsValue_zeros_append (digits : List Char) (k : Nat) :
    digitsValue (List.replicate k '0' ++ digits) = digitsValue digits := by
  rw [digitsValue, Nat.ofDigitChars_append, Nat.ofDigitChars_replicate_zero]
  rfl

theorem digitsValue_toDigits (n : Nat) : digitsValue (Nat.toDigits 10 n) = n :=
  Nat.ofDigitChars_ten_toDigits

/-- A run ends where nothing follows that could go on it. -/
theorem span_append {p : Char → Bool} {run rest : List Char} (hrun : ∀ c ∈ run, p c = true)
    (hrest : ∀ c ∈ rest.head?, p c = false) : (run ++ rest).span p = (run, rest) := by
  have hnone : rest.takeWhile p = [] ∧ rest.dropWhile p = rest := by
    cases rest with
    | nil => simp
    | cons c rest => simp [hrest c (by simp)]
  rw [List.span_eq_takeWhile_dropWhile, List.takeWhile_append_of_pos hrun,
    List.dropWhile_append_of_pos hrun, hnone.1, hnone.2, List.append_nil]

theorem digitRun_append {digits rest : List Char} (hdigits : ∀ c ∈ digits, c.isDigit = true)
    (hrest : ∀ c ∈ rest.head?, c.isDigit = false) : digitRun (digits ++ rest) = (digits, rest) :=
  span_append hdigits hrest

/-- Decimals of equal value and sign round to the same double. -/
theorem toBinary64_mul_pow (negative : Bool) (n k : Nat) (exponent : Int) :
    toBinary64 ⟨negative, n * 10 ^ k, exponent⟩ = toBinary64 ⟨negative, n, exponent + k⟩ := by
  rw [toBinary64, toBinary64, nearestRank_mul_pow]

end Decimal

namespace NumberLayout

/-- The digits that the text of a number shows, which are all but the zeros at their end. -/
def keptDigits (number : Nat) : List Char :=
  match ((Nat.toDigits 10 number).reverse.dropWhile (· == '0')).reverse with
  | [] => ['0']
  | digits => digits

theorem toDigits_eq_keptDigits_append (number : Nat) :
    ∃ zeros, Nat.toDigits 10 number = keptDigits number ++ List.replicate zeros '0' := by
  set all := Nat.toDigits 10 number with hall
  have hsplit : all = (all.reverse.dropWhile (· == '0')).reverse ++
      (all.reverse.takeWhile (· == '0')).reverse := by
    rw [← List.reverse_append, List.takeWhile_append_dropWhile, List.reverse_reverse]
  have hzeros : (all.reverse.takeWhile (· == '0')).reverse =
      List.replicate (all.reverse.takeWhile (· == '0')).length '0' := by
    rw [List.eq_replicate_iff]
    refine ⟨List.length_reverse, fun c hc => ?_⟩
    have hmet := List.mem_takeWhile_imp (List.mem_reverse.mp hc)
    exact beq_iff_eq.mp hmet
  rw [hzeros] at hsplit
  unfold keptDigits
  rw [← hall]
  split
  case h_1 hnone =>
    -- every digit is a zero, so that the number is zero
    rw [hnone, List.nil_append] at hsplit
    have hhead : all.head? = some '0' := by
      have hne : all ≠ [] := Nat.toDigits_ne_nil
      rw [hsplit] at hne ⊢
      cases hlength : (all.reverse.takeWhile (· == '0')).length with
      | zero => simp [hlength] at hne
      | succ k => simp [List.replicate_succ]
    have hall0 : all = ['0'] := (isNumeral_toDigits number).head hhead
    exact ⟨0, by simp [hall0]⟩
  case h_2 => exact ⟨_, hsplit⟩

theorem keptDigits_ne_nil (number : Nat) : keptDigits number ≠ [] := by
  unfold keptDigits
  split <;> simp_all

theorem isNumeral_keptDigits (number : Nat) : IsNumeral (keptDigits number) := by
  obtain ⟨zeros, hzeros⟩ := toDigits_eq_keptDigits_append number
  have hall := isNumeral_toDigits number
  rw [hzeros] at hall
  exact hall.of_append (keptDigits_ne_nil number)

/-- What the text of a number is laid out from: digits and a power of ten that make a decimal which
rounds to the number. Zero has no power of ten. -/
structure IsWritten (negative : Bool) (rank : Fin BinaryFormat.double.ranks) (digits : List Char)
    (exponent : Int) : Prop where
  isNumeral : IsNumeral digits
  toBinary64 : Decimal.toBinary64 ⟨negative, Decimal.digitsValue digits, exponent⟩ =
    .finite negative rank
  exponent_of_zero : digits = ['0'] → exponent = 0

theorem isWritten_shortest (tie : Tie) (negative : Bool) (rank : Fin BinaryFormat.double.ranks) :
    let (number, exponent) := Binary64.shortest tie rank
    let digits := keptDigits number
    IsWritten negative rank digits
      (exponent + ((Nat.toDigits 10 number).length - digits.length : Nat)) := by
  have hround := Binary64.nearestRank_shortest tie negative rank
  have hzeroShortest : (Binary64.shortest tie rank).1 = 0 → (Binary64.shortest tie rank).2 = 0 := by
    intro hzero
    rw [hzero] at hround
    have hrank : rank.val = 0 := by simpa [Decimal.nearestRank] using hround.symm
    simp [Binary64.shortest, BinaryFormat.magnitude, hrank]
  generalize Binary64.shortest tie rank = found at hround hzeroShortest
  obtain ⟨number, exponent⟩ := found
  obtain ⟨zeros, hzeros⟩ := toDigits_eq_keptDigits_append number
  have hcount : (Nat.toDigits 10 number).length - (keptDigits number).length = zeros := by
    simp [hzeros]
  have hvalue : number = Decimal.digitsValue (keptDigits number) * 10 ^ zeros := by
    rw [← Decimal.digitsValue_append_zeros, ← hzeros, Decimal.digitsValue_toDigits]
  dsimp only at hround hzeroShortest ⊢
  rw [hcount]
  refine ⟨isNumeral_keptDigits number, ?_, ?_⟩
  · rw [← Decimal.toBinary64_mul_pow, ← hvalue, Decimal.toBinary64, hround]
    simp [Binary64.ofRank]
  · intro hkept
    have hnumber : number = 0 := by
      simpa [hkept, Decimal.digitsValue, Nat.ofDigitChars_cons] using hvalue
    subst hnumber
    have hnone : zeros = 0 := by
      rw [← hcount, hkept, Nat.toDigits_zero]
      rfl
    simp [hzeroShortest rfl, hnone]

/-- The text of a finite number is a layout of digits that are written for it. -/
theorem exists_isWritten_write (layout : NumberLayout) (negative : Bool)
    (rank : Fin BinaryFormat.double.ranks) :
    ∃ digits exponent text, IsWritten negative rank digits exponent ∧
      (text = positional digits exponent ∨
        text = scientific digits (exponent + digits.length - 1)) ∧
      (layout.write negative rank).toList = if negative then '-' :: text else text := by
  have hwritten := isWritten_shortest layout.tie negative rank
  rw [NumberLayout.write, String.toList_ofList]
  generalize Binary64.shortest layout.tie rank = found at hwritten ⊢
  obtain ⟨number, exponent⟩ := found
  let digits := keptDigits number
  let power : Int := exponent + ((Nat.toDigits 10 number).length - digits.length : Nat)
  by_cases hlayout : layout.isPositional (power + digits.length - 1) || number = 0
  · refine ⟨digits, power, _, hwritten, .inl rfl, ?_⟩
    exact congrArg (fun text => if negative then '-' :: text else text) (if_pos hlayout)
  · refine ⟨digits, power, _, hwritten, .inr rfl, ?_⟩
    exact congrArg (fun text => if negative then '-' :: text else text) (if_neg hlayout)

end NumberLayout

end SchemaDraft
