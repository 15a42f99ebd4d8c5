import ElectionReadiness.Text.Decimal
import Mathlib.Algebra.Order.Ring.Nat
import Mathlib.Tactic.Ring

/-!
# Decimal places

The value of digits is the sum of the values of its digits, each by its place: digits in front
of others count as many powers of ten as there are others (`Decimal.value_append`), and the
others never make up one more (`Decimal.value_lt`).  So of numerals with as many digits the one
that comes first as a text is the smaller number (`Decimal.lt_or_eq_of_append_lt`).

Zeros in front change nothing, so that a number filled up to some places still has its value
(`Decimal.value_padded`), and it has exactly so many places if it is small enough
(`Decimal.length_padded`).
-/

set_option autoImplicit false

namespace ElectionReadiness.Decimal

/-! ## Digits by their places -/

theorem valueFrom_eq (read : Nat) (written : List Char) :
    valueFrom read written = read * 10 ^ written.length + value written := by
  induction written generalizing read with
  | nil => simp [valueFrom, value]
  | cons c rest ih =>
      have here : valueFrom read (c :: rest) = valueFrom (10 * read + digitValue c) rest := rfl
      have alone : value (c :: rest) = valueFrom (digitValue c) rest := by
        simp [value, valueFrom]
      rw [here, alone, ih, ih (digitValue c), List.length_cons, pow_succ]
      ring

theorem value_append (written more : List Char) :
    value (written ++ more) = value written * 10 ^ more.length + value more := by
  have joined : value (written ++ more) = valueFrom (value written) more := by
    simp [value, valueFrom, List.foldl_append]
  rw [joined, valueFrom_eq]

theorem value_singleton (c : Char) : value [c] = digitValue c := by
  simp [value, valueFrom]

theorem digitValue_lt {c : Char} (digit : isDigit c = true) : digitValue c < 10 := by
  rw [isDigit, Bool.and_eq_true, decide_eq_true_eq, decide_eq_true_eq] at digit
  have below : c.toNat ≤ '9'.toNat := digit.2
  have nine : '9'.toNat = 57 := rfl
  rw [digitValue]
  omega

theorem value_cons (c : Char) (rest : List Char) :
    value (c :: rest) = digitValue c * 10 ^ rest.length + value rest := by
  rw [← value_singleton, ← value_append, List.singleton_append]

/-- So many digits stand for less than the next power of ten. -/
theorem value_lt {written : List Char} (digits : ∀ c ∈ written, isDigit c = true) :
    value written < 10 ^ written.length := by
  induction written with
  | nil => simp [value, valueFrom]
  | cons c rest ih =>
      rw [List.forall_mem_cons] at digits
      have first := digitValue_lt digits.1
      have others := ih digits.2
      calc value (c :: rest) = digitValue c * 10 ^ rest.length + value rest := value_cons c rest
        _ < digitValue c * 10 ^ rest.length + 10 ^ rest.length := by omega
        _ = (digitValue c + 1) * 10 ^ rest.length := by ring
        _ ≤ 10 * 10 ^ rest.length := Nat.mul_le_mul_right _ first
        _ = 10 ^ (c :: rest).length := by rw [List.length_cons, pow_succ, Nat.mul_comm]

/-! ## The order of numerals -/

theorem digitValue_lt_digitValue {c d : Char} (digit : isDigit c = true) (order : c < d) :
    digitValue c < digitValue d := by
  rw [isDigit, Bool.and_eq_true, decide_eq_true_eq, decide_eq_true_eq] at digit
  have above : '0'.toNat ≤ c.toNat := digit.1
  have zero : '0'.toNat = 48 := rfl
  have less : c.toNat < d.toNat := order
  rw [digitValue, digitValue]
  omega

/-- Texts that start with as many digits each are ordered by the numbers first: the first digit
that differs counts more than all digits after it. -/
theorem lt_or_eq_of_append_lt {one other rest rest' : List Char}
    (long : one.length = other.length) (digits : ∀ c ∈ one, isDigit c = true)
    (less : one ++ rest < other ++ rest') :
    value one < value other ∨ value one = value other ∧ rest < rest' := by
  induction one generalizing other with
  | nil =>
      obtain rfl := List.length_eq_zero_iff.mp long.symm
      exact .inr ⟨rfl, less⟩
  | cons c later ih =>
      obtain ⟨d, later', rfl⟩ := List.exists_cons_of_length_eq_add_one long.symm
      rw [List.forall_mem_cons] at digits
      rw [List.length_cons, List.length_cons, Nat.add_right_cancel_iff] at long
      rw [List.cons_append, List.cons_append, List.cons_lt_cons_iff] at less
      rw [value_cons, value_cons, long]
      rcases less with first | ⟨rfl, less⟩
      · left
        have below := value_lt digits.2
        rw [long] at below
        calc digitValue c * 10 ^ later'.length + value later
            < digitValue c * 10 ^ later'.length + 10 ^ later'.length := by omega
          _ = (digitValue c + 1) * 10 ^ later'.length := by ring
          _ ≤ digitValue d * 10 ^ later'.length :=
              Nat.mul_le_mul_right _ (digitValue_lt_digitValue digits.1 first)
          _ ≤ _ := Nat.le_add_right ..
      · rcases ih long digits.2 less with before | ⟨same, after⟩
        · exact .inl (Nat.add_lt_add_left before _)
        · exact .inr ⟨by rw [same], after⟩

/-! ## Numbers filled up with zeros -/

theorem value_zeros (count : Nat) : value (List.replicate count '0') = 0 := by
  induction count with
  | zero => rfl
  | succ count ih =>
      rw [List.replicate_succ', value_append, ih, value_singleton]
      rfl

/-- Zeros in front change no number. -/
theorem value_padded (places n : Nat) : value (padded places n) = n := by
  simp only [padded]
  rw [value_append, value_zeros, value_digits, Nat.zero_mul, Nat.zero_add]

theorem length_digitsFrom_le {fuel n places : Nat} (later : List Char) (positive : 0 < places)
    (small : n < 10 ^ places) : (digitsFrom fuel n later).length ≤ places + later.length := by
  induction fuel generalizing n places later with
  | zero => simp [digitsFrom]
  | succ fuel ih =>
      simp only [digitsFrom]
      split
      · rw [List.length_cons]
        omega
      · next large =>
        obtain ⟨fewer, rfl⟩ := Nat.exists_eq_succ_of_ne_zero (Nat.ne_of_gt positive)
        have more : 0 < fewer := by
          refine Nat.pos_of_ne_zero fun zero => large ?_
          rwa [zero] at small
        have smaller : n / 10 < 10 ^ fewer := by
          rw [pow_succ] at small
          omega
        have shorter := ih (digitChar (n % 10) :: later) more smaller
        rw [List.length_cons] at shorter
        omega

/-- A number that is small enough fills exactly so many places. -/
theorem length_padded {places n : Nat} (positive : 0 < places) (small : n < 10 ^ places) :
    (padded places n).length = places := by
  have short : (digits n).length ≤ places := length_digitsFrom_le [] positive small
  simp only [padded, List.length_append, List.length_replicate]
  omega

end ElectionReadiness.Decimal
