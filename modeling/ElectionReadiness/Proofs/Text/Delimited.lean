import ElectionReadiness.Proofs.Json.WrittenNumber
import ElectionReadiness.Text.Quoted

/-!
# Quoted texts and numerals end by themselves

A quoted text can be taken off the front of any longer text, and so what was quoted and what
follows are known from the whole (`Quoted.quote_append_inj`).  No text can pretend to be the end of
its own quotation: every character is escaped so that it is read off again
(`Quoted.unescape?_escape`), and none is read off where the closing mark stands.

Numerals have no closing mark.  They end where no digit follows (`Decimal.digits_append_inj`), and
hexadecimal ones in a quoted text before a brace (`Unicode.readHex_digits`).
-/

set_option autoImplicit false

namespace ElectionReadiness

/-! ## Numerals -/

/-- A numeral and what follows are known from the whole, if no digit follows. -/
theorem Decimal.digits_append_inj {m n : Nat} {rest rest' : List Char}
    (stops : Json.NoDigitFirst rest) (stops' : Json.NoDigitFirst rest')
    (same : digits m ++ rest = digits n ++ rest') : m = n ∧ rest = rest' := by
  have scanned := Json.scanDigits?_append (Json.isWhole_digits m).areDigits stops
  have scanned' := Json.scanDigits?_append (Json.isWhole_digits n).areDigits stops'
  rw [same, scanned', Option.some.injEq, Prod.mk.injEq] at scanned
  obtain ⟨written, left⟩ := scanned
  refine ⟨?_, left.symm⟩
  rw [← value_digits m, ← written, value_digits]

theorem Hexadecimal.digitsFrom_append (fuel n : Nat) (later rest : List Char) :
    digitsFrom fuel n later ++ rest = digitsFrom fuel n (later ++ rest) := by
  induction fuel generalizing n later with
  | zero => rfl
  | succ fuel ih =>
      simp only [digitsFrom]
      split
      · rfl
      · rw [ih, List.cons_append]

namespace Unicode

theorem readHexFrom_digitChar {d : Nat} (h : d < 16) (read : Nat) (rest : List Char) :
    readHexFrom read (Hexadecimal.digitChar d :: rest) = readHexFrom (16 * read + d) rest := by
  simp only [readHexFrom, Hexadecimal.digitValue?_digitChar h]

theorem readHexFrom_digitsFrom (fuel n : Nat) (later : List Char) (h : n < fuel) :
    readHexFrom 0 (Hexadecimal.digitsFrom fuel n later) = readHexFrom n later := by
  induction fuel generalizing n later with
  | zero => omega
  | succ fuel ih =>
      simp only [Hexadecimal.digitsFrom]
      split
      · next small => rw [readHexFrom_digitChar small, Nat.mul_zero, Nat.zero_add]
      · next large =>
        rw [ih (n / 16) _ (by omega), readHexFrom_digitChar (Nat.mod_lt n (by decide)),
          Nat.div_add_mod n 16]

/-- A hexadecimal numeral is read off again in front of a closing brace. -/
theorem readHex_digits (n : Nat) (rest : List Char) :
    readHex (Hexadecimal.digits n ++ '\x7d' :: rest) = (n, '\x7d' :: rest) := by
  rw [Hexadecimal.digits, Hexadecimal.digitsFrom_append, readHex,
    readHexFrom_digitsFrom (n + 1) n _ (Nat.lt_succ_self n)]
  rfl

end Unicode

/-! ## Quoted texts -/

namespace Quoted

/-- Reads what stands after a backslash. -/
def unescapeMark? : List Char → Option (Char × List Char)
  | 't' :: rest => some ('\t', rest)
  | 'r' :: rest => some ('\r', rest)
  | 'n' :: rest => some ('\n', rest)
  | '0' :: rest => some (Char.ofNat 0, rest)
  | 'u' :: '\x7b' :: rest =>
    let (code, left) := Unicode.readHex rest
    some (Char.ofNat code, left.drop 1)
  | c :: rest => some (c, rest)
  | [] => none

/-- Reads a character of a quoted text off the front, none at the closing mark. -/
def unescape? : List Char → Option (Char × List Char)
  | [] => none
  | c :: rest =>
    if c = '"' then none else if c = '\\' then unescapeMark? rest else some (c, rest)

/-- An escaped character is read off again. -/
theorem unescape?_escape (c : Char) (rest : List Char) :
    unescape? (escape c ++ rest) = some (c, rest) := by
  by_cases mark : c = '"'
  · subst mark
    rfl
  by_cases backslash : c = '\\'
  · subst backslash
    rfl
  by_cases tab : c = '\t'
  · subst tab
    rfl
  by_cases back : c = '\r'
  · subst back
    rfl
  by_cases line : c = '\n'
  · subst line
    rfl
  by_cases null : c.toNat = 0
  · rw [← Char.ofNat_toNat c, null]
    rfl
  by_cases hidden : Unicode.hidden.has c = true
  · -- The digits are read up to the closing brace, which is dropped.
    simp [escape, mark, backslash, tab, back, line, null, hidden, unescape?, unescapeMark?,
      Unicode.readHex_digits]
  · simp [escape, mark, backslash, tab, back, line, null, hidden, unescape?]

/-- An escaped character and what follows are known from the whole. -/
theorem escape_append_inj {c d : Char} {rest rest' : List Char}
    (same : escape c ++ rest = escape d ++ rest') : c = d ∧ rest = rest' := by
  have read := unescape?_escape c rest
  rw [same, unescape?_escape, Option.some.injEq, Prod.mk.injEq] at read
  exact ⟨read.1.symm, read.2.symm⟩

/-- No escaped character starts with the closing mark. -/
theorem escape_append_ne (c : Char) (rest rest' : List Char) :
    escape c ++ rest ≠ '"' :: rest' := by
  intro same
  have read := unescape?_escape c rest
  rw [same] at read
  cases read

theorem escaped_append_inj {one other rest rest' : List Char}
    (same : one.flatMap escape ++ '"' :: rest = other.flatMap escape ++ '"' :: rest') :
    one = other ∧ rest = rest' := by
  induction one generalizing other with
  | nil =>
      cases other with
      | nil => exact ⟨rfl, List.tail_eq_of_cons_eq same⟩
      | cons d others =>
          rw [List.flatMap_cons, List.append_assoc] at same
          exact absurd same.symm (escape_append_ne d _ rest)
  | cons c more ih =>
      rw [List.flatMap_cons, List.append_assoc] at same
      cases other with
      | nil => exact absurd same (escape_append_ne c _ rest')
      | cons d others =>
          rw [List.flatMap_cons, List.append_assoc] at same
          obtain ⟨rfl, later⟩ := escape_append_inj same
          obtain ⟨rfl, left⟩ := ih later
          exact ⟨rfl, left⟩

/-- **What was quoted and what follows are known from the whole.** -/
theorem quote_append_inj {one other rest rest' : List Char}
    (same : quote one ++ rest = quote other ++ rest') : one = other ∧ rest = rest' := by
  simp only [quote, List.cons_append, List.append_assoc, List.nil_append, List.cons.injEq,
    true_and] at same
  exact escaped_append_inj same

end Quoted

end ElectionReadiness
