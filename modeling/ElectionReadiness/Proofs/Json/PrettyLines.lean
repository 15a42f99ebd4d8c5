import ElectionReadiness.Proofs.Json.WrittenNumber
import ElectionReadiness.Proofs.Text.FullLines

/-!
# The lines of a written value

A value is written on lines that all hold something, and no control character but the line end
is ever written (`Value.isLined_pretty`): strings escape them, and everything else is made of
marks, blanks, letters and digits.  So the text of a value can be shown between the codes of a
terminal, and its lines can be counted on to come back.
-/

set_option autoImplicit false

namespace ElectionReadiness.Json

open Text (IsLined)

/-! ## Lines in brackets -/

/-- A new line at a depth may follow. -/
theorem isLined_newLine {text more : List Char} (lined : IsLined text) (depth : Nat)
    (others : IsLined more) : IsLined (text ++ (newLine depth ++ more)) :=
  lined.newLine (fun _ => List.eq_of_mem_replicate) others

/-- Lines at a depth may follow, with commas between them. -/
theorem isLined_writeLines {text : List Char} (lined : IsLined text) (depth : Nat)
    {lines : List (List Char)} (each : ∀ line ∈ lines, IsLined line) :
    IsLined (text ++ writeLines depth lines) := by
  induction lines generalizing text with
  | nil => rwa [writeLines, List.append_nil]
  | cons first others ih =>
      obtain ⟨firstLined, othersLined⟩ := List.forall_mem_cons.mp each
      cases others with
      | nil => exact isLined_newLine lined depth firstLined
      | cons second others =>
          have comma : IsLined [','] := .of_line (List.cons_ne_nil _ _) (by simp)
          have started := isLined_newLine lined depth (firstLined.append comma)
          have written := ih started othersLined
          simp only [List.append_assoc, List.singleton_append] at written
          rwa [writeLines, List.append_assoc]

theorem isLined_bracketed {opening closing : Char} (opens : 0x20 ≤ opening.toNat)
    (closes : 0x20 ≤ closing.toNat) (depth : Nat) {lines : List (List Char)}
    (each : ∀ line ∈ lines, IsLined line) : IsLined (bracketed opening closing depth lines) := by
  have first : IsLined [opening] := .of_line (List.cons_ne_nil _ _) (by simpa using opens)
  have last : IsLined [closing] := .of_line (List.cons_ne_nil _ _) (by simpa using closes)
  cases lines with
  | nil => exact first.append last
  | cons line others =>
      have written := isLined_newLine (isLined_writeLines first (depth + 1) each) depth last
      rwa [List.append_assoc, ← List.append_assoc _ (newLine depth)] at written

/-! ## Numbers and strings -/

theorem visible_of_isDigit {c : Char} (digit : Decimal.isDigit c = true) : 0x20 ≤ c.toNat := by
  simp only [Decimal.isDigit, Bool.and_eq_true, decide_eq_true_eq] at digit
  have least : '0'.toNat ≤ c.toNat := digit.1
  exact le_trans (by decide) least

theorem AreDigits.visible {digits : List Char} (areDigits : AreDigits digits) :
    ∀ c ∈ digits, 0x20 ≤ c.toNat :=
  fun c mem => visible_of_isDigit (areDigits.all_digits c mem)

theorem IsWhole.visible {whole : List Char} (isWhole : IsWhole whole) :
    ∀ c ∈ whole, 0x20 ≤ c.toNat := isWhole.areDigits.visible

theorem IsFraction.visible {fraction point : List Char} (isFraction : IsFraction fraction point) :
    ∀ c ∈ point, 0x20 ≤ c.toNat := by
  cases isFraction with
  | none => exact fun c => nofun
  | digits areDigits => exact List.forall_mem_cons.mpr ⟨by decide, areDigits.visible⟩

theorem IsExponent.visible {exponent : Option (Bool × List Char)} {power : List Char}
    (isExponent : IsExponent exponent power) : ∀ c ∈ power, 0x20 ≤ c.toNat := by
  have mark_visible : ∀ {mark : Char}, mark = 'e' ∨ mark = 'E' → 0x20 ≤ mark.toNat := by
    rintro mark (rfl | rfl) <;> decide
  cases isExponent with
  | none => exact fun c => nofun
  | plain isMark areDigits =>
      exact List.forall_mem_cons.mpr ⟨mark_visible isMark, areDigits.visible⟩
  | plus isMark areDigits | minus isMark areDigits =>
      exact List.forall_mem_cons.mpr ⟨mark_visible isMark,
        List.forall_mem_cons.mpr ⟨by decide, areDigits.visible⟩⟩

theorem Numeral.IsWritten.isLined {numeral : Numeral} {written : List Char}
    (isWritten : numeral.IsWritten written) : IsLined written := by
  refine .of_line ?_ ?_
  · obtain ⟨c, others, rfl, _⟩ := isWritten.start
    exact List.cons_ne_nil c others
  · cases isWritten with
    | positive isWhole isFraction isExponent =>
        exact List.forall_mem_append.mpr ⟨isWhole.visible,
          List.forall_mem_append.mpr ⟨isFraction.visible, isExponent.visible⟩⟩
    | negative isWhole isFraction isExponent =>
        exact List.forall_mem_cons.mpr ⟨by decide, List.forall_mem_append.mpr ⟨isWhole.visible,
          List.forall_mem_append.mpr ⟨isFraction.visible, isExponent.visible⟩⟩⟩

/-- No character is written as a control. -/
theorem visible_escape (c : Char) : ∀ written ∈ escape c, 0x20 ≤ written.toNat := by
  have digit : ∀ d < 16, 0x20 ≤ (Hexadecimal.digitChar d).toNat := by decide
  unfold escape
  split_ifs with quote backslash b f n r t control
  iterate 7 · simp
  · simp only [List.forall_mem_cons, List.not_mem_nil, false_imp_iff, implies_true, and_true]
    exact ⟨by decide, by decide, by decide, by decide, digit _ (by omega), digit _ (by omega)⟩
  · exact List.forall_mem_singleton.mpr (Nat.le_of_not_lt control)

theorem isLined_spell (text : List Char) : IsLined (spell text) := by
  refine .of_line (List.cons_ne_nil _ _) ?_
  have inside : ∀ c ∈ text.flatMap escape, 0x20 ≤ c.toNat := by
    intro c mem
    obtain ⟨escaped, _, written⟩ := List.mem_flatMap.mp mem
    exact visible_escape escaped c written
  exact List.forall_mem_cons.mpr ⟨by decide,
    List.forall_mem_append.mpr ⟨inside, List.forall_mem_singleton.mpr (by decide)⟩⟩

/-! ## Values -/

namespace Value

mutual

theorem isLined_write : (value : Value) → (depth : Nat) → IsLined (value.write depth)
  | .null, _ => show IsLined "null".toList from .of_line (by simp) (by simp)
  | .bool true, _ => show IsLined "true".toList from .of_line (by simp) (by simp)
  | .bool false, _ => show IsLined "false".toList from .of_line (by simp) (by simp)
  | .number content, _ => content.isWritten_write.isLined
  | .string text, _ => isLined_spell text.toList
  | .array items, depth =>
      isLined_bracketed (by decide) (by decide) depth (isLined_items items (depth + 1))
  | .object members, depth =>
      isLined_bracketed (by decide) (by decide) depth (isLined_members members (depth + 1))

theorem isLined_items : (items : List Value) → (depth : Nat) →
    ∀ line ∈ writeItems depth items, IsLined line
  | [], _ => fun _ => nofun
  | item :: others, depth =>
      List.forall_mem_cons.mpr ⟨isLined_write item depth, isLined_items others depth⟩

theorem isLined_members : (members : List (String × Value)) → (depth : Nat) →
    ∀ line ∈ writeMembers depth members, IsLined line
  | [], _ => fun _ => nofun
  | (name, content) :: others, depth => by
      have separator : IsLined [':', ' '] := .of_line (List.cons_ne_nil _ _) (by simp)
      have written := (isLined_spell name.toList).append
        (separator.append (isLined_write content depth))
      exact List.forall_mem_cons.mpr ⟨written, isLined_members others depth⟩

end

/-- **The text of a value is one of full lines without controls.** -/
theorem isLined_pretty (value : Value) : IsLined value.pretty.toList := by
  rw [pretty, String.toList_ofList]
  exact value.isLined_write 0

end Value

end ElectionReadiness.Json
