import ElectionReadiness.Proofs.Json.WrittenToken
import ElectionReadiness.Text.Scan
import Mathlib.Data.List.Basic
import Mathlib.Data.List.TakeWhile

/-!
# Scans that read what is spelled

A grammar says which texts spell which values.  A scan reads a part of a text as a grammar
spells it if what it takes is spelled so, and if it takes all of what is spelled wherever
neither blanks nor a number go on (`Scan.Reads`).  A scan of numbers may be put among blanks
(`Scan.reads_afterBlanks`, `Scan.reads_amidBlanks`), and parts with marks between them read as
their grammars in a row (`Scan.then_mark_iff`, `Scan.last_iff`).
-/

set_option autoImplicit false

namespace ElectionReadiness

open Json (AreDigits NoDigitFirst)

/-! ## Texts among blanks -/

namespace Text

/-- Nothing but blanks. -/
def AllBlank (text : List Char) : Prop := ∀ c ∈ text, isBlank c = true

/-- A text that is spelled so, with blanks before it. -/
inductive BlanksBefore {α : Type} (spells : List Char → α → Prop) : List Char → α → Prop
  | blanks {before text : List Char} {value : α} (blankBefore : AllBlank before)
      (spelled : spells text value) : BlanksBefore spells (before ++ text) value

/-- A text that is spelled so, with blanks before and after it. -/
inductive BlanksAround {α : Type} (spells : List Char → α → Prop) : List Char → α → Prop
  | blanks {before text after : List Char} {value : α} (blankBefore : AllBlank before)
      (spelled : spells text value) (blankAfter : AllBlank after) :
      BlanksAround spells (before ++ (text ++ after)) value

theorem allBlank_nil : AllBlank [] := fun _ absent => nomatch absent

/-- What is spelled is spelled among blanks, even if there are none. -/
theorem blanksBefore_of_spelled {α : Type} {spells : List Char → α → Prop} {text : List Char}
    {value : α} (spelled : spells text value) : BlanksBefore spells text value := by
  simpa using BlanksBefore.blanks allBlank_nil spelled

theorem blanksAround_of_blanksBefore {α : Type} {spells : List Char → α → Prop}
    {text : List Char} {value : α} (spelled : BlanksBefore spells text value) :
    BlanksAround spells text value := by
  obtain ⟨blank, inside⟩ := spelled
  simpa using BlanksAround.blanks blank inside allBlank_nil

/-! ## Trimmed texts -/

/-- No blank comes first. -/
def NoBlankFirst (rest : List Char) : Prop := ∀ c ∈ rest.head?, isBlank c = false

instance (rest : List Char) : Decidable (NoBlankFirst rest) :=
  decidable_of_iff (rest.head?.all (fun c => !isBlank c) = true)
    (by cases rest <;> simp [NoBlankFirst])

theorem NoBlankFirst.append {text : List Char} (first : NoBlankFirst text) (nonempty : text ≠ [])
    (rest : List Char) : NoBlankFirst (text ++ rest) := by
  intro c mem
  rw [List.head?_append_of_ne_nil _ nonempty] at mem
  exact first c mem

theorem NoBlankFirst.dropWhile_eq {text : List Char} (first : NoBlankFirst text) :
    text.dropWhile isBlank = text := by
  cases text with
  | nil => rfl
  | cons c others => rw [List.dropWhile_cons, first c rfl]; rfl

/-- A text is trimmed if it neither starts nor ends with a blank. -/
theorem trim_eq_self {text : List Char} (first : NoBlankFirst text)
    (last : NoBlankFirst text.reverse) : trim text = text := by
  rw [trim, first.dropWhile_eq, trimEnd, last.dropWhile_eq, List.reverse_reverse]

/-- A trimmed text does not start with a blank. -/
theorem noBlankFirst_of_trim {text : List Char} (trimmed : trim text = text) :
    NoBlankFirst text := by
  rintro c first
  cases text with
  | nil => cases first
  | cons _ others =>
      cases first
      by_contra blank
      rw [Bool.not_eq_false] at blank
      have shorter : (trim (c :: others)).length ≤ others.length := by
        rw [trim, trimEnd, List.dropWhile_cons_of_pos blank, List.length_reverse]
        calc _ ≤ (others.dropWhile isBlank).reverse.length := (List.dropWhile_suffix _).length_le
          _ ≤ others.length := by
            rw [List.length_reverse]
            exact (List.dropWhile_suffix _).length_le
      rw [trimmed, List.length_cons] at shorter
      omega

end Text

open Text (AllBlank BlanksBefore BlanksAround NoBlankFirst)

/-! ## Scans that read what is spelled -/

namespace Scan

variable {α β : Type}

theorem bind_eq_some_iff {scan : Scan α} {next : α → Scan β} {text rest : List Char} {b : β} :
    (scan >>= next) text = some (b, rest) ↔
      ∃ a left, scan text = some (a, left) ∧ next a left = some (b, rest) := by
  have unfolded : (scan >>= next) text = (scan text).bind fun (a, left) => next a left := rfl
  rw [unfolded, Option.bind_eq_some_iff]
  exact ⟨fun ⟨⟨a, left⟩, read, later⟩ => ⟨a, left, read, later⟩,
    fun ⟨a, left, read, later⟩ => ⟨(a, left), read, later⟩⟩

theorem mark_eq_some_iff {c : Char} {text rest : List Char} {done : Unit} :
    mark c text = some (done, rest) ↔ text = c :: rest := by
  cases text with
  | nil => simp [mark]
  | cons first others =>
      simp only [mark, List.cons.injEq]
      split
      · next same => simp [same]
      · next other => simp [other]

theorem all?_eq_some_iff {scan : Scan α} {text : List Char} {a : α} :
    scan.all? text = some a ↔ scan text = some (a, []) := by
  unfold all?
  split
  · next result read => simp [read]
  · next partly => exact ⟨(nomatch ·), fun read => absurd read (partly a)⟩

/-- A number does not go on. -/
def EndsNumber (rest : List Char) : Prop :=
  ∀ c ∈ rest.head?, Decimal.isDigit c = false ∧ c ≠ '.'

/-- A scan reads numbers as they are spelled.  They start without blanks, and end where the
text does not go on as a number. -/
structure ReadsNumber (scan : Scan α) (spells : List Char → α → Prop) : Prop where
  sound : ∀ {text rest : List Char} {a : α}, scan text = some (a, rest) →
    ∃ piece, text = piece ++ rest ∧ spells piece a
  complete : ∀ {piece rest : List Char} {a : α}, spells piece a → EndsNumber rest →
    scan (piece ++ rest) = some (a, rest)
  start : ∀ {piece : List Char} {a : α}, spells piece a → ∀ rest, NoBlankFirst (piece ++ rest)

/-- A scan reads a part of a text as it is spelled, if neither blanks nor a number go on. -/
structure Reads (scan : Scan α) (spells : List Char → α → Prop) : Prop where
  sound : ∀ {text rest : List Char} {a : α}, scan text = some (a, rest) →
    ∃ piece, text = piece ++ rest ∧ spells piece a
  complete : ∀ {piece rest : List Char} {a : α}, spells piece a → NoBlankFirst rest →
    EndsNumber rest → scan (piece ++ rest) = some (a, rest)

/-! ## Blanks -/

theorem blanks_eq_some {text rest : List Char} {done : Unit}
    (skipped : blanks text = some (done, rest)) :
    ∃ before, text = before ++ rest ∧ AllBlank before := by
  cases skipped
  exact ⟨text.takeWhile Text.isBlank, List.takeWhile_append_dropWhile.symm,
    fun c mem => List.mem_takeWhile_imp mem⟩

theorem blanks_append {before rest : List Char} (blank : AllBlank before)
    (stops : NoBlankFirst rest) : blanks (before ++ rest) = some ((), rest) := by
  rw [blanks, List.dropWhile_append_of_pos blank, stops.dropWhile_eq]

theorem not_digit_of_isBlank {c : Char} (blank : Text.isBlank c = true) :
    Decimal.isDigit c = false ∧ c ≠ '.' := by
  constructor
  · by_contra digit
    rw [Bool.not_eq_false, Decimal.isDigit, Bool.and_eq_true, decide_eq_true_eq,
      decide_eq_true_eq] at digit
    have above : '0'.toNat ≤ c.toNat := digit.1
    have below : c.toNat ≤ '9'.toNat := digit.2
    have zero : '0'.toNat = 48 := rfl
    have nine : '9'.toNat = 57 := rfl
    simp only [Text.isBlank, Bool.or_eq_true, Bool.and_eq_true, decide_eq_true_eq,
      beq_iff_eq] at blank
    omega
  · rintro rfl
    exact absurd blank (by decide)

theorem EndsNumber.blanks {after rest : List Char} (blank : AllBlank after)
    (ends : EndsNumber rest) : EndsNumber (after ++ rest) := by
  cases after with
  | nil => exact ends
  | cons c others =>
      rintro _ ⟨⟩
      exact not_digit_of_isBlank (blank c (List.mem_cons_self ..))

/-- A scan with blanks before. -/
def afterBlanks (scan : Scan α) : Scan α := do
  blanks
  scan

/-- A scan with blanks before and after. -/
def amidBlanks (scan : Scan α) : Scan α := do
  blanks
  let a ← scan
  blanks
  pure a

theorem reads_afterBlanks {scan : Scan α} {spells : List Char → α → Prop}
    (reads : scan.ReadsNumber spells) : (afterBlanks scan).Reads (BlanksBefore spells) where
  sound := by
    intro text rest a scanned
    obtain ⟨_, _, skipped, read⟩ := bind_eq_some_iff.mp scanned
    obtain ⟨before, rfl, blank⟩ := blanks_eq_some skipped
    obtain ⟨piece, rfl, spelled⟩ := reads.sound read
    exact ⟨before ++ piece, (List.append_assoc ..).symm, .blanks blank spelled⟩
  complete := by
    rintro _ rest a ⟨blank, spelled⟩ _ ends
    rw [List.append_assoc]
    exact bind_eq_some_iff.mpr ⟨(), _, blanks_append blank (reads.start spelled rest),
      reads.complete spelled ends⟩

theorem reads_amidBlanks {scan : Scan α} {spells : List Char → α → Prop}
    (reads : scan.ReadsNumber spells) : (amidBlanks scan).Reads (BlanksAround spells) where
  sound := by
    intro text rest a scanned
    obtain ⟨_, _, skipped, later⟩ := bind_eq_some_iff.mp scanned
    obtain ⟨before, rfl, blank⟩ := blanks_eq_some skipped
    obtain ⟨_, _, read, last⟩ := bind_eq_some_iff.mp later
    obtain ⟨piece, rfl, spelled⟩ := reads.sound read
    obtain ⟨_, _, skippedLast, done⟩ := bind_eq_some_iff.mp last
    cases done
    obtain ⟨after, rfl, blankAfter⟩ := blanks_eq_some skippedLast
    exact ⟨before ++ (piece ++ after), by simp, .blanks blank spelled blankAfter⟩
  complete := by
    rintro _ rest a ⟨blank, spelled, blankAfter⟩ stops ends
    rw [List.append_assoc, List.append_assoc]
    refine bind_eq_some_iff.mpr ⟨(), _, blanks_append blank (reads.start spelled _), ?_⟩
    refine bind_eq_some_iff.mpr ⟨a, _, reads.complete spelled (ends.blanks blankAfter), ?_⟩
    exact bind_eq_some_iff.mpr ⟨(), _, blanks_append blankAfter stops, rfl⟩

/-! ## Parts in a row -/

/-- A mark after which neither blanks nor a number go on. -/
def IsMark (c : Char) : Prop :=
  Text.isBlank c = false ∧ Decimal.isDigit c = false ∧ c ≠ '.'

instance (c : Char) : Decidable (IsMark c) := inferInstanceAs (Decidable (_ ∧ _ ∧ _))

/-- A part, a mark and what follows it. -/
theorem then_mark_iff {scan : Scan α} {spells : List Char → α → Prop} (reads : scan.Reads spells)
    {c : Char} (isMark : IsMark c) {next : α → Scan β} {text rest : List Char} {b : β} :
    (scan >>= fun a => mark c >>= fun _ => next a) text = some (b, rest) ↔
      ∃ piece a left, text = piece ++ c :: left ∧ spells piece a ∧
        next a left = some (b, rest) := by
  simp only [bind_eq_some_iff, mark_eq_some_iff]
  constructor
  · rintro ⟨a, _, read, _, left, rfl, later⟩
    obtain ⟨piece, rfl, spelled⟩ := reads.sound read
    exact ⟨piece, a, left, rfl, spelled, later⟩
  · rintro ⟨piece, a, left, rfl, spelled, later⟩
    refine ⟨a, c :: left, reads.complete spelled ?_ ?_, (), left, rfl, later⟩
    · rintro _ ⟨⟩
      exact isMark.1
    · rintro _ ⟨⟩
      exact isMark.2

/-- A last part. -/
theorem last_iff {scan : Scan α} {spells : List Char → α → Prop} (reads : scan.Reads spells)
    {result : α → β} {text : List Char} {b : β} :
    (scan >>= fun a => pure (result a)) text = some (b, []) ↔
      ∃ a, spells text a ∧ result a = b := by
  simp only [bind_eq_some_iff]
  constructor
  · rintro ⟨a, _, read, done⟩
    cases done
    obtain ⟨piece, rfl, spelled⟩ := reads.sound read
    exact ⟨a, by rwa [List.append_nil], rfl⟩
  · rintro ⟨a, spelled, rfl⟩
    refine ⟨a, [], ?_, rfl⟩
    rw [← List.append_nil text]
    exact reads.complete spelled (fun _ absent => nomatch absent) (fun _ absent => nomatch absent)

/-! ## Numbers -/

theorem EndsNumber.noDigitFirst {rest : List Char} (ends : EndsNumber rest) :
    NoDigitFirst rest := fun c first => (ends c first).1

theorem takeWhile_take_eq_nil {rest : List Char} (stops : NoDigitFirst rest) (count : Nat) :
    (rest.take count).takeWhile Decimal.isDigit = [] := by
  cases rest with
  | nil => simp
  | cons c others =>
      cases count with
      | zero => rfl
      | succ count => rw [List.take_succ_cons, List.takeWhile_cons, stops c rfl]; rfl

/-- Digits are all that is taken before a text that starts without one. -/
theorem span_digits_append {digits rest : List Char} (areDigits : AreDigits digits)
    (stops : NoDigitFirst rest) :
    (digits ++ rest).takeWhile Decimal.isDigit = digits ∧
      (digits ++ rest).dropWhile Decimal.isDigit = rest := by
  have scanned := Json.scanDigits?_append areDigits stops
  unfold Json.scanDigits? at scanned
  split at scanned
  · cases scanned
  · rw [Option.some.injEq, Prod.mk.injEq] at scanned
    exact scanned

/-- Digits start with a digit. -/
theorem exists_cons_of_areDigits {digits : List Char} (areDigits : AreDigits digits) :
    ∃ c others, digits = c :: others ∧ Decimal.isDigit c = true := by
  obtain ⟨c, others, rfl⟩ := List.exists_cons_of_ne_nil areDigits.nonempty
  exact ⟨c, others, rfl, areDigits.all_digits c (List.mem_cons_self ..)⟩

theorem noBlankFirst_of_isDigit {c : Char} (digit : Decimal.isDigit c = true)
    (rest : List Char) : NoBlankFirst (c :: rest) := by
  rintro _ ⟨⟩
  by_contra blank
  rw [Bool.not_eq_false] at blank
  rw [(not_digit_of_isBlank blank).1] at digit
  cases digit

theorem noBlankFirst_of_areDigits {digits : List Char} (areDigits : AreDigits digits)
    (rest : List Char) : NoBlankFirst (digits ++ rest) := by
  obtain ⟨c, others, rfl, digit⟩ := exists_cons_of_areDigits areDigits
  exact noBlankFirst_of_isDigit digit _

theorem number_eq_some {most n : Nat} {text rest : List Char}
    (read : number most text = some (n, rest)) :
    ∃ digits, text = digits ++ rest ∧ AreDigits digits ∧ digits.length ≤ most ∧
      Decimal.value digits = n := by
  unfold number at read
  split at read
  · cases read
  · next written nonempty =>
    cases read
    have first : (text.take most).takeWhile Decimal.isDigit <+: text :=
      (List.takeWhile_prefix _).trans (List.take_prefix ..)
    refine ⟨_, (List.prefix_iff_eq_append.mp first).symm, ⟨nonempty, ?_⟩, ?_, rfl⟩
    · exact fun c mem => List.mem_takeWhile_imp mem
    · have short := (List.takeWhile_prefix (l := text.take most) Decimal.isDigit).length_le
      exact Nat.le_trans short (List.length_take_le ..)

theorem number_append {most : Nat} {digits rest : List Char} (areDigits : AreDigits digits)
    (short : digits.length ≤ most) (stops : NoDigitFirst rest) :
    number most (digits ++ rest) = some (Decimal.value digits, rest) := by
  have taken : ((digits ++ rest).take most).takeWhile Decimal.isDigit = digits := by
    rw [List.take_append, List.take_of_length_le short,
      List.takeWhile_append_of_pos areDigits.all_digits, takeWhile_take_eq_nil stops,
      List.append_nil]
  unfold number
  rw [taken]
  split
  · exact absurd rfl areDigits.nonempty
  · rw [List.drop_left]

theorem longNumber_eq_some {n : Nat} {text rest : List Char}
    (read : longNumber text = some (n, rest)) :
    ∃ digits, text = digits ++ rest ∧ AreDigits digits ∧ Decimal.value digits = n := by
  unfold longNumber at read
  split at read
  · cases read
  · next written nonempty =>
    cases read
    exact ⟨_, List.takeWhile_append_dropWhile.symm,
      ⟨nonempty, fun c mem => List.mem_takeWhile_imp mem⟩, rfl⟩

theorem longNumber_append {digits rest : List Char} (areDigits : AreDigits digits)
    (stops : NoDigitFirst rest) :
    longNumber (digits ++ rest) = some (Decimal.value digits, rest) := by
  obtain ⟨taken, dropped⟩ := span_digits_append areDigits stops
  unfold longNumber
  rw [taken, dropped]
  split
  · exact absurd rfl areDigits.nonempty
  · rfl

end Scan

end ElectionReadiness
