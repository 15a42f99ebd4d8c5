/-!
# Blank characters

The characters that count as white space in names and in written times: the
`White_Space` property of Unicode, which has no zero width space, no byte order
mark and no information separators.  Trimming takes them off both ends of a
text; `isBlankText` tells the texts of which nothing is left.
-/

set_option autoImplicit false

namespace ElectionReadiness.Text

/-- The `White_Space` property. -/
def isBlank (c : Char) : Bool :=
  let n := c.toNat
  (9 ≤ n && n ≤ 13) || n == 0x20 || n == 0x85 || n == 0xA0 || n == 0x1680
    || (0x2000 ≤ n && n ≤ 0x200A) || n == 0x2028 || n == 0x2029 || n == 0x202F
    || n == 0x205F || n == 0x3000

/-- Takes the blanks off the end. -/
def trimEnd (text : List Char) : List Char :=
  (text.reverse.dropWhile isBlank).reverse

/-- Takes the blanks off both ends. -/
def trim (text : List Char) : List Char :=
  trimEnd (text.dropWhile isBlank)

/-- Nothing but blanks. -/
def isBlankText (text : String) : Bool :=
  text.toList.all isBlank

/-! ## Trimming blanks -/

theorem dropWhile_isBlank_eq_nil_iff {text : List Char} :
    text.dropWhile isBlank = [] ↔ ∀ c ∈ text, isBlank c = true := by
  induction text with
  | nil => simp
  | cons c rest ih =>
    rw [List.dropWhile_cons, List.forall_mem_cons]
    split
    · next blank => simp only [ih, blank, true_and]
    · next shown => simp [shown]

/-- Trimming leaves nothing of blanks, and something of any other text. -/
theorem trim_eq_nil_iff {text : List Char} : trim text = [] ↔ ∀ c ∈ text, isBlank c = true := by
  unfold trim trimEnd
  rw [List.reverse_eq_nil_iff, dropWhile_isBlank_eq_nil_iff]
  simp only [List.mem_reverse]
  constructor
  · intro blank
    rw [← dropWhile_isBlank_eq_nil_iff]
    cases left : text.dropWhile isBlank with
    | nil => rfl
    | cons c rest =>
      have shown := List.head_dropWhile_not isBlank (l := text) (by simp [left])
      have first : isBlank c = true := blank c (by simp [left])
      simp [left, first] at shown
  · intro blank c mem
    exact blank c ((List.dropWhile_suffix isBlank).subset mem)

/-- A text is blank if trimming leaves nothing of it. -/
theorem isBlankText_iff {text : String} : isBlankText text = true ↔ trim text.toList = [] := by
  rw [isBlankText, List.all_eq_true, trim_eq_nil_iff]

end ElectionReadiness.Text
