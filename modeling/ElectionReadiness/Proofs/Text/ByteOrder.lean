import Mathlib.Data.String.Basic
import Mathlib.Tactic.SplitIfs

/-!
# The order of texts is the order of their bytes

Texts are sorted by the bytes of their UTF-8 form, character for character by code point, and
both orders are the same (`Text.bytes_lt_iff`).  It is enough that the bytes of a smaller
character are smaller whatever follows them (`Text.encode_append_lt`): the first byte tells how
many there are, more of them for larger code points, and bytes of the same number are the digits
of the code point, the leading one first.
-/

set_option autoImplicit false

namespace ElectionReadiness.Text

/-- The bytes of a text. -/
def bytes (text : String) : List UInt8 := text.toByteArray.data.toList

theorem bytes_eq (text : String) : bytes text = text.toList.flatMap String.utf8EncodeChar := by
  conv_lhs => rw [bytes, ← String.ofList_toList (s := text), String.toByteArray_ofList]
  simp [List.utf8Encode]

/-- The bytes of a smaller character are smaller, whatever follows. -/
theorem encode_append_lt {c d : Char} (order : c < d) (rest rest' : List UInt8) :
    String.utf8EncodeChar c ++ rest < String.utf8EncodeChar d ++ rest' := by
  have codes : c.val.toNat < d.val.toNat := order
  have bounded : d.val.toNat < 1114112 := by
    rcases d.valid with low | ⟨_, high⟩ <;> omega
  have twice (n : Nat) : n / 4096 = n / 64 / 64 := by omega
  have thrice (n : Nat) : n / 262144 = n / 64 / 64 / 64 := by omega
  simp only [String.utf8EncodeChar, twice, thrice]
  split_ifs
  all_goals
    simp only [List.cons_append, List.nil_append, List.cons_lt_cons_iff, UInt8.lt_iff_toNat_lt,
      ← UInt8.toNat_inj, UInt8.toNat_ofNat']
    omega

theorem encode_lt {one other : List Char} (order : one < other) :
    one.flatMap String.utf8EncodeChar < other.flatMap String.utf8EncodeChar := by
  induction order with
  | @nil c later =>
      obtain ⟨first, others, encoded⟩ :=
        List.exists_cons_of_ne_nil (String.utf8EncodeChar_ne_nil (c := c))
      rw [List.flatMap_cons, encoded]
      exact .nil
  | cons _ ih =>
      rw [List.flatMap_cons, List.flatMap_cons]
      exact List.append_left_lt ih
  | rel first =>
      rw [List.flatMap_cons, List.flatMap_cons]
      exact encode_append_lt first _ _

theorem bytes_lt {one other : String} (order : one < other) : bytes one < bytes other := by
  rw [bytes_eq, bytes_eq]
  exact encode_lt (String.lt_iff_toList_lt.mp order)

/-- **Texts are ordered by their bytes.** -/
theorem bytes_lt_iff {one other : String} : bytes one < bytes other ↔ one < other := by
  constructor
  · intro less
    rcases lt_trichotomy one other with before | same | behind
    · exact before
    · rw [same] at less
      exact absurd less (List.lt_irrefl _)
    · exact absurd less (List.lt_asymm (bytes_lt behind))
  · exact bytes_lt

theorem bytes_le_iff {one other : String} : bytes one ≤ bytes other ↔ one ≤ other := by
  rw [← List.not_lt, bytes_lt_iff, not_lt]

end ElectionReadiness.Text
