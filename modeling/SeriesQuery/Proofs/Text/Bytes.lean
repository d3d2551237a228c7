import Mathlib.Tactic.SplitIfs

/-!
The bytes of texts. Texts are in the order of their bytes just when they are in the order of their
characters, because an encoding tells its length by its first byte.
-/

set_option autoImplicit false

namespace SeriesQuery.Text

def bytes (text : String) : List UInt8 := text.toUTF8.data.toList

theorem bytes_eq (text : String) : bytes text = text.toList.flatMap String.utf8EncodeChar := by
  rw [bytes, String.toUTF8_eq_toByteArray, ← String.utf8Encode_toList]
  exact List.toList_data_toByteArray

/-! ## Characters -/

theorem code_lt (c : Char) : c.val.toNat < 0x110000 := by
  rcases c.valid with small | ⟨-, small⟩
  · exact Nat.lt_trans small (by decide)
  · exact small

theorem byte_cons_lt_iff {first second : Nat} (small : first < 256) (otherSmall : second < 256)
    {rest others : List UInt8} :
    UInt8.ofNat first :: rest < UInt8.ofNat second :: others ↔
      first < second ∨ first = second ∧ rest < others := by
  rw [List.cons_lt_cons_iff, UInt8.lt_iff_toNat_lt, ← UInt8.toNat_inj, UInt8.toNat_ofNat',
    UInt8.toNat_ofNat', Nat.mod_eq_of_lt small, Nat.mod_eq_of_lt otherSmall]

theorem utf8EncodeChar_lt {c d : Char} (less : c < d) (rest others : List UInt8) :
    String.utf8EncodeChar c ++ rest < String.utf8EncodeChar d ++ others := by
  have order : c.val.toNat < d.val.toNat := less
  have bound := code_lt d
  have twice (code : Nat) : code / 4096 = code / 64 / 64 :=
    (Nat.div_div_eq_div_mul code 64 64).symm
  have thrice (code : Nat) : code / 262144 = code / 64 / 64 / 64 := by
    rw [← twice, Nat.div_div_eq_div_mul]
  simp only [String.utf8EncodeChar]
  split_ifs
  -- The greater character has no shorter encoding.
  all_goals try omega
  -- First bytes of longer encodings are greater; in those of one length the digits to the base of
  -- 64 are compared.
  all_goals
    simp (disch := omega) only [List.cons_append, List.nil_append, byte_cons_lt_iff, twice, thrice]
    omega

theorem utf8EncodeChar_ne_nil (c : Char) : String.utf8EncodeChar c ≠ [] := by
  intro none
  have size := String.length_utf8EncodeChar c
  rw [none] at size
  exact absurd c.utf8Size_pos (by simp [← size])

/-! ## Texts -/

theorem flatMap_utf8EncodeChar_lt {text other : List Char} (less : text < other) :
    text.flatMap String.utf8EncodeChar < other.flatMap String.utf8EncodeChar := by
  induction less with
  | @nil c rest =>
    obtain ⟨first, others, encoded⟩ := List.exists_cons_of_ne_nil (utf8EncodeChar_ne_nil c)
    rw [List.flatMap_cons, encoded]
    exact List.nil_lt_cons _ _
  | rel order => exact utf8EncodeChar_lt order _ _
  | cons _ ih => exact List.append_left_lt ih

theorem bytes_lt_iff {text other : String} : bytes text < bytes other ↔ text < other := by
  have forwards {text other : String} (less : text < other) : bytes text < bytes other := by
    rw [bytes_eq, bytes_eq]
    exact flatMap_utf8EncodeChar_lt (String.lt_iff.1 less)
  constructor
  · intro less
    by_cases order : text < other
    · exact order
    · rcases Std.le_iff_lt_or_eq.1 (String.not_lt.1 order) with greater | same
      · exact absurd (forwards greater) (List.lt_asymm less)
      · rw [same] at less
        exact absurd less (List.lt_irrefl _)
  · exact forwards

end SeriesQuery.Text
