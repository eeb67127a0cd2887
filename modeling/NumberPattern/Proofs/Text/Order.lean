import Mathlib.Data.String.Basic

/-! Texts are ordered by their characters. Their encodings, compared byte by byte, have the same order. -/

namespace NumberPattern.Text

/-- The encoded text. -/
def bytes (text : String) : List UInt8 := text.toUTF8.data.toList

theorem bytes_eq (text : String) : bytes text = text.toList.flatMap String.utf8EncodeChar := by
  rw [bytes, String.toUTF8_eq_toByteArray, ← String.utf8Encode_toList, List.utf8Encode,
    List.data_toByteArray]

section
variable {m n : Nat} {text other : List UInt8}

theorem lt_of_first (small : n < 256) (less : m < n) :
    UInt8.ofNat m :: text < UInt8.ofNat n :: other := by
  refine List.cons_lt_cons_iff.mpr (Or.inl ?_)
  rw [UInt8.lt_iff_toNat_lt, UInt8.toNat_ofNat_of_lt' small, UInt8.toNat_ofNat_of_lt' (less.trans small)]
  exact less

theorem lt_of_rest (same : m = n) (less : text < other) :
    UInt8.ofNat m :: text < UInt8.ofNat n :: other :=
  List.cons_lt_cons_iff.mpr (Or.inr ⟨congrArg UInt8.ofNat same, less⟩)

end

/-- The encodings of two characters differ within both of them, and the smaller character has the
smaller byte there. -/
theorem encodeChar_lt {c d : Char} (less : c < d) (text other : List UInt8) :
    String.utf8EncodeChar c ++ text < String.utf8EncodeChar d ++ other := by
  have codes : c.val.toNat < d.val.toNat := less
  have bound : d.val.toNat < 0x110000 := by
    rcases d.valid with below | ⟨_, below⟩
    · exact below.trans (by decide)
    · exact below
  simp only [String.utf8EncodeChar]
  generalize c.val.toNat = m at codes ⊢
  generalize d.val.toNat = n at codes bound ⊢
  split_ifs
  -- The greater character has the longer encoding or one as long. A longer one starts with a greater byte,
  -- two of one length are compared digit by digit in base 64.
  any_goals omega
  any_goals (apply lt_of_first <;> omega)
  · have digits : m / 64 < n / 64 ∨ m / 64 = n / 64 ∧ m % 64 < n % 64 := by omega
    rcases digits with first | ⟨first, second⟩
    · exact lt_of_first (by omega) (by omega)
    · exact lt_of_rest (by omega) (lt_of_first (by omega) (by omega))
  · have digits : m / 4096 < n / 4096 ∨ m / 4096 = n / 4096 ∧
        (m / 64 % 64 < n / 64 % 64 ∨ m / 64 % 64 = n / 64 % 64 ∧ m % 64 < n % 64) := by omega
    rcases digits with first | ⟨first, second | ⟨second, third⟩⟩
    · exact lt_of_first (by omega) (by omega)
    · exact lt_of_rest (by omega) (lt_of_first (by omega) (by omega))
    · exact lt_of_rest (by omega) (lt_of_rest (by omega) (lt_of_first (by omega) (by omega)))
  · have digits : m / 262144 < n / 262144 ∨ m / 262144 = n / 262144 ∧
        (m / 4096 % 64 < n / 4096 % 64 ∨ m / 4096 % 64 = n / 4096 % 64 ∧
          (m / 64 % 64 < n / 64 % 64 ∨ m / 64 % 64 = n / 64 % 64 ∧ m % 64 < n % 64)) := by omega
    rcases digits with first | ⟨first, second | ⟨second, third | ⟨third, fourth⟩⟩⟩
    · exact lt_of_first (by omega) (by omega)
    · exact lt_of_rest (by omega) (lt_of_first (by omega) (by omega))
    · exact lt_of_rest (by omega) (lt_of_rest (by omega) (lt_of_first (by omega) (by omega)))
    · exact lt_of_rest (by omega) (lt_of_rest (by omega)
        (lt_of_rest (by omega) (lt_of_first (by omega) (by omega))))

theorem encode_lt {text other : List Char} (less : text < other) :
    text.flatMap String.utf8EncodeChar < other.flatMap String.utf8EncodeChar := by
  induction less with
  | @nil c other =>
    rw [List.flatMap_nil, List.flatMap_cons]
    cases code : String.utf8EncodeChar c with
    | nil => exact absurd code String.utf8EncodeChar_ne_nil
    | cons byte code => exact List.nil_lt_cons _ _
  | rel less => exact encodeChar_lt less _ _
  | cons less ih => exact List.append_left_lt ih

theorem bytes_lt_iff {text other : String} : bytes text < bytes other ↔ text < other := by
  rw [bytes_eq, bytes_eq]
  refine ⟨fun less => ?_, fun less => encode_lt less⟩
  rcases lt_trichotomy text other with before | rfl | behind
  · exact before
  · exact absurd less (List.lt_irrefl _)
  · exact absurd less (List.lt_asymm (encode_lt behind))

end NumberPattern.Text
