import NumberPattern.Amount
import NumberPattern.Proofs.Token.Brackets

/-! The digits of numbers, and the decimals of a rounded value: they are digits, too, and zeros at their end
are dropped up to a limit. -/

namespace NumberPattern

theorem isDigit_of_mem_digits {n : Nat} {c : Char} (member : c ∈ Decimal.digits n) : c.isDigit = true :=
  Nat.isDigit_of_mem_toDigits (by decide) (by decide) member

theorem isDigit_of_mem_padded {width n : Nat} {c : Char} (member : c ∈ Decimal.padded width n) :
    c.isDigit = true := by
  rcases List.mem_append.mp member with zero | digit
  · rw [(List.mem_replicate.mp zero).2]
    rfl
  · exact isDigit_of_mem_digits digit

namespace Amount

/-- What is left of a text without the longest run of zeros at its end that is within the limit. -/
def Trimmed (limit : Nat) (text left : List Char) : Prop :=
  ∃ zeros ≤ limit, text = left ++ List.replicate zeros '0' ∧ (zeros < limit → left.getLast? ≠ some '0')

theorem trimmed_trimZeros (limit : Nat) (text : List Char) : Trimmed limit text (trimZeros limit text) := by
  let count := Token.zeros text.reverse
  let front := (text.reverse.drop count).reverse
  have split : text = front ++ List.replicate count '0' := by
    have reversed := congrArg List.reverse (Token.replicate_zeros text.reverse)
    rw [List.reverse_append, List.reverse_replicate, List.reverse_reverse] at reversed
    exact reversed.symm
  have length : text.length = front.length + count := by
    rw [split, List.length_append, List.length_replicate]
  have left : trimZeros limit text = front ++ List.replicate (count - min limit count) '0' := by
    have kept : text.length - min limit count = front.length + (count - min limit count) := by omega
    calc
      text.take (text.length - min limit count)
      _ = (front ++ List.replicate count '0').take (front.length + (count - min limit count)) := by
        rw [← split, kept]
      _ = front ++ (List.replicate count '0').take (count - min limit count) :=
        List.take_length_add_append ..
      _ = front ++ List.replicate (count - min limit count) '0' := by
        rw [List.take_replicate, Nat.min_eq_left (Nat.sub_le _ _)]
  refine ⟨min limit count, Nat.min_le_left _ _, ?_, fun short => ?_⟩
  · rw [left, List.append_assoc, List.replicate_append_replicate, Nat.sub_add_cancel (Nat.min_le_right _ _)]
    exact split
  · have all : min limit count = count := by omega
    rw [left, all, Nat.sub_self, List.replicate_zero, List.append_nil, List.getLast?_reverse]
    exact Token.notAt_drop_zeros text.reverse

theorem isDigit_of_mem_fraction {places : Nat} {value : Float} {c : Char}
    (member : c ∈ (Decimal.fixed places value).fraction.toList) : c.isDigit = true := by
  have units (sign : Float.Model.UnpackedFloat.Sign) (units : Nat)
      (member : c ∈ (Decimal.Split.ofUnits sign places units).fraction.toList) : c.isDigit = true := by
    simp only [Decimal.Split.ofUnits, Decimal.fraction, String.toList_ofList] at member
    split at member
    · cases member
    · exact isDigit_of_mem_padded member
  unfold Decimal.fixed at member
  split at member
  · cases member
  · cases member
  · exact units _ _ member
  · exact units _ _ member

end Amount

end NumberPattern
