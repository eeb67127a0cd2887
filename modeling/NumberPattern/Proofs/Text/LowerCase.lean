import NumberPattern.Text.LowerCase

/-! A text in lower case stays as it is when it is lower-cased again: no run of the case table covers an
image of another run, and the characters with a mapping of their own end up outside all runs. -/

namespace NumberPattern.Text

namespace CaseRun

def firstImage (run : CaseRun) : Nat := (run.first + run.shift).toNat

def lastImage (run : CaseRun) : Nat := (run.last + run.shift).toNat

/-- The images of the run lie outside the other run, or between its steps. The comparisons are those that
evaluate fastest, as every run is held against every other one. -/
def misses (run other : CaseRun) : Bool :=
  Nat.blt run.lastImage other.first || Nat.blt other.last run.firstImage ||
    0 < run.firstImage && other.step == 2 && (run.step == 2 || run.first == run.last) &&
      (run.firstImage + other.first) % 2 == 1

theorem not_covers_image {run other : CaseRun} {code : Nat} (missed : run.misses other = true)
    (covered : run.covers code = true) : other.covers (code + run.shift).toNat = false := by
  simp only [covers, Bool.and_eq_true, decide_eq_true_eq, beq_iff_eq] at covered
  obtain ⟨⟨least, most⟩, aligned⟩ := covered
  rw [← Bool.not_eq_true]
  intro covered'
  simp only [covers, Bool.and_eq_true, decide_eq_true_eq, beq_iff_eq] at covered'
  obtain ⟨⟨least', most'⟩, aligned'⟩ := covered'
  simp only [misses, Bool.or_eq_true, Bool.and_eq_true, Nat.blt_eq, decide_eq_true_eq, beq_iff_eq] at missed
  simp only [firstImage, lastImage] at missed
  rcases missed with (above | below) | ⟨⟨⟨positive, pairs⟩, stepped | alone⟩, odd⟩
  · omega
  · omega
  · rw [stepped] at aligned
    rw [pairs] at aligned'
    omega
  · rw [pairs] at aligned'
    omega

end CaseRun

/-- The dotted capital I, which is lower-cased apart from the runs. -/
def dotted : CaseRun := ⟨304, 304, 1, 0⟩

theorem images_missed : (caseRuns.all fun run => (dotted :: caseRuns).all run.misses) = true := by
  decide +kernel

/-- The character is in lower case or has no case. -/
def Settled (c : Char) : Prop := ∀ run ∈ dotted :: caseRuns, run.covers c.toNat = false

instance (c : Char) : Decidable (Settled c) :=
  decidable_of_iff (((dotted :: caseRuns).all fun run => !run.covers c.toNat) = true)
    (by simp only [List.all_eq_true, Bool.not_eq_true', Settled])

theorem settled_zero : Settled '\x00' := by decide +kernel

theorem toNat_ofNat (code : Nat) : (Char.ofNat code).toNat = code ∨ Char.ofNat code = '\x00' := by
  by_cases valid : code.isValidChar
  · left
    rw [Char.ofNat, dif_pos valid]
    rfl
  · right
    rw [Char.ofNat, dif_neg valid]
    rfl

theorem eq_dotted {c : Char} (covered : dotted.covers c.toNat = true) : c = 'İ' := by
  simp only [CaseRun.covers, Bool.and_eq_true, decide_eq_true_eq] at covered
  have code : c.toNat = 304 := Nat.le_antisymm covered.1.2 covered.1.1
  rw [← Char.ofNat_toNat c, code]

theorem settled_lowerChar {c : Char} (plain : c ≠ 'İ') : Settled (lowerChar c) := by
  unfold lowerChar
  split
  next run found =>
    intro other member
    have covered : run.covers c.toNat = true := by simpa using List.find?_some found
    have missed := List.all_eq_true.mp images_missed run (List.mem_of_find?_eq_some found)
    have image := CaseRun.not_covers_image (List.all_eq_true.mp missed other member) covered
    rcases toNat_ofNat (c.toNat + run.shift).toNat with same | invalid
    · rw [same]
      exact image
    · rw [invalid]
      exact settled_zero other member
  next absent =>
    refine List.forall_mem_cons.mpr ⟨?_, fun other member => ?_⟩
    · exact Bool.eq_false_iff.mpr fun covered => plain (eq_dotted covered)
    · simpa using List.find?_eq_none.mp absent other member

theorem settled_of_mem_lowerBetween {before after : List Char} {c d : Char}
    (member : d ∈ lowerBetween before c after) : Settled d := by
  unfold lowerBetween at member
  split at member
  · have small : Settled 'i' ∧ Settled '\u0307' := by decide +kernel
    simp only [List.mem_cons, List.not_mem_nil, or_false] at member
    rcases member with rfl | rfl
    · exact small.1
    · exact small.2
  · have small : Settled 'ς' ∧ Settled 'σ' := by decide +kernel
    split at member
    · exact List.mem_singleton.mp member ▸ small.1
    · exact List.mem_singleton.mp member ▸ small.2
  next plain _ => exact List.mem_singleton.mp member ▸ settled_lowerChar plain

theorem lowerChar_of_settled {c : Char} (settled : Settled c) : lowerChar c = c := by
  have absent : caseRuns.find? (·.covers c.toNat) = none :=
    List.find?_eq_none.mpr fun run member => by simp [settled run (List.mem_cons_of_mem _ member)]
  rw [lowerChar, absent]

theorem lowerBetween_of_settled {before after : List Char} {c : Char} (settled : Settled c) :
    lowerBetween before c after = [c] := by
  unfold lowerBetween
  split
  · exact absurd settled (by decide)
  · exact absurd settled (by decide)
  · rw [lowerChar_of_settled settled]

theorem settled_of_mem_lowerFrom {before text : List Char} : ∀ c ∈ lowerFrom before text, Settled c := by
  induction text generalizing before with
  | nil => simp [lowerFrom]
  | cons c text ih =>
    rw [lowerFrom]
    exact List.forall_mem_append.mpr ⟨fun d member => settled_of_mem_lowerBetween member, ih⟩

theorem lowerFrom_of_settled {before text : List Char} (settled : ∀ c ∈ text, Settled c) :
    lowerFrom before text = text := by
  induction text generalizing before with
  | nil => rfl
  | cons c text ih =>
    obtain ⟨first, rest⟩ := List.forall_mem_cons.mp settled
    rw [lowerFrom, lowerBetween_of_settled first, ih rest, List.singleton_append]

@[simp] theorem lowerCase_lowerCase (text : String) : lowerCase (lowerCase text) = lowerCase text := by
  rw [lowerCase, lowerCase, String.toList_ofList, lowerFrom_of_settled settled_of_mem_lowerFrom]

end NumberPattern.Text
