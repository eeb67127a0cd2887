import NumberPattern.Proofs.Scan.Loop

/-! A compiled plan and the claims on its pattern. -/

namespace NumberPattern.Plan
open Lexicon (standard)
open Scan (Loop)

/-- A compiled plan arranges the claims of its scan, whatever the claimants, their weights and their
fragments are. A cursor of 64 bits comes to the same claims, unless they take more than it can count. -/
theorem compiled_arrangement (lexicon : Lexicon) (serial : Nat) (pattern : String) (plan : Plan)
    (compiled : compile lexicon serial pattern = .ok plan) :
    ∃ claims, scan lexicon pattern = .ok claims ∧ plan.pattern = pattern ∧
      Arranges lexicon serial claims plan ∧ Loop.Makes lexicon pattern claims := by
  obtain ⟨claims, scanned, rfl⟩ := compile_eq_ok_iff.mp compiled
  exact ⟨claims, scanned, rfl, arranges_ofClaims lexicon serial pattern claims, Loop.makes_of_scan scanned⟩

/-- A step lighter than those of all tokens. -/
def lightStep : Step := { action := .literal "x", weight := -3, fragment := some ⟨some 2, none⟩ }

/-- Steps of a further claimant, lighter than all others, run before the integer between them. -/
theorem compiled_arrangement_lighter :
    ∃ plan claims,
      compile ((standard .echo).register (.taking "x" lightStep)) 0 "x0x" = .ok plan ∧
        plan.layout.cells = [0, 2, 1] ∧ plan.layout.claimantCell? ⟨16⟩ = some 0 ∧
        Arranges ((standard .echo).register (.taking "x" lightStep)) 0 claims plan := by
  let lexicon := (standard .echo).register (.taking "x" lightStep)
  let claims : List Claim :=
    [⟨⟨16⟩, lightStep⟩, ⟨⟨7⟩, { action := .integer, weight := Weight.integer }⟩, ⟨⟨16⟩, lightStep⟩]
  have scanned : scan lexicon "x0x" = .ok claims := rfl
  have compiled : compile lexicon 0 "x0x" = .ok (ofClaims lexicon 0 "x0x" claims) :=
    compile_eq_ok_iff.mpr ⟨claims, scanned, rfl⟩
  obtain ⟨found, _, _, arranges, _⟩ := compiled_arrangement lexicon 0 "x0x" _ compiled
  exact ⟨_, found, compiled, rfl, rfl, arranges⟩

end NumberPattern.Plan
