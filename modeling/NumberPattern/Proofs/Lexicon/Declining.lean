import NumberPattern.Proofs.Lexicon.Registration
import NumberPattern.Proofs.Lexicon.TokensOnly

/-! Registering claimants that always decline. Each of them is asked wherever one of its triggers stands,
so that unclaimed text stops there, but what is claimed stays the same. -/

namespace NumberPattern

/-- The claimant never takes anything. -/
def Claimant.AlwaysDeclines (claimant : Claimant) : Prop :=
  ∀ id tally site, claimant.claim id tally site = .ok none

/-- A claimant that looks at its triggers and leaves them. -/
def Claimant.declining (triggers : String) (priority : Int) : Claimant where
  triggers := triggers
  priority := priority
  claim := fun _ _ _ => .ok none

theorem Claimant.alwaysDeclines_declining (triggers : String) (priority : Int) :
    (declining triggers priority).AlwaysDeclines := fun _ _ _ => rfl

namespace Lexicon

variable {entry : Entry} {tally : Tally} {site : Site}

/-- Wherever its priority puts it, an entry that declines is passed over. -/
theorem firstClaim_place (declines : entry.claimant.AlwaysDeclines) (entries : List Entry) :
    firstClaim tally site (place entry entries) = firstClaim tally site entries := by
  induction entries with
  | nil => exact firstClaim_skip (declines entry.id tally site)
  | cons other entries ih =>
    rw [place]
    split
    · exact firstClaim_skip (declines entry.id tally site)
    · rw [firstClaim, firstClaim, ih]

variable {lexicon : Lexicon} {claimant : Claimant} {claimants : List Claimant}

theorem firstClaim_register (declines : claimant.AlwaysDeclines) (c : Char) :
    firstClaim tally site ((lexicon.register claimant).called c) =
      firstClaim tally site (lexicon.called c) := by
  rw [called_register]
  split
  · exact firstClaim_place declines _
  · rfl

/-- Claimants that always decline leave all claims to the standard tokens. -/
theorem TokensOnly.registerAll (only : lexicon.TokensOnly)
    (decline : ∀ claimant ∈ claimants, claimant.AlwaysDeclines) :
    (lexicon.registerAll claimants).TokensOnly := by
  induction claimants generalizing lexicon with
  | nil => exact only
  | cons claimant claimants ih =>
    obtain ⟨first, others⟩ := List.forall_mem_cons.mp decline
    refine @ih (lexicon.register claimant) ⟨only.tokens, fun c tally site => ?_⟩ others
    rw [firstClaim_register first, only.firstClaim]

end Lexicon

end NumberPattern
