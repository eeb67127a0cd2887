import Mathlib.Order.Bounds.Defs
import NumberPattern.Proofs.Plan.Order

/-! A plan as the arrangement of the claims on its pattern, whatever lexicon made them: a stable order by
weight for the steps, the order of the text for the cells, and the last word for each option. -/

namespace NumberPattern
open Lexicon (standard)

/-- A claimant that takes each of its triggers with the same step. -/
def Claimant.taking (triggers : String) (step : Step) : Claimant where
  triggers := triggers
  claim := fun _ _ _ => .ok (some step)

/-- When fragments are merged one after the other, the last value of a field wins. -/
theorem Precision.merged_field (field : Precision → Option Nat)
    (merged : ∀ precision fragment : Precision,
      field (precision.merge fragment) = (field fragment).or (field precision))
    (fragments : List Precision) (precision : Precision) :
    field (fragments.foldl merge precision) = (fragments.filterMap field).getLast?.or (field precision) := by
  induction fragments generalizing precision with
  | nil => rfl
  | cons fragment fragments ih =>
    rw [List.foldl_cons, ih, merged, List.filterMap_cons]
    cases field fragment with
    | none => rfl
    | some value => cases found : (fragments.filterMap field).getLast? <;> simp [List.getLast?_cons, found]

namespace Layout
variable {κ : Type} [DecidableEq κ]

/-- The cell found for a key is the least one that has the key. -/
theorem lookup_firstCells_eq_some {keys : List (Option κ)} {key : κ} {cell : Nat} :
    (firstCells keys).lookup key = some cell ↔ IsLeast {cell | keys[cell]? = some (some key)} cell := by
  rw [lookup_firstCells, List.findIdx?_eq_some_iff_getElem]
  constructor
  · rintro ⟨inside, own, first⟩
    refine ⟨by simpa [inside] using own, fun other found => ?_⟩
    obtain ⟨within, same⟩ := List.getElem?_eq_some_iff.mp found
    by_contra earlier
    exact first other (by omega) (by simpa using same)
  · rintro ⟨found, least⟩
    obtain ⟨inside, own⟩ := List.getElem?_eq_some_iff.mp found
    refine ⟨inside, by simpa using own, fun other earlier => ?_⟩
    intro same
    have within : other < keys.length := by omega
    have := least (show keys[other]? = some (some key) by simpa [within] using same)
    omega

theorem lookup_firstCells_eq_none {keys : List (Option κ)} {key : κ} :
    (firstCells keys).lookup key = none ↔ some key ∉ keys := by
  rw [lookup_firstCells, List.findIdx?_eq_none_iff]
  simp only [decide_eq_false_iff_not]
  exact ⟨fun never member => never _ member rfl, fun absent other member same => absent (same ▸ member)⟩

end Layout

namespace Plan

/-- Of two claims the first is lighter, or it is as light and stands before the other in the text. -/
def Precedes (item other : Claim × Nat) : Prop :=
  item.1.step.weight < other.1.step.weight ∨
    item.1.step.weight = other.1.step.weight ∧ item.2 < other.2

variable {item : Claim × Nat} {items : List (Claim × Nat)}

/-- A claim from further left goes before all that are not lighter. -/
theorem insertByWeight_precedes (leftmost : ∀ other ∈ items, item.2 < other.2)
    (sorted : items.Pairwise Precedes) : (insertByWeight item items).Pairwise Precedes := by
  induction items with
  | nil => exact List.pairwise_singleton _ _
  | cons other items ih =>
    obtain ⟨first, rest⟩ := List.pairwise_cons.mp sorted
    obtain ⟨left, leftmost⟩ := List.forall_mem_cons.mp leftmost
    rw [insertByWeight]
    split
    next light =>
      refine List.pairwise_cons.mpr ⟨List.forall_mem_cons.mpr ⟨?_, fun third member => ?_⟩, sorted⟩
      · exact (Int.lt_or_eq_of_le light).imp_right fun same => ⟨same, left⟩
      · have lighter : other.1.step.weight ≤ third.1.step.weight :=
          (first third member).elim Int.le_of_lt fun level => Int.le_of_eq level.1
        exact (Int.lt_or_eq_of_le (Int.le_trans light lighter)).imp_right fun same =>
          ⟨same, leftmost third member⟩
    next heavy =>
      refine List.pairwise_cons.mpr ⟨fun third member => ?_, ih leftmost rest⟩
      rw [insertByWeight_eq] at member
      rcases List.mem_cons.mp ((List.perm_orderedInsert _ _ _).mem_iff.mp member) with rfl | member
      · exact Or.inl (Int.not_le.mp heavy)
      · exact first third member

/-- Sorting by weight keeps the order of the text among claims of one weight. -/
theorem arrange_precedes (increasing : items.Pairwise fun item other => item.2 < other.2) :
    (arrange items).Pairwise Precedes := by
  induction items with
  | nil => exact List.Pairwise.nil
  | cons item items ih =>
    obtain ⟨first, rest⟩ := List.pairwise_cons.mp increasing
    refine insertByWeight_precedes (fun other member => ?_) (ih rest)
    exact first other ((arrange_perm items).mem_iff.mp member)

/-- How a plan arranges the claims on its pattern. -/
structure Arranges (lexicon : Lexicon) (serial : Nat) (claims : List Claim) (plan : Plan) : Prop where
  /-- The cells of the steps are the positions of the claims in the text, each once. -/
  cells : plan.layout.cells.Perm (List.range claims.length)
  length : plan.steps.length = plan.layout.size
  /-- Each step does what the claim at its cell says, and belongs to the claimant of that claim. -/
  step : ∀ index cell step, plan.layout.stepCell? index = some cell → plan.steps[index]? = some step →
    ∃ claim, claims[cell]? = some claim ∧ step.action = claim.step.action.placed serial cell ∧
      step.weight = claim.step.weight ∧ step.claimant = claim.claimant
  /-- Lighter steps run first, steps of one weight in the order of the text. -/
  order : plan.program.Pairwise fun item other =>
    item.1.weight < other.1.weight ∨ item.1.weight = other.1.weight ∧ item.2 < other.2
  claimant : ∀ id cell, plan.layout.claimantCell? id = some cell ↔
    IsLeast {cell | ∃ claim, claims[cell]? = some claim ∧ claim.claimant = id} cell
  noClaimant : ∀ id, plan.layout.claimantCell? id = none ↔ ∀ claim ∈ claims, claim.claimant ≠ id
  token : ∀ token cell, plan.layout.tokenCell? token = some cell ↔
    IsLeast {cell | ∃ claim, claims[cell]? = some claim ∧ lexicon.token? claim.claimant = some token} cell
  noToken : ∀ token, plan.layout.tokenCell? token = none ↔
    ∀ claim ∈ claims, lexicon.token? claim.claimant ≠ some token
  /-- The fragments are merged in the order of the text, whatever the weights. -/
  places : plan.precision.places = ((claims.filterMap (·.step.fragment)).filterMap (·.places)).getLast?
  optional : plan.precision.optional =
    ((claims.filterMap (·.step.fragment)).filterMap (·.optional)).getLast?

variable {lexicon : Lexicon} {serial : Nat} {pattern : String} {claims : List Claim}

theorem cells_ofClaims :
    (ofClaims lexicon serial pattern claims).layout.cells.Perm (List.range claims.length) := by
  have cells := (arrange_perm claims.zipIdx).map Prod.snd
  rwa [List.zipIdx_map_snd, ← List.range_eq_range'] at cells

theorem cells_program :
    ((ofClaims lexicon serial pattern claims).program.map Prod.snd).Perm (List.range claims.length) := by
  rw [program_ofClaims, List.map_map]
  exact @cells_ofClaims lexicon serial pattern claims

/-- The step at an index and its cell come from one claim. -/
theorem step_ofClaims {index cell : Nat} {step : PlannedStep}
    (own : (ofClaims lexicon serial pattern claims).layout.stepCell? index = some cell)
    (found : (ofClaims lexicon serial pattern claims).steps[index]? = some step) :
    ∃ claim, claims[cell]? = some claim ∧ step = plannedStep serial (claim, cell) := by
  have together : (ofClaims lexicon serial pattern claims).program[index]? = some (step, cell) := by
    rw [program, List.getElem?_zip_eq_some]
    exact ⟨found, own⟩
  obtain ⟨claim, claimed, planned⟩ := (mem_program_ofClaims ..).mp (List.mem_of_getElem? together)
  exact ⟨claim, List.mk_mem_zipIdx_iff_getElem?.mp claimed, planned⟩

theorem order_ofClaims : (ofClaims lexicon serial pattern claims).program.Pairwise fun item other =>
    item.1.weight < other.1.weight ∨ item.1.weight = other.1.weight ∧ item.2 < other.2 := by
  rw [program_ofClaims, List.pairwise_map]
  exact arrange_precedes (zipIdx_increasing claims)

theorem arranges_ofClaims (lexicon : Lexicon) (serial : Nat) (pattern : String) (claims : List Claim) :
    Arranges lexicon serial claims (ofClaims lexicon serial pattern claims) where
  cells := cells_ofClaims
  length := by simp only [Layout.size, ofClaims, layoutOf, List.length_map]
  step := by
    intro index cell step own found
    obtain ⟨claim, claimed, rfl⟩ := step_ofClaims own found
    exact ⟨claim, claimed, rfl, rfl, rfl⟩
  order := order_ofClaims
  claimant := by
    intro id cell
    simp only [ofClaims, layoutOf, Layout.claimantCell?, Layout.lookup_firstCells_eq_some,
      List.getElem?_map, Option.map_eq_some_iff, Option.some.injEq]
  noClaimant := by
    intro id
    simp only [ofClaims, layoutOf, Layout.claimantCell?, Layout.lookup_firstCells_eq_none, List.mem_map,
      Option.some.injEq, not_exists, not_and]
  token := by
    intro token cell
    simp only [ofClaims, layoutOf, Layout.tokenCell?, Layout.lookup_firstCells_eq_some,
      List.getElem?_map, Option.map_eq_some_iff]
  noToken := by
    intro token
    simp only [ofClaims, layoutOf, Layout.tokenCell?, Layout.lookup_firstCells_eq_none, List.mem_map,
      not_exists, not_and]
  places := by
    rw [ofClaims, precisionOf, Precision.merged_field Precision.places fun _ _ => rfl]
    exact Option.or_none
  optional := by
    rw [ofClaims, precisionOf, Precision.merged_field Precision.optional fun _ _ => rfl]
    exact Option.or_none

end Plan

end NumberPattern
