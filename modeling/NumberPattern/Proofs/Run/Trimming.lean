import NumberPattern.Proofs.Double.Sign
import NumberPattern.Proofs.Run.Decimals
import NumberPattern.Proofs.Scan.Tiling

/-! How many decimals are shown. A value is rounded to a hundred decimals at most, but zeros at their end are
dropped up to the number of optional ones that the pattern names. So the mandatory decimals are all there as
long as the pattern names no more than a hundred; beyond that, zeros among them may be dropped. -/

namespace NumberPattern

namespace Token

variable {mandatory optional mandatory' optional' position : Nat} {pattern : String} {text : List Char}
  {step : Step}

/-- Mandatory decimals with optional ones in brackets behind them. -/
def decimalsText (mandatory optional : Nat) : List Char :=
  List.replicate mandatory '0' ++ if optional = 0 then [] else '[' :: (List.replicate optional '0' ++ [']'])

theorem length_decimalsText (mandatory optional : Nat) :
    (decimalsText mandatory optional).length = mandatory + if optional = 0 then 0 else optional + 2 := by
  rw [decimalsText, List.length_append, List.length_replicate]
  split
  · rfl
  · simp

theorem zeros_decimalsText (mandatory optional : Nat) : zeros (decimalsText mandatory optional) = mandatory := by
  apply zeros_replicate_append
  split
  · exact notAt_nil _
  · simp

theorem decimalsText_inj (same : decimalsText mandatory optional = decimalsText mandatory' optional') :
    mandatory = mandatory' ∧ optional = optional' := by
  have zeros : mandatory = mandatory' := by
    rw [← zeros_decimalsText mandatory optional, same, zeros_decimalsText]
  have lengths := congrArg List.length same
  rw [length_decimalsText, length_decimalsText] at lengths
  refine ⟨zeros, ?_⟩
  split at lengths <;> split at lengths <;> omega

/-- The text that decimals take names the decimals of the step. -/
theorem decimalsText_of_claim (taken : claimDecimals ⟨pattern, position, text⟩ = .ok (some step)) :
    ∃ mandatory optional, text.take (1 + step.consumed) = decimalsText mandatory optional ∧
      step.action = .decimals (mandatory + optional) optional := by
  have covers {mandatory optional : Nat} (after : List Char)
      (split : text = decimalsText mandatory optional ++ after)
      (size : (decimalsText mandatory optional).length = 1 + step.consumed) :
      text.take (1 + step.consumed) = decimalsText mandatory optional := by
    rw [split, ← size]
    exact List.take_left
  rcases claimDecimals_eq_some taken with
    ⟨mandatory, optional, after, positive, split, rfl⟩ | ⟨mandatory, after, positive, _, _, split, rfl⟩
  · have bracketed : optional ≠ 0 := Nat.ne_of_gt positive
    refine ⟨mandatory, optional, covers after ?_ ?_, rfl⟩
    · rw [decimalsText, if_neg bracketed]
      simpa using split
    · rw [length_decimalsText, if_neg bracketed]
      simp only [decimalsStep]
      omega
  · refine ⟨mandatory, 0, covers after ?_ ?_, rfl⟩
    · rw [decimalsText, if_pos rfl, List.append_nil]
      exact split
    · rw [length_decimalsText, if_pos rfl]
      simp only [decimalsStep]
      omega

end Token

namespace Scan
open Lexicon (standard)

variable {unclaimed : Unclaimed} {pattern : String} {before after : List Claim} {claim : Claim} {tally : Tally}

theorem Progress.decimals_covered (progress : Progress (standard unclaimed) pattern (before ++ claim :: after) tally)
    (won : claim.claimant = Token.decimals.claimantId) :
    ∃ mandatory optional, covered pattern (extent before) claim = Token.decimalsText mandatory optional ∧
      claim.step.action = .decimals (mandatory + optional) optional := by
  obtain ⟨standing, next, earlier, answer⟩ := progress.split
  obtain ⟨c, rest, text, made⟩ := answer_at answer
  have taken := (Token.claim_eq_some (made.taken won).2).2
  rw [covered, text]
  exact Token.decimalsText_of_claim taken

end Scan

namespace Decimal

theorem length_fraction (places n : Nat) : (fraction places n).length = places := by
  unfold fraction
  split
  next none => exact none.symm
  next some_ =>
    have below : n % Nat.pow 10 places < 10 ^ places := Nat.mod_lt _ (Nat.pow_pos (by decide))
    have short : (digits (n % Nat.pow 10 places)).length ≤ places :=
      (Nat.length_toDigits_le_iff (by decide) (Nat.pos_of_ne_zero some_)).mpr below
    rw [length_padded]
    omega

/-- A number text has all of the decimals, or it is a word. -/
theorem length_fixed (places : Nat) (value : Float) :
    (fixed places value).fraction = "" ∨ (fixed places value).fraction.toList.length = places := by
  unfold fixed
  split
  · exact Or.inl rfl
  · exact Or.inl rfl
  all_goals exact Or.inr (by simp only [Split.ofUnits, String.toList_ofList, length_fraction])

end Decimal

namespace Amount

variable {limit : Nat} {text left : List Char}

theorem Trimmed.length_le (trimmed : Trimmed limit text left) : left.length ≤ text.length := by
  obtain ⟨zeros, _, split, _⟩ := trimmed
  rw [split, List.length_append]
  omega

theorem Trimmed.le_length (trimmed : Trimmed limit text left) : text.length - limit ≤ left.length := by
  obtain ⟨zeros, most, split, _⟩ := trimmed
  rw [split, List.length_append, List.length_replicate]
  omega

/-- When fewer zeros were dropped than allowed, no zero was left at the end. -/
theorem Trimmed.getLast (trimmed : Trimmed limit text left) (longer : text.length - limit < left.length) :
    left.getLast? ≠ some '0' := by
  obtain ⟨zeros, _, split, clean⟩ := trimmed
  rw [split, List.length_append, List.length_replicate] at longer
  exact clean (by omega)

/-- At least `count` characters stay just when fewer may be dropped, or some character from the last of them
on is no zero. -/
theorem Trimmed.keeps_iff (trimmed : Trimmed limit text left) {count : Nat} (positive : 0 < count) :
    count ≤ left.length ↔ count + limit ≤ text.length ∨ ∃ c ∈ text.drop (count - 1), c ≠ '0' := by
  obtain ⟨zeros, most, split, clean⟩ := trimmed
  have lengths : text.length = left.length + zeros := by rw [split, List.length_append, List.length_replicate]
  constructor
  · intro kept
    by_cases spare : zeros = limit
    · exact Or.inl (by omega)
    · have some_ : left ≠ [] := List.ne_nil_of_length_pos (by omega)
      refine Or.inr ⟨left.getLast some_, ?_, ?_⟩
      · rw [split, List.drop_append_of_le_length (by omega)]
        apply List.mem_append_left
        rw [List.mem_drop_iff_getElem]
        refine ⟨left.length - count, by omega, ?_⟩
        rw [List.getLast_eq_getElem]
        congr 1
        omega
      · intro zero
        apply clean (by omega)
        rw [List.getLast?_eq_getLast_of_ne_nil some_, zero]
  · rintro (room | ⟨c, member, digit⟩)
    · omega
    · by_contra short
      have dropped : text.drop (count - 1) = (List.replicate zeros '0').drop (count - 1 - left.length) := by
        rw [split, List.drop_append, List.drop_eq_nil_of_le (by omega), List.nil_append]
      rw [dropped, List.drop_replicate] at member
      exact digit (List.eq_of_mem_replicate member)

end Amount

namespace Plan
open Lexicon (standard)
open Amount (maxPlaces)

variable {plan : Plan} {value remainder : Float} {rounding : Float → Float} {locale : Locale}
  {places optional mandatory : Nat}

theorem length_fractionText :
    plan.fractionText rounding places value remainder = "" ∨
      (plan.fractionText rounding places value remainder).toList.length = min places maxPlaces := by
  unfold fractionText
  simp only
  split
  · exact Decimal.length_fixed ..
  · exact Decimal.length_fixed ..

theorem length_fractionText_of_shows (shows : plan.showsDecimals rounding places optional value remainder = true) :
    (plan.fractionText rounding places value remainder).toList.length = min places maxPlaces := by
  obtain ⟨_, some_, _⟩ := showsDecimals_iff.mp shows
  apply length_fractionText.resolve_left
  intro empty
  rw [decimalText, empty] at some_
  exact some_ (List.take_nil ..)

/-- The digits that the cell of the decimals shows at the end of a run, for so many mandatory and optional
decimals. -/
structure ShownDigits (plan : Plan) (value : Float) (rounding : Float → Float) (locale : Locale)
    (mandatory optional : Nat) (text : String) : Prop where
  most : text.toList.length ≤ min (mandatory + optional) maxPlaces
  trimmed : min mandatory maxPlaces < text.toList.length → text.toList.getLast? ≠ some '0'
  /-- Beyond the largest number of decimals, mandatory ones are kept only by a digit behind them. -/
  kept : min mandatory maxPlaces ≤ text.toList.length ↔
    mandatory = 0 ∨ optional = 0 ∨ mandatory + optional ≤ maxPlaces ∨
      ∃ c ∈ (plan.fractionText rounding (mandatory + optional) (plan.scaled value rounding locale).value
        (plan.scaled value rounding locale).remainder).toList.drop (min mandatory maxPlaces - 1), c ≠ '0'
  least : min (mandatory + optional) maxPlaces - optional ≤ text.toList.length

theorem shownDigits_of_shows
    (shows : plan.showsDecimals rounding (mandatory + optional) optional
      (plan.scaled value rounding locale).value (plan.scaled value rounding locale).remainder = true) :
    plan.ShownDigits value rounding locale mandatory optional
      (String.ofList (plan.decimalText rounding (mandatory + optional) optional
        (plan.scaled value rounding locale).value (plan.scaled value rounding locale).remainder)) := by
  have whole := length_fractionText_of_shows shows
  have trimmed := Amount.trimmed_trimZeros optional
    (plan.fractionText rounding (mandatory + optional) (plan.scaled value rounding locale).value
      (plan.scaled value rounding locale).remainder).toList
  have most := trimmed.length_le
  have least := trimmed.le_length
  rw [whole] at most least
  refine ⟨?_, ?_, ?_, ?_⟩ <;> rw [String.toList_ofList]
  · exact most
  · intro longer
    apply trimmed.getLast
    rw [whole]
    exact Nat.lt_of_le_of_lt (by omega) longer
  · rcases Nat.eq_zero_or_pos mandatory with rfl | positive
    · simp
    · have most : 0 < min mandatory maxPlaces := Nat.lt_min.mpr ⟨positive, by decide⟩
      rw [decimalText, trimmed.keeps_iff most, whole, ← or_assoc, ← or_assoc]
      apply or_congr_left
      omega
  · exact least

theorem Regular.shownDigits (regular : plan.Regular) {planned : PlannedStep} {cell : Nat}
    (member : (planned, cell) ∈ plan.program) (action : planned.action = .decimals (mandatory + optional) optional)
    {text : String} (shown : (plan.finish value rounding locale).cells.text? cell = some text) :
    plan.ShownDigits value rounding locale mandatory optional text := by
  obtain ⟨⟨pointStep, pointCell⟩, pointMember, pointKind⟩ :=
    (has_iff regular.steps).mp (regular.prior _ member .decimals .point (congrArg Action.token? action) rfl)
  have found := regular.cell _ pointMember .point pointKind rfl
  have written := (regular.decimals_finish member action found value rounding locale).2.2
  rw [shown] at written
  split at written
  next shows =>
    cases written
    exact shownDigits_of_shows shows
  · cases written

/-- The decimals of a pattern with so many mandatory and optional ones. No more are shown, and none that end
in a zero beyond the mandatory ones. The mandatory ones are all shown, unless the pattern asks for more
decimals than are ever written. -/
theorem shown_digits (unclaimed : Unclaimed) (serial : Nat) (pattern : String)
    (before after : List Claim) (claim : Claim)
    (scanned : scan (standard unclaimed) pattern = .ok (before ++ claim :: after))
    (won : claim.claimant = Token.decimals.claimantId) (mandatory optional : Nat)
    (spelled : Scan.covered pattern (Scan.extent before) claim = Token.decimalsText mandatory optional)
    (value : Float) (rounding : Float → Float) (locale : Locale) (text : String)
    (shown : ((ofClaims (standard unclaimed) serial pattern (before ++ claim :: after)).finish value rounding
      locale).cells.text? before.length = some text) :
    ShownDigits (ofClaims (standard unclaimed) serial pattern (before ++ claim :: after)) value rounding locale
      mandatory optional text := by
  obtain ⟨tally, progress, _⟩ := Scan.scan_eq_ok_iff.mp scanned
  obtain ⟨mandatory', optional', covered, action⟩ := progress.decimals_covered won
  obtain ⟨rfl, rfl⟩ := Token.decimalsText_inj (spelled.symm.trans covered)
  have inside : before.length < (before ++ claim :: after).length := by simp
  obtain ⟨⟨planned, cell⟩, member, rfl, same⟩ := exists_mem_program serial progress inside
  rw [List.getElem_append_right (Nat.le_refl _)] at same
  simp only [Nat.sub_self, List.getElem_cons_zero, action] at same
  exact (regular_ofClaims progress).shownDigits member same shown

/-- One decimal is shown where one is mandatory and the other optional. -/
theorem shown_digits_optional :
    ∃ claims, scan (standard .echo) "0.0[0]" = .ok claims ∧
      ShownDigits (ofClaims (standard .echo) 0 "0.0[0]" claims) 2.5 roundHalfUp {} 1 1 "5" := by
  let before : List Claim :=
    [⟨⟨7⟩, { action := .integer, weight := Weight.integer }⟩,
      ⟨⟨11⟩, { action := .point false, weight := Weight.delimiter }⟩]
  let claim : Claim := ⟨⟨12⟩, Token.decimalsStep 1 1 3⟩
  have scanned : scan (standard .echo) "0.0[0]" = .ok (before ++ claim :: []) := rfl
  have shown : ((ofClaims (standard .echo) 0 "0.0[0]" (before ++ claim :: [])).finish 2.5 roundHalfUp
      {}).cells.text? before.length = some "5" := by decide +kernel
  exact ⟨_, scanned,
    shown_digits .echo 0 "0.0[0]" before [] claim scanned rfl 1 1 (by decide) 2.5 roundHalfUp {} "5" shown⟩

/-- A pattern with two mandatory decimals and ninety-nine optional ones. -/
def manyOptional : String := String.ofList ('0' :: '.' :: Token.decimalsText 2 99)

set_option maxRecDepth 2000 in
theorem scan_manyOptional : scan (standard .echo) manyOptional = .ok
    [⟨⟨7⟩, { action := .integer, weight := Weight.integer }⟩,
      ⟨⟨11⟩, { action := .point false, weight := Weight.delimiter }⟩,
      ⟨⟨12⟩, Token.decimalsStep 2 99 102⟩] := rfl

/-- Two mandatory decimals and ninety-nine optional ones: a whole number shows one decimal. -/
theorem mandatory_decimals_dropped : ¬ ∀ (unclaimed : Unclaimed) (serial : Nat) (pattern : String)
    (before after : List Claim) (claim : Claim) (mandatory optional : Nat) (value : Float)
    (rounding : Float → Float) (locale : Locale) (text : String),
    scan (standard unclaimed) pattern = .ok (before ++ claim :: after) →
    claim.claimant = Token.decimals.claimantId →
    Scan.covered pattern (Scan.extent before) claim = Token.decimalsText mandatory optional →
    value.isFinite = true →
    ((ofClaims (standard unclaimed) serial pattern (before ++ claim :: after)).scaled value rounding
      locale).value.isFinite = true →
    rounding ∈ Double.roundings →
    ((ofClaims (standard unclaimed) serial pattern (before ++ claim :: after)).finish value rounding
      locale).cells.text? before.length = some text →
    min mandatory maxPlaces ≤ text.toList.length := by
  intro kept
  let before : List Claim :=
    [⟨⟨7⟩, { action := .integer, weight := Weight.integer }⟩,
      ⟨⟨11⟩, { action := .point false, weight := Weight.delimiter }⟩]
  let claim : Claim := ⟨⟨12⟩, Token.decimalsStep 2 99 102⟩
  have scanned : scan (standard .echo) manyOptional = .ok (before ++ claim :: []) := scan_manyOptional
  have spelled : Scan.covered manyOptional (Scan.extent before) claim = Token.decimalsText 2 99 := by decide +kernel
  have shown : ((ofClaims (standard .echo) 0 manyOptional (before ++ claim :: [])).finish 2.0 roundHalfUp
      {}).cells.text? before.length = some "0" := by decide +kernel
  have scaled : ((ofClaims (standard .echo) 0 manyOptional (before ++ claim :: [])).scaled 2.0 roundHalfUp
      {}).value.isFinite = true := by decide +kernel
  have most := kept .echo 0 manyOptional before [] claim 2 99 2.0 roundHalfUp {} "0" scanned rfl spelled
    (by decide +kernel) scaled (by simp [Double.roundings]) shown
  revert most
  decide

end Plan

end NumberPattern
