import NumberPattern.Proofs.Scan.Claims

/-! The claims on a pattern tile it: each begins where the one before it ended, none reaches beyond the
end and nothing is left over. Unclaimed text is kept as it stands or skipped character by character. -/

namespace NumberPattern.Scan
open Lexicon (standard fallbackId Answer)

variable {unclaimed : Unclaimed} {pattern : String} {claims : List Claim} {tally : Tally}

/-- The characters that a claim takes when it starts behind the first `start` ones. -/
def covered (pattern : String) (start : Nat) (claim : Claim) : List Char :=
  (pattern.toList.drop start).take (1 + claim.step.consumed)

/-- A claim that starts behind the first `start` characters lies within the pattern. When it takes
unclaimed text it writes exactly that text, up to the next trigger, or it skips one character. -/
structure Tile (unclaimed : Unclaimed) (pattern : String) (start : Nat) (claim : Claim) : Prop where
  inside : start + (1 + claim.step.consumed) ≤ pattern.toList.length
  echoed : unclaimed = .echo → claim.claimant = fallbackId →
    claim.step.action = .literal (String.ofList (covered pattern start claim))
  plain : unclaimed = .echo → claim.claimant = fallbackId →
    ∀ c ∈ (covered pattern start claim).tail, (standard unclaimed).isTrigger c = false
  stopped : unclaimed = .echo → claim.claimant = fallbackId →
    ∀ c ∈ (pattern.toList.drop (start + (1 + claim.step.consumed))).head?,
      (standard unclaimed).isTrigger c = true
  skipped : unclaimed = .skip → claim.claimant = fallbackId →
    claim.step.action = .skip ∧ claim.step.consumed = 0

theorem inside_of_le {start consumed : Nat} {c : Char} {rest : List Char}
    (text : pattern.toList.drop start = c :: rest) (within : consumed ≤ rest.length) :
    start + (1 + consumed) ≤ pattern.toList.length := by
  have lengths := congrArg List.length text
  simp only [List.length_drop, List.length_cons] at lengths
  omega

theorem drop_takeWhile (keep : Char → Bool) (text : List Char) :
    text.drop (text.takeWhile keep).length = text.dropWhile keep := by
  calc
    _ = (text.takeWhile keep ++ text.dropWhile keep).drop (text.takeWhile keep).length := by
      rw [List.takeWhile_append_dropWhile]
    _ = text.dropWhile keep := List.drop_left

/-- Echoed text is the first character with all that follow up to the next trigger. -/
theorem covered_echo {lexicon : Lexicon} {start : Nat} {c : Char} {rest : List Char}
    (echo : lexicon.unclaimed = .echo) (text : pattern.toList.drop start = c :: rest) :
    covered pattern start ⟨fallbackId, lexicon.fallbackStep c rest⟩ =
      c :: rest.takeWhile fun d => !lexicon.isTrigger d := by
  simp only [covered, text, Lexicon.fallbackStep, echo, Nat.add_comm 1, List.take_succ_cons]
  rw [← List.prefix_iff_eq_take.mp (List.takeWhile_prefix _)]

theorem tile_of_answer {start : Nat} {claim : Claim} {after : Tally}
    (answer : (standard unclaimed).dispatch tally (siteAt pattern start) = .ok (claim, after)) :
    Tile unclaimed pattern start claim := by
  obtain ⟨c, rest, text, made⟩ := answer_at answer
  have inside := inside_of_le text made.consumed_le
  cases made with
  | token token step calls taken =>
    have own := Token.claimantId_ne_fallback token
    exact ⟨inside, fun _ same => absurd same own, fun _ same => absurd same own,
      fun _ same => absurd same own, fun _ same => absurd same own⟩
  | unclaimed declined =>
    cases unclaimed with
    | skip => exact ⟨inside, by simp, by simp, by simp, fun _ _ => ⟨rfl, rfl⟩⟩
    | echo =>
      have kept := covered_echo (Lexicon.unclaimed_standard .echo) text
      refine ⟨inside, fun _ _ => by rw [kept]; rfl, fun _ _ c swallowed => ?_, fun _ _ c next => ?_,
        by simp⟩
      · rw [kept, List.tail_cons] at swallowed
        simpa using List.all_eq_true.mp List.all_takeWhile c swallowed
      · rw [(siteAt_next text _).1] at next
        simp only [Lexicon.fallbackStep, Lexicon.unclaimed_standard, drop_takeWhile] at next
        have stop := List.head?_dropWhile_not (fun c => !(standard .echo).isTrigger c) rest
        rw [Option.mem_def.mp next] at stop
        simpa using stop

theorem Progress.extent_le (progress : Progress (standard unclaimed) pattern claims tally) :
    extent claims ≤ pattern.toList.length := by
  cases progress with
  | start => simp
  | next before answer =>
    rw [extent_append, extent_cons, extent_nil, Nat.add_zero]
    exact (tile_of_answer answer).inside

/-- The claims of a compiled pattern, in the order of the text, take all of its characters, and each is
a tile that starts where the claims before it end. -/
theorem claims_tile_pattern (unclaimed : Unclaimed) (serial : Nat) (pattern : String) (plan : Plan)
    (compiled : Plan.compile (standard unclaimed) serial pattern = .ok plan) :
    ∃ claims, Plan.scan (standard unclaimed) pattern = .ok claims ∧
      plan = Plan.ofClaims (standard unclaimed) serial pattern claims ∧
      extent claims = pattern.length ∧
      ∀ before claim after, claims = before ++ claim :: after →
        (∃ standing next, Progress (standard unclaimed) pattern before standing ∧
          (standard unclaimed).dispatch standing (siteAt pattern (extent before)) = .ok (claim, next)) ∧
        Tile unclaimed pattern (extent before) claim := by
  cases scanned : Plan.scan (standard unclaimed) pattern with
  | error error =>
    rw [Plan.compile, scanned] at compiled
    cases compiled
  | ok claims =>
    rw [Plan.compile, scanned] at compiled
    cases compiled
    obtain ⟨tally, progress, finished⟩ := scan_eq_ok_iff.mp scanned
    refine ⟨claims, rfl, rfl, Nat.le_antisymm progress.extent_le finished, ?_⟩
    rintro before claim after rfl
    obtain ⟨standing, next, earlier, answer⟩ := progress.split
    exact ⟨⟨standing, next, earlier, answer⟩, tile_of_answer answer⟩

/-- Text of several bytes to a character is tiled by characters. -/
theorem claims_tile_multibyte :
    ∃ plan claims, Plan.compile (standard .echo) 0 "0 €b" = .ok plan ∧
      Plan.scan (standard .echo) "0 €b" = .ok claims ∧ extent claims = 4 := by
  let claims : List Claim :=
    [⟨⟨7⟩, { action := .integer, weight := Weight.integer }⟩,
      ⟨fallbackId, { action := .literal " €", weight := Weight.literal, consumed := 1 }⟩,
      ⟨⟨3⟩, { action := .byteUnit, weight := Weight.scale }⟩]
  have scanned : Plan.scan (standard .echo) "0 €b" = .ok claims := rfl
  have compiled : Plan.compile (standard .echo) 0 "0 €b" =
      .ok (Plan.ofClaims (standard .echo) 0 "0 €b" claims) := by
    rw [Plan.compile, scanned]
    rfl
  obtain ⟨found, scanned, _, whole, _⟩ := claims_tile_pattern .echo 0 "0 €b" _ compiled
  exact ⟨_, found, compiled, scanned, whole⟩

end NumberPattern.Scan
