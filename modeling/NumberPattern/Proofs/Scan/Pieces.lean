import NumberPattern.Proofs.Lexicon.TokensOnly
import NumberPattern.Proofs.Plan.Marks
import NumberPattern.Proofs.Scan.Tiling

/-! What a scan finds in a pattern, however it divides the unclaimed text: the tokens where they stand and
the characters between them. Lexicons in which nothing but tokens is ever claimed find the same pieces and
the same faults. One claim of echoed text is followed by as many steps of the scan that skips. -/

namespace NumberPattern

/-- The claim is made by a claimant and not by the rule for unclaimed text. -/
def Claim.isToken (claim : Claim) : Bool := claim.claimant ≠ Lexicon.fallbackId

namespace Scan
open Lexicon (standard fallbackId tokenClaim)

/-- A character that nobody claims, or a claim behind the first `start` characters. -/
inductive Piece where
  | char (c : Char)
  | token (start : Nat) (claim : Claim)

/-- Each claim with the number of characters before it, when the first one starts behind `start`. -/
def located : (start : Nat) → List Claim → List (Nat × Claim)
  | _, [] => []
  | start, claim :: claims => (start, claim) :: located (start + (1 + claim.step.consumed)) claims

theorem located_append (start : Nat) (claims more : List Claim) :
    located start (claims ++ more) = located start claims ++ located (start + extent claims) more := by
  induction claims generalizing start with
  | nil => rfl
  | cons claim claims ih =>
    simp only [List.cons_append, located, ih, extent_cons, Nat.add_assoc]

theorem map_snd_located (start : Nat) (claims : List Claim) :
    (located start claims).map Prod.snd = claims := by
  induction claims generalizing start with
  | nil => rfl
  | cons claim claims ih => rw [located, List.map_cons, ih]

def piecesOf (pattern : String) (item : Nat × Claim) : List Piece :=
  if item.2.isToken then [.token item.1 item.2] else (covered pattern item.1 item.2).map .char

def pieces (pattern : String) (claims : List Claim) : List Piece :=
  (located 0 claims).flatMap (piecesOf pattern)

variable {lexicon : Lexicon} {pattern : String} {claims others : List Claim} {claim : Claim}
  {tally tally' after : Tally} {c : Char} {rest : List Char}

theorem pieces_concat :
    pieces pattern (claims ++ [claim]) =
      pieces pattern claims ++ piecesOf pattern (extent claims, claim) := by
  simp [pieces, located_append, located]

theorem piecesOf_fallback {start : Nat} (text : pattern.toList.drop start = c :: rest) (step : Step) :
    piecesOf pattern (start, ⟨fallbackId, step⟩) = .char c :: (rest.take step.consumed).map .char := by
  simp [piecesOf, Claim.isToken, covered, text, Nat.add_comm 1]

/-- The tokens among the pieces, with their places. -/
def Piece.token? : Piece → Option (Nat × Claim)
  | char _ => none
  | token start claim => some (start, claim)

theorem tokens_of_pieces :
    (pieces pattern claims).filterMap Piece.token? = (located 0 claims).filter (·.2.isToken) := by
  rw [pieces]
  induction located 0 claims with
  | nil => rfl
  | cons item items ih =>
    rw [List.flatMap_cons, List.filterMap_append, ih]
    by_cases token : item.2.isToken = true
    · simp [piecesOf, token, Piece.token?]
    · simp [piecesOf, token, Piece.token?, List.filterMap_map, Function.comp_def]

theorem located_of_pieces (same : pieces pattern claims = pieces pattern others) :
    (located 0 claims).filter (·.2.isToken) = (located 0 others).filter (·.2.isToken) := by
  rw [← tokens_of_pieces, same, tokens_of_pieces]

theorem filter_of_pieces (same : pieces pattern claims = pieces pattern others) :
    claims.filter Claim.isToken = others.filter Claim.isToken := by
  have placed (claims : List Claim) : claims.filter Claim.isToken =
      ((located 0 claims).filter (·.2.isToken)).map Prod.snd := by
    conv_lhs => rw [← map_snd_located 0 claims, List.filter_map]
    rfl
  rw [placed, located_of_pieces same, ← placed]

/-- The skipping scan has come as far, with the same pieces, and its tally answers tokens the same. -/
structure Abreast (pattern : String) (claims : List Claim) (tally : Tally) (others : List Claim)
    (tally' : Tally) : Prop where
  progress : Progress (standard .skip) pattern others tally'
  alike : tally.Alike tally'
  reached : extent others = extent claims
  found : pieces pattern others = pieces pattern claims

/-- What the skipping scan makes of a character that is not claimed. -/
def skipClaim : Claim := ⟨fallbackId, { action := .skip, weight := Weight.literal }⟩

theorem Progress.skip (progress : Progress (standard .skip) pattern others tally')
    (text : pattern.toList.drop (extent others) = c :: rest)
    (declined : tokenClaim tally' (siteAt pattern (extent others)) c = .ok none) :
    Progress (standard .skip) pattern (others ++ [skipClaim]) (tally'.record fallbackId) ∧
      pattern.toList.drop (extent (others ++ [skipClaim])) = rest ∧
      pieces pattern (others ++ [skipClaim]) = pieces pattern others ++ [.char c] := by
  refine ⟨progress.next ?_, by simpa [skipClaim] using (siteAt_next text 0).1, ?_⟩
  · simp only [siteAt, text] at declined ⊢
    exact (Lexicon.tokensOnly_standard .skip).dispatch_none declined
  · rw [pieces_concat, skipClaim, piecesOf_fallback text]
    rfl

/-- Characters that no token ever claims are skipped one by one. -/
theorem Progress.skip_idle {run : List Char}
    (progress : Progress (standard .skip) pattern others tally') (alike : tally.Alike tally')
    (text : pattern.toList.drop (extent others) = run ++ rest) (idle : ∀ d ∈ run, Lexicon.Idle d) :
    ∃ further final, Progress (standard .skip) pattern further final ∧ tally.Alike final ∧
      extent further = extent others + run.length ∧
      pieces pattern further = pieces pattern others ++ run.map .char := by
  induction run generalizing others tally' with
  | nil => exact ⟨others, tally', progress, alike, rfl, by simp⟩
  | cons d run ih =>
    obtain ⟨first, idle⟩ := List.forall_mem_cons.mp idle
    obtain ⟨next, behind, found⟩ := progress.skip text (first _ _)
    obtain ⟨further, final, progress, alike, reached, found'⟩ := ih next alike.record_fallback behind idle
    refine ⟨further, final, progress, alike, ?_, by rw [found', found]; simp⟩
    rw [reached]
    simp only [skipClaim, extent_append, extent_cons, extent_nil, List.length_cons]
    omega

/-- The skipping scan follows each claim of a scan in which nothing but tokens is claimed. -/
theorem Abreast.next (only : lexicon.TokensOnly) (abreast : Abreast pattern claims tally others tally')
    (answer : lexicon.dispatch tally (siteAt pattern (extent claims)) = .ok (claim, after)) :
    ∃ further final, Abreast pattern (claims ++ [claim]) after further final := by
  obtain ⟨progress, alike, reached, found⟩ := abreast
  obtain ⟨c, rest, text⟩ := siteAt_of_dispatch answer
  have asked := Lexicon.tokenClaim_congr alike (siteAt pattern (extent claims)) c
  rw [← reached] at text answer asked
  simp only [siteAt, text] at answer asked
  obtain ⟨rfl, made | ⟨made, rfl⟩⟩ := only.dispatch_eq_ok answer
  · have taken : (standard .skip).dispatch tally' (siteAt pattern (extent others)) =
        .ok (claim, tally'.record claim.claimant) := by
      simp only [siteAt, text]
      exact (Lexicon.tokensOnly_standard .skip).dispatch_some (asked.symm.trans made)
    refine ⟨_, _, progress.next taken, alike.record_token _, by simp [reached], ?_⟩
    rw [pieces_concat, pieces_concat, found, reached]
  · have declined : tokenClaim tally' (siteAt pattern (extent others)) c = .ok none := by
      simp only [siteAt, text]
      exact asked.symm.trans made
    obtain ⟨first, behind, found'⟩ := progress.skip text declined
    -- one step for the first character, then one for each that was taken with it
    rw [← List.take_append_drop (lexicon.fallbackStep c rest).consumed rest] at behind
    obtain ⟨further, final, progress, alike, reached', found''⟩ :=
      first.skip_idle alike.record_fallback behind fun d swallowed => only.idle_fallback swallowed
    refine ⟨further, final, progress, alike.symm.record_fallback.symm, ?_, ?_⟩
    · rw [reached', List.length_take_of_le (Lexicon.consumed_fallbackStep lexicon)]
      simp [skipClaim, reached, Nat.add_assoc]
    · rw [found'', found', pieces_concat, found, ← reached, piecesOf_fallback text]
      simp

/-- Every scan in which nothing but tokens is claimed is followed by the skipping scan. -/
theorem Progress.abreast (only : lexicon.TokensOnly) (progress : Progress lexicon pattern claims tally) :
    ∃ others tally', Abreast pattern claims tally others tally' := by
  induction progress with
  | start =>
    have tokens : (standard .skip).tally = lexicon.tally := by
      rw [Lexicon.tally, Lexicon.tally, Lexicon.standard_tokens, only.tokens]
    exact ⟨[], lexicon.tally, tokens ▸ .start, ⟨only.tokens, only.tokens, fun _ => rfl⟩, rfl, rfl⟩
  | next before answer ih =>
    obtain ⟨others, tally', abreast⟩ := ih
    exact abreast.next only answer

/-- The skipping scan gets stuck where the other scan does, over the same fault. -/
theorem Abreast.stuck (only : lexicon.TokensOnly) (abreast : Abreast pattern claims tally others tally')
    {error : Failure} (stuck : Stuck lexicon pattern claims tally error) :
    Stuck (standard .skip) pattern others tally' error := by
  obtain ⟨inside, refused⟩ := stuck
  have asked := Lexicon.tokenClaim_congr abreast.alike (siteAt pattern (extent claims))
  rw [Stuck, abreast.reached]
  refine ⟨inside, ?_⟩
  cases text : pattern.toList.drop (extent claims) with
  | nil =>
    have outside := List.drop_eq_nil_iff.mp text
    omega
  | cons c rest =>
    simp only [siteAt, text] at refused asked ⊢
    exact (Lexicon.tokensOnly_standard .skip).dispatch_error
      ((asked c).symm.trans (only.dispatch_eq_error refused))

/-- Whatever the rule for unclaimed text and whichever claimants are there to decline, the pieces of a
pattern and its faults are the same. -/
theorem scan_pieces (only : lexicon.TokensOnly) :
    (Plan.scan lexicon pattern).map (pieces pattern) =
      (Plan.scan (standard .skip) pattern).map (pieces pattern) := by
  have origin : Progress lexicon pattern [] lexicon.tally := .start
  obtain ⟨last, final, progress, finished | ⟨error, stuck⟩⟩ := origin.ends
  · obtain ⟨others, tally', abreast⟩ := progress.abreast only
    have finished' : Finished pattern others := by rw [Finished, abreast.reached]; exact finished
    rw [progress.scan_of_finished finished, abreast.progress.scan_of_finished finished']
    exact congrArg Except.ok abreast.found.symm
  · obtain ⟨others, tally', abreast⟩ := progress.abreast only
    rw [progress.scan_of_stuck stuck, abreast.progress.scan_of_stuck (abreast.stuck only stuck)]

/-- Two such lexicons both refuse a pattern, over the same fault, or find the same pieces in it. -/
theorem scan_alike {other : Lexicon} (only : lexicon.TokensOnly) (only' : other.TokensOnly)
    (pattern : String) :
    (∃ error, Plan.scan lexicon pattern = .error error ∧ Plan.scan other pattern = .error error) ∨
      ∃ claims others tally tally', Plan.scan lexicon pattern = .ok claims ∧
        Plan.scan other pattern = .ok others ∧ Progress lexicon pattern claims tally ∧
        Progress other pattern others tally' ∧ pieces pattern claims = pieces pattern others := by
  have same : (Plan.scan lexicon pattern).map (pieces pattern) =
      (Plan.scan other pattern).map (pieces pattern) := by rw [scan_pieces only, scan_pieces only']
  rcases answers_cases same with refused | ⟨claims, others, scanned, scanned', found⟩
  · exact Or.inl refused
  · obtain ⟨tally, progress, _⟩ := scan_eq_ok_iff.mp scanned
    obtain ⟨tally', progress', _⟩ := scan_eq_ok_iff.mp scanned'
    exact Or.inr ⟨claims, others, tally, tally', scanned, scanned', progress, progress', found⟩

end Scan

end NumberPattern
