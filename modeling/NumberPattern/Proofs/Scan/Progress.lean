import Mathlib.Algebra.Ring.Nat
import NumberPattern.Plan
import NumberPattern.Proofs.Lexicon.Dispatch

/-! The scan of a pattern as a run: each state is the list of claims made so far, and each step
dispatches the site where the last claim ended. The scan answers with the claims of a finished run or
with the error of a run that is stuck. -/

namespace NumberPattern.Scan
open Plan

/-- The number of characters that the claims take together. -/
def extent (claims : List Claim) : Nat := (claims.map fun claim => 1 + claim.step.consumed).sum

@[simp] theorem extent_nil : extent [] = 0 := rfl

@[simp] theorem extent_append (claims more : List Claim) :
    extent (claims ++ more) = extent claims + extent more := by
  simp [extent]

@[simp] theorem extent_cons (claim : Claim) (claims : List Claim) :
    extent (claim :: claims) = 1 + claim.step.consumed + extent claims := by
  simp [extent]

def byteLength (text : List Char) : Nat := (text.map Char.utf8Size).sum

@[simp] theorem byteLength_nil : byteLength [] = 0 := rfl

@[simp] theorem byteLength_append (text more : List Char) :
    byteLength (text ++ more) = byteLength text + byteLength more := by
  simp [byteLength]

@[simp] theorem byteLength_cons (c : Char) (text : List Char) :
    byteLength (c :: text) = c.utf8Size + byteLength text := by
  simp [byteLength]

/-- The site behind the first `start` characters of the pattern. -/
def siteAt (pattern : String) (start : Nat) : Site :=
  ⟨pattern, byteLength (pattern.toList.take start), pattern.toList.drop start⟩

/-- The scan has made these claims, in the order of the text, and keeps this tally. -/
inductive Progress (lexicon : Lexicon) (pattern : String) : List Claim → Tally → Prop where
  | start : Progress lexicon pattern [] lexicon.tally
  | next {claims : List Claim} {tally : Tally} {claim : Claim} {after : Tally}
      (before : Progress lexicon pattern claims tally)
      (answer : lexicon.dispatch tally (siteAt pattern (extent claims)) = .ok (claim, after)) :
      Progress lexicon pattern (claims ++ [claim]) after

variable {lexicon : Lexicon} {pattern : String} {claims : List Claim} {tally : Tally}

theorem scanFrom_skip (tally : Tally) (position skipped : Nat) (text : List Char) :
    scanFrom lexicon pattern tally position skipped text =
      scanFrom lexicon pattern tally (position + byteLength (text.take skipped)) 0 (text.drop skipped) := by
  induction text generalizing position skipped with
  | nil => simp [scanFrom]
  | cons c text ih =>
    cases skipped with
    | zero => simp
    | succ skipped =>
      rw [scanFrom, ih]
      simp only [List.take_succ_cons, List.drop_succ_cons, byteLength_cons, Nat.add_assoc]

/-- A dispatched site is not empty: the claim starts with its first character. -/
theorem siteAt_of_dispatch {start : Nat} {claim : Claim} {after : Tally}
    (answer : lexicon.dispatch tally (siteAt pattern start) = .ok (claim, after)) :
    ∃ c rest, pattern.toList.drop start = c :: rest := by
  cases text : pattern.toList.drop start with
  | nil =>
    simp only [siteAt, text, Lexicon.dispatch] at answer
    cases answer
  | cons c rest => exact ⟨c, rest, rfl⟩

theorem siteAt_next {start : Nat} {c : Char} {rest : List Char}
    (text : pattern.toList.drop start = c :: rest) (consumed : Nat) :
    pattern.toList.drop (start + (1 + consumed)) = rest.drop consumed ∧
      byteLength (pattern.toList.take (start + (1 + consumed))) =
        byteLength (pattern.toList.take start) + c.utf8Size + byteLength (rest.take consumed) := by
  constructor
  · rw [← List.drop_drop, text, Nat.add_comm 1, List.drop_succ_cons]
  · rw [List.take_add, text, Nat.add_comm 1, List.take_succ_cons, byteLength_append, byteLength_cons,
      Nat.add_assoc]

theorem scanFrom_dispatch {start : Nat} {claim : Claim} {after : Tally}
    (answer : lexicon.dispatch tally (siteAt pattern start) = .ok (claim, after)) :
    scanFrom lexicon pattern tally (siteAt pattern start).position 0 (siteAt pattern start).rest =
      (scanFrom lexicon pattern after (siteAt pattern (start + (1 + claim.step.consumed))).position 0
        (siteAt pattern (start + (1 + claim.step.consumed))).rest).map (claim :: ·) := by
  obtain ⟨c, rest, text⟩ := siteAt_of_dispatch answer
  obtain ⟨behind, position⟩ := siteAt_next text claim.step.consumed
  simp only [siteAt, text, behind, position] at answer ⊢
  rw [scanFrom, answer]
  simp only
  rw [scanFrom_skip]
  cases scanFrom lexicon pattern after _ 0 (rest.drop claim.step.consumed) <;> rfl

/-- After any progress the scan goes on from the end of the last claim. -/
theorem Progress.scan_eq (progress : Progress lexicon pattern claims tally) :
    scan lexicon pattern = (scanFrom lexicon pattern tally (siteAt pattern (extent claims)).position 0
      (siteAt pattern (extent claims)).rest).map (claims ++ ·) := by
  induction progress with
  | start =>
    simp only [scan, siteAt, extent_nil, List.take_zero, byteLength_nil, List.drop_zero]
    cases scanFrom lexicon pattern lexicon.tally 0 0 pattern.toList <;> rfl
  | @next claims tally claim after before answer ih =>
    rw [ih, scanFrom_dispatch answer]
    simp only [extent_append, extent_cons, extent_nil, Nat.add_zero]
    cases scanFrom lexicon pattern after _ 0 _ with
    | error error => rfl
    | ok more => simp only [Except.map, List.append_assoc, List.singleton_append]

/-- What a scan has made so far is there in the end. -/
theorem Progress.exists_append (progress : Progress lexicon pattern claims tally) {final : List Claim}
    (scanned : scan lexicon pattern = .ok final) : ∃ more, final = claims ++ more := by
  rw [progress.scan_eq] at scanned
  generalize scanFrom lexicon pattern tally _ 0 _ = left at scanned
  cases left with
  | error error => cases scanned
  | ok more => exact ⟨more, (Except.ok.inj scanned).symm⟩

/-- No text is left. -/
def Finished (pattern : String) (claims : List Claim) : Prop := pattern.toList.length ≤ extent claims

/-- The site where the last claim ended is refused. -/
def Stuck (lexicon : Lexicon) (pattern : String) (claims : List Claim) (tally : Tally)
    (error : Failure) : Prop :=
  extent claims < pattern.toList.length ∧
    lexicon.dispatch tally (siteAt pattern (extent claims)) = .error error

theorem Progress.scan_of_finished (progress : Progress lexicon pattern claims tally)
    (finished : Finished pattern claims) : scan lexicon pattern = .ok claims := by
  rw [progress.scan_eq, siteAt, List.drop_eq_nil_of_le finished]
  simp [scanFrom, Except.map]

theorem Progress.scan_of_stuck {error : Failure} (progress : Progress lexicon pattern claims tally)
    (stuck : Stuck lexicon pattern claims tally error) : scan lexicon pattern = .error error := by
  obtain ⟨inside, refused⟩ := stuck
  rw [progress.scan_eq]
  cases text : pattern.toList.drop (extent claims) with
  | nil =>
    have outside := List.drop_eq_nil_iff.mp text
    omega
  | cons c rest =>
    simp only [siteAt, text] at refused ⊢
    rw [scanFrom, refused]
    rfl

/-- Every run ends: each claim takes at least one character. -/
theorem Progress.ends (progress : Progress lexicon pattern claims tally) :
    ∃ last final, Progress lexicon pattern last final ∧
      (Finished pattern last ∨ ∃ error, Stuck lexicon pattern last final error) := by
  induction left : pattern.toList.length - extent claims using Nat.strongRecOn
    generalizing claims tally with
  | ind left ih =>
    by_cases finished : pattern.toList.length ≤ extent claims
    · exact ⟨claims, tally, progress, Or.inl finished⟩
    · cases answer : lexicon.dispatch tally (siteAt pattern (extent claims)) with
      | error error => exact ⟨claims, tally, progress, Or.inr ⟨error, by omega, answer⟩⟩
      | ok won =>
        obtain ⟨claim, after⟩ := won
        refine ih _ ?_ (progress.next answer) rfl
        simp only [extent_append, extent_cons, extent_nil]
        omega

theorem scan_eq_ok_iff :
    scan lexicon pattern = .ok claims ↔
      ∃ tally, Progress lexicon pattern claims tally ∧ Finished pattern claims := by
  constructor
  · intro scanned
    have origin : Progress lexicon pattern [] lexicon.tally := .start
    obtain ⟨last, final, progress, finished | ⟨error, stuck⟩⟩ := origin.ends
    · cases scanned.symm.trans (progress.scan_of_finished finished)
      exact ⟨final, progress, finished⟩
    · cases scanned.symm.trans (progress.scan_of_stuck stuck)
  · rintro ⟨tally, progress, finished⟩
    exact progress.scan_of_finished finished

theorem scan_eq_error_iff {error : Failure} :
    scan lexicon pattern = .error error ↔
      ∃ claims tally, Progress lexicon pattern claims tally ∧
        Stuck lexicon pattern claims tally error := by
  constructor
  · intro scanned
    have origin : Progress lexicon pattern [] lexicon.tally := .start
    obtain ⟨last, final, progress, finished | ⟨error, stuck⟩⟩ := origin.ends
    · cases scanned.symm.trans (progress.scan_of_finished finished)
    · cases scanned.symm.trans (progress.scan_of_stuck stuck)
      exact ⟨last, final, progress, stuck⟩
  · rintro ⟨claims, tally, progress, stuck⟩
    exact progress.scan_of_stuck stuck

/-- Each claim of a run was made where the claims before it end. -/
theorem Progress.split {before after : List Claim} {claim : Claim}
    (progress : Progress lexicon pattern (before ++ claim :: after) tally) :
    ∃ standing next, Progress lexicon pattern before standing ∧
      lexicon.dispatch standing (siteAt pattern (extent before)) = .ok (claim, next) := by
  generalize whole : before ++ claim :: after = claims at progress
  induction progress generalizing after with
  | start => simp at whole
  | next earlier answer ih =>
    rcases List.eq_nil_or_concat after with rfl | ⟨rest, last, rfl⟩
    · obtain ⟨rfl, same⟩ := List.append_inj' whole rfl
      cases same
      exact ⟨_, _, earlier, answer⟩
    · rw [List.concat_eq_append, ← List.cons_append, ← List.append_assoc] at whole
      exact ih (List.append_inj' whole rfl).1

theorem dispatch_records {site : Site} {claim : Claim} {after : Tally}
    (answer : lexicon.dispatch tally site = .ok (claim, after)) : after = tally.record claim.claimant := by
  obtain ⟨pattern, position, text⟩ := site
  cases text with
  | nil => cases answer
  | cons c rest => exact (Lexicon.dispatch_eq_ok answer).1

theorem Progress.tokens_eq (progress : Progress lexicon pattern claims tally) :
    tally.tokens = lexicon.tokens := by
  induction progress with
  | start => rfl
  | next before answer ih => rw [dispatch_records answer, Tally.tokens_record, ih]

/-- The tally counts the claims of each claimant. -/
theorem Progress.times_eq (progress : Progress lexicon pattern claims tally) (id : ClaimantId) :
    tally.times id = claims.countP (·.claimant = id) := by
  induction progress with
  | start => rfl
  | next before answer ih =>
    rw [dispatch_records answer, Tally.times_record, ih, List.countP_append, List.countP_singleton]
    simp only [decide_eq_true_eq]

theorem Progress.hasWon_iff (progress : Progress lexicon pattern claims tally) {id : ClaimantId} :
    tally.hasWon id = true ↔ ∃ claim ∈ claims, claim.claimant = id := by
  simp [Tally.hasWon, progress.times_eq, List.countP_pos_iff]

theorem Progress.hasWon_eq_false (progress : Progress lexicon pattern claims tally) {id : ClaimantId} :
    tally.hasWon id = false ↔ ∀ claim ∈ claims, claim.claimant ≠ id := by
  rw [← Bool.not_eq_true, progress.hasWon_iff]
  simp

end NumberPattern.Scan
