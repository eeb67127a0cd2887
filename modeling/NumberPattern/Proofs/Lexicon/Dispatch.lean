import NumberPattern.Lexicon

/-! Dispatch on any lexicon: who wins a site, what an answer says about the claimants asked, and how the
tally counts the wins. -/

namespace NumberPattern

namespace Tally

@[simp] theorem tokens_record (tally : Tally) (id : ClaimantId) :
    (tally.record id).tokens = tally.tokens := rfl

theorem lookup_raise (id other : ClaimantId) (wins : List (ClaimantId × Nat)) :
    ((raise id wins).lookup other).getD 0 = (wins.lookup other).getD 0 + if id = other then 1 else 0 := by
  induction wins with
  | nil =>
    by_cases same : id = other
    · simp [raise, same]
    · simp [raise, same, List.lookup_cons, beq_false_of_ne (Ne.symm same)]
  | cons entry wins ih =>
    obtain ⟨key, count⟩ := entry
    by_cases found : key = id
    · subst key
      by_cases same : id = other
      · simp [raise, same]
      · simp [raise, same, List.lookup_cons, beq_false_of_ne (Ne.symm same)]
    · by_cases same : key = other
      · subst key
        simp [raise, found, Ne.symm found]
      · simp [raise, found, List.lookup_cons, beq_false_of_ne (Ne.symm same), ih]

theorem times_record (tally : Tally) (id other : ClaimantId) :
    (tally.record id).times other = tally.times other + if id = other then 1 else 0 :=
  lookup_raise id other tally.wins

theorem hasWon_eq_false {tally : Tally} {id : ClaimantId} :
    tally.hasWon id = false ↔ tally.times id = 0 := by
  simp [hasWon]

end Tally

namespace Lexicon
variable {lexicon : Lexicon} {tally after : Tally} {site : Site} {claim : Claim} {error : Failure}

/-- The entry looks at the site and leaves it to the next one. -/
def Entry.Declines (entry : Entry) (tally : Tally) (site : Site) : Prop :=
  entry.claimant.claim entry.id tally site = .ok none

/-- The claim is the step that the entry makes of the site. -/
def Entry.Makes (entry : Entry) (tally : Tally) (site : Site) (claim : Claim) : Prop :=
  claim.claimant = entry.id ∧ entry.claimant.claim entry.id tally site = .ok (some claim.step)

theorem firstClaim_eq_some {entries : List Entry}
    (found : firstClaim tally site entries = .ok (some claim)) :
    ∃ before entry rest, entries = before ++ entry :: rest ∧
      (∀ other ∈ before, Entry.Declines other tally site) ∧ Entry.Makes entry tally site claim := by
  induction entries with
  | nil => cases found
  | cons entry entries ih =>
    simp only [firstClaim] at found
    split at found
    · cases found
    next step made =>
      cases found
      exact ⟨[], entry, entries, rfl, by simp, rfl, made⟩
    next declined =>
      obtain ⟨before, winner, rest, rfl, asked, made⟩ := ih found
      exact ⟨entry :: before, winner, rest, rfl, List.forall_mem_cons.mpr ⟨declined, asked⟩, made⟩

theorem firstClaim_eq_error {entries : List Entry} (found : firstClaim tally site entries = .error error) :
    ∃ before entry rest, entries = before ++ entry :: rest ∧
      (∀ other ∈ before, Entry.Declines other tally site) ∧
      entry.claimant.claim entry.id tally site = .error error := by
  induction entries with
  | nil => cases found
  | cons entry entries ih =>
    simp only [firstClaim] at found
    split at found
    next refused =>
      cases found
      exact ⟨[], entry, entries, rfl, by simp, refused⟩
    · cases found
    next declined =>
      obtain ⟨before, winner, rest, rfl, asked, refused⟩ := ih found
      exact ⟨entry :: before, winner, rest, rfl, List.forall_mem_cons.mpr ⟨declined, asked⟩, refused⟩

theorem firstClaim_eq_none {entries : List Entry} (found : firstClaim tally site entries = .ok none) :
    ∀ entry ∈ entries, Entry.Declines entry tally site := by
  induction entries with
  | nil => simp
  | cons entry entries ih =>
    simp only [firstClaim] at found
    split at found
    · cases found
    · cases found
    next declined => exact List.forall_mem_cons.mpr ⟨declined, ih found⟩

theorem firstClaim_skip {entry : Entry} {entries : List Entry}
    (declined : Entry.Declines entry tally site) :
    firstClaim tally site (entry :: entries) = firstClaim tally site entries := by
  rw [firstClaim, declined]

variable {pattern : String} {position : Nat} {c : Char} {rest : List Char}

/-- A site is won by an entry that its first character calls, or falls to the rule for unclaimed
text. -/
theorem dispatch_eq_ok
    (answer : lexicon.dispatch tally ⟨pattern, position, c :: rest⟩ = .ok (claim, after)) :
    after = tally.record claim.claimant ∧
      ((∃ entry ∈ lexicon.called c, Entry.Makes entry tally ⟨pattern, position, c :: rest⟩ claim) ∨
        claim = ⟨fallbackId, lexicon.fallbackStep c rest⟩ ∧
          ∀ entry ∈ lexicon.called c, Entry.Declines entry tally ⟨pattern, position, c :: rest⟩) := by
  simp only [dispatch] at answer
  split at answer
  · cases answer
  next found =>
    cases answer
    obtain ⟨before, entry, others, split, _, made⟩ := firstClaim_eq_some found
    exact ⟨rfl, Or.inl ⟨entry, by simp [split], made⟩⟩
  next found =>
    cases answer
    exact ⟨rfl, Or.inr ⟨rfl, firstClaim_eq_none found⟩⟩

theorem dispatch_eq_error
    (answer : lexicon.dispatch tally ⟨pattern, position, c :: rest⟩ = .error error) :
    ∃ entry ∈ lexicon.called c,
      entry.claimant.claim entry.id tally ⟨pattern, position, c :: rest⟩ = .error error := by
  simp only [dispatch] at answer
  split at answer
  next found =>
    cases answer
    obtain ⟨before, entry, others, split, _, refused⟩ := firstClaim_eq_error found
    exact ⟨entry, by simp [split], refused⟩
  · cases answer
  · cases answer

theorem dispatch_of_error
    (found : firstClaim tally ⟨pattern, position, c :: rest⟩ (lexicon.called c) = .error error) :
    lexicon.dispatch tally ⟨pattern, position, c :: rest⟩ = .error error := by
  simp only [dispatch, found]

end Lexicon

end NumberPattern
