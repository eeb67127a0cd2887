import NumberPattern.Proofs.Scan.Pieces

/-! Where the claims of a scan start. Every character of a finished scan lies in a claim; one that no claim
takes beyond its first character starts a claim wherever it stands. -/

namespace NumberPattern.Scan
open Lexicon (standard fallbackId Answer)

/-- A claim under this number starts at the place. -/
def Opens (claims : List Claim) (place : Nat) (id : ClaimantId) : Prop :=
  ∃ claim, (place, claim) ∈ located 0 claims ∧ claim.claimant = id

variable {unclaimed : Unclaimed} {pattern : String} {claims : List Claim} {claim : Claim} {tally : Tally}
  {start place : Nat} {c d : Char} {rest : List Char} {token : Token}

theorem mem_located :
    (place, claim) ∈ located start claims ↔
      ∃ before after, claims = before ++ claim :: after ∧ place = start + extent before := by
  induction claims generalizing start with
  | nil => simp [located]
  | cons first claims ih =>
    rw [located, List.mem_cons, ih]
    constructor
    · rintro (same | ⟨before, after, rfl, rfl⟩)
      · cases same
        exact ⟨[], claims, rfl, rfl⟩
      · exact ⟨first :: before, after, rfl, by rw [extent_cons, Nat.add_assoc]⟩
    · rintro ⟨before, after, split, rfl⟩
      cases before with
      | nil =>
        cases split
        exact Or.inl rfl
      | cons other before =>
        cases split
        exact Or.inr ⟨before, after, rfl, by rw [extent_cons, ← Nat.add_assoc]⟩

/-- The claims leave no gap. -/
theorem exists_located (behind : start ≤ place) (inside : place < start + extent claims) :
    ∃ item ∈ located start claims, item.1 ≤ place ∧ place < item.1 + (1 + item.2.step.consumed) := by
  induction claims generalizing start with
  | nil =>
    rw [extent_nil] at inside
    omega
  | cons claim claims ih =>
    by_cases within : place < start + (1 + claim.step.consumed)
    · exact ⟨(start, claim), List.mem_cons_self, behind, within⟩
    · rw [extent_cons, ← Nat.add_assoc] at inside
      obtain ⟨item, member, covers⟩ := ih (Nat.le_of_not_lt within) inside
      exact ⟨item, List.mem_cons_of_mem _ member, covers⟩

theorem located_before {before after : List Claim} (split : claims = before ++ claim :: after) {id : ClaimantId} :
    (∃ other ∈ before, other.claimant = id) ↔ ∃ earlier < extent before, Opens claims earlier id := by
  subst claims
  constructor
  · rintro ⟨other, member, own⟩
    obtain ⟨first, last, rfl⟩ := List.append_of_mem member
    refine ⟨extent first, ?_, other, mem_located.mpr ⟨first, last ++ claim :: after, by simp, by simp⟩, own⟩
    rw [extent_append, extent_cons]
    omega
  · rintro ⟨earlier, less, other, member, own⟩
    rw [located_append, List.mem_append] at member
    rcases member with member | member
    · obtain ⟨first, last, rfl, _⟩ := mem_located.mp member
      exact ⟨other, by simp, own⟩
    · obtain ⟨_, _, _, rfl⟩ := mem_located.mp member
      omega

theorem Opens.split {id : ClaimantId} (opens : Opens claims place id) :
    ∃ before claim after, claims = before ++ claim :: after ∧ extent before = place ∧ claim.claimant = id := by
  obtain ⟨claim, member, own⟩ := opens
  obtain ⟨before, after, split, reached⟩ := mem_located.mp member
  exact ⟨before, claim, after, split, by rw [reached, Nat.zero_add], own⟩

/-- The scan has come to a claim, with the text and the tally that it was made on. -/
structure Reached (unclaimed : Unclaimed) (pattern : String) (claims : List Claim) (place : Nat)
    (claim : Claim) (standing : Tally) (c : Char) (rest : List Char) : Prop where
  text : pattern.toList.drop place = c :: rest
  answer : Answer unclaimed standing pattern (siteAt pattern place).position c rest claim
  progress : ∃ before, Progress (standard unclaimed) pattern before standing ∧ extent before = place
  wins : ∀ id, standing.hasWon id = true ↔ ∃ earlier < place, Opens claims earlier id

theorem Progress.reached (progress : Progress (standard unclaimed) pattern claims tally)
    (member : (place, claim) ∈ located 0 claims) :
    ∃ standing c rest, Reached unclaimed pattern claims place claim standing c rest := by
  obtain ⟨before, after, split, own⟩ := mem_located.mp member
  rw [Nat.zero_add] at own
  subst own
  rw [split] at progress
  obtain ⟨standing, next, earlier, answer⟩ := progress.split
  obtain ⟨c, rest, text, made⟩ := answer_at answer
  exact ⟨standing, c, rest, text, made, ⟨before, earlier, rfl⟩,
    fun id => earlier.hasWon_iff.trans (located_before split)⟩

section
variable {standing : Tally} (reached : Reached unclaimed pattern claims place claim standing c rest)
include reached

theorem Reached.registered : standing.Standard := by
  obtain ⟨before, progress, _⟩ := reached.progress
  exact progress.registered

theorem Reached.char : pattern.toList[place]? = some c := by
  rw [← List.head?_drop, reached.text, List.head?_cons]

theorem Reached.next : pattern.toList[place + 1]? = rest.head? := by
  rw [← List.head?_drop, ← List.drop_drop, reached.text, List.drop_succ_cons, List.drop_zero]

theorem Reached.hasWon_eq_false {id : ClaimantId} :
    standing.hasWon id = false ↔ ∀ earlier < place, ¬ Opens claims earlier id := by
  rw [← Bool.not_eq_true, reached.wins]
  simp only [not_exists, not_and]

/-- A character that a claim takes with its first one belongs to the spelling of its token, or calls
nobody. -/
theorem Reached.swallowed {inner : Nat} (behind : place < inner)
    (within : inner < place + (1 + claim.step.consumed)) (stands : pattern.toList[inner]? = some d) :
    (∃ token : Token, claim.claimant = token.claimantId ∧ d ∈ token.swallows) ∨ d ∉ Token.callers := by
  have member : d ∈ rest.take claim.step.consumed := by
    have shifted : rest[inner - (place + 1)]? = some d := by
      rw [← stands, ← List.head?_drop, ← List.head?_drop]
      congr 1
      rw [show inner = place + 1 + (inner - (place + 1)) by omega, ← List.drop_drop, ← List.drop_drop,
        reached.text]
      simp
    refine List.mem_of_getElem? (i := inner - (place + 1)) ?_
    rw [List.getElem?_take_of_lt (by omega), shifted]
  have made := reached.answer
  cases made with
  | token token step calls taken =>
    exact Or.inl ⟨token, rfl, (Token.spells_of_claim calls taken).2.tail_mem member⟩
  | unclaimed declined => exact Or.inr (Lexicon.mem_take_fallbackStep member)

end

/-- A character that calls a token starts a claim, unless a claim of a token that starts before takes it. -/
theorem Progress.starts_or_swallowed (progress : Progress (standard unclaimed) pattern claims tally)
    (finished : Finished pattern claims) (stands : pattern.toList[place]? = some c)
    (calls : c ∈ Token.callers) :
    (∃ claim, (place, claim) ∈ located 0 claims) ∨
      ∃ start < place, ∃ claim, (start, claim) ∈ located 0 claims ∧ place < start + (1 + claim.step.consumed) ∧
        ∃ token : Token, claim.claimant = token.claimantId ∧ c ∈ token.swallows := by
  obtain ⟨inside, _⟩ := List.getElem?_eq_some_iff.mp stands
  have within : place < 0 + extent claims := by
    rw [Nat.zero_add]
    exact Nat.lt_of_lt_of_le inside finished
  obtain ⟨⟨start, claim⟩, member, before, after⟩ := exists_located (Nat.zero_le place) within
  rcases Nat.eq_or_lt_of_le before with rfl | before
  · exact Or.inl ⟨claim, member⟩
  · obtain ⟨standing, first, rest, reached⟩ := progress.reached member
    obtain own | plain := reached.swallowed before after stands
    · exact Or.inr ⟨start, before, claim, member, after, own⟩
    · exact absurd calls plain

end NumberPattern.Scan
