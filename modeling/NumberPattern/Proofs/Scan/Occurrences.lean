import NumberPattern.Proofs.Plan.Order
import NumberPattern.Proofs.Scan.Malformed
import NumberPattern.Proofs.Scan.Places
import NumberPattern.Proofs.Token.Symbols

/-! Which characters of a pattern become tokens. Most tokens have a character of their own, which no other
claim takes or echoes, so they are claimed at its first place or at all of them, and some only behind another
token. The first point is claimed together with the brackets around it. -/

namespace NumberPattern.Scan
open Lexicon (standard fallbackId Answer)

/-- The character stands at the place, and nowhere before. -/
def FirstAt (c : Char) (text : List Char) (place : Nat) : Prop :=
  text[place]? = some c ∧ ∀ earlier < place, text[earlier]? ≠ some c

/-- The character stands at the place, and nowhere between the start and the place. -/
def NextAt (c : Char) (text : List Char) (start place : Nat) : Prop :=
  start < place ∧ text[place]? = some c ∧ ∀ between < place, start < between → text[between]? ≠ some c

/-- The point stands between brackets. -/
def Bracketed (text : List Char) (dot : Nat) : Prop :=
  ∃ before after, text = before ++ '[' :: '.' :: ']' :: after ∧ dot = before.length + 1

variable {text : List Char} {c : Char} {place other : Nat}

theorem FirstAt.unique (first : FirstAt c text place) (first' : FirstAt c text other) : place = other := by
  have notBefore : ¬ other < place := fun less => first.2 other less first'.1
  have notAfter : ¬ place < other := fun less => first'.2 place less first.1
  omega

theorem notMem_take : c ∉ text.take place ↔ ∀ earlier < place, text[earlier]? ≠ some c := by
  simp [List.mem_iff_getElem?, List.getElem?_take]

/-- What happens at most once, and whenever it can, happens at the first chance. -/
theorem first_chance {happens chance : Nat → Prop}
    (step : ∀ place, happens place ↔ chance place ∧ ∀ earlier < place, ¬ happens earlier) (place : Nat) :
    happens place ↔ chance place ∧ ∀ earlier < place, ¬ chance earlier := by
  constructor
  · intro now
    obtain ⟨able, first⟩ := (step place).mp now
    refine ⟨able, fun earlier before could => first earlier before ?_⟩
    exact (step earlier).mpr ⟨could, fun other less => first other (Nat.lt_trans less before)⟩
  · rintro ⟨able, first⟩
    exact (step place).mpr ⟨able, fun earlier before now => first earlier before ((step earlier).mp now).1⟩

/-- The first place behind an anchor, when there is but one anchor. -/
theorem first_behind {anchor : Nat → Prop} (unique : ∀ start other, anchor start → anchor other → start = other) :
    ((text[place]? = some c ∧ ∃ start < place, anchor start) ∧
        ∀ earlier < place, ¬ (text[earlier]? = some c ∧ ∃ start < earlier, anchor start)) ↔
      ∃ start, anchor start ∧ NextAt c text start place := by
  constructor
  · rintro ⟨⟨stands, start, before, own⟩, first⟩
    refine ⟨start, own, before, stands, fun between inside behind found => ?_⟩
    exact first between inside ⟨found, start, behind, own⟩
  · rintro ⟨start, own, before, stands, next⟩
    refine ⟨⟨stands, start, before, own⟩, ?_⟩
    rintro earlier inside ⟨found, start', behind, own'⟩
    obtain rfl := unique start' start own' own
    exact next earlier inside behind found

variable {unclaimed : Unclaimed} {pattern : String} {claims : List Claim} {claim : Claim}
  {tally standing : Tally} {rest : List Char} {token : Token}

/-- The prerequisite of the token has a claim before the place. -/
def Ready (claims : List Claim) (token : Token) (place : Nat) : Prop :=
  ∀ prior, token.prerequisite? = some prior → ∃ earlier < place, Opens claims earlier prior.claimantId

theorem ready_of_none (free : token.prerequisite? = none) : Ready claims token place := by
  intro prior needs
  rw [free] at needs
  cases needs

theorem ready_iff {prior : Token} (needs : token.prerequisite? = some prior) :
    Ready claims token place ↔ ∃ earlier < place, Opens claims earlier prior.claimantId := by
  simp [Ready, needs]

section
variable (reached : Reached unclaimed pattern claims place claim standing c rest)
include reached

theorem Reached.admitted_iff (notInteger : token ≠ .integer) :
    Token.Admitted token token.claimantId standing ↔
      Ready claims token place ∧
        (token.isSingle = true → ∀ earlier < place, ¬ Opens claims earlier token.claimantId) := by
  have known (prior : Token) : standing.hasToken prior = true ↔
      ∃ earlier < place, Opens claims earlier prior.claimantId := by
    rw [reached.registered.hasToken, reached.wins]
  constructor
  · rintro ⟨fresh, prior, _⟩
    exact ⟨fun other needs => (known other).mp (prior other needs),
      fun single => reached.hasWon_eq_false.mp (fresh single)⟩
  · rintro ⟨ready, fresh⟩
    exact ⟨fun single => reached.hasWon_eq_false.mpr (fresh single),
      fun other needs => (known other).mpr (ready other needs), fun integer => absurd integer notInteger⟩

theorem Reached.calls (won : claim.claimant = token.claimantId) : c ∈ token.triggers.toList :=
  (reached.answer.taken won).1

theorem Reached.offered (won : claim.claimant = token.claimantId) :
    token.offer standing ⟨pattern, (siteAt pattern place).position, c :: rest⟩ = .ok (some claim.step) :=
  (Token.claim_eq_some (reached.answer.taken won).2).2

theorem Reached.spelled (won : claim.claimant = token.claimantId) :
    Token.Spells (covered pattern place claim) token := by
  rw [covered, reached.text, Nat.add_comm 1, List.take_succ_cons]
  exact (Token.spells_of_claim (reached.calls won) (reached.answer.taken won).2).2

/-- A character with a token of its own is claimed by the token where that is admitted, and left over
elsewhere. -/
theorem Reached.symbol (own : token.symbol? = some c) :
    claim.claimant = token.claimantId ∧ Token.Admitted token token.claimantId standing ∨
      claim.claimant = fallbackId ∧ ¬ Token.Admitted token token.claimantId standing := by
  have made := reached.answer
  cases made with
  | token other step calls taken =>
    obtain rfl := (Token.symbol_calls own).mp calls
    exact Or.inl ⟨rfl, Token.admitted_of_claim taken⟩
  | unclaimed declined =>
    exact Or.inr ⟨rfl, (Token.claim_symbol_eq_none own).mp (declined token ((Token.symbol_calls own).mpr rfl))⟩

end

section
variable (progress : Progress (standard unclaimed) pattern claims tally)
include progress

theorem Progress.not_opens_before (single : token.isSingle = true)
    (opens : Opens claims place token.claimantId) :
    ∀ earlier < place, ¬ Opens claims earlier token.claimantId := by
  obtain ⟨before, claim, after, split, rfl, won⟩ := opens.split
  intro earlier less opens'
  obtain ⟨other, within, won'⟩ := (located_before split).mpr ⟨earlier, less, opens'⟩
  rw [split] at progress
  exact progress.single_claimed (Lexicon.holdsTokens_standard unclaimed) won single other within won'

theorem Progress.opens_unique (single : token.isSingle = true)
    (opens : Opens claims place token.claimantId) (opens' : Opens claims other token.claimantId) :
    place = other := by
  have notBefore : ¬ other < place := fun less => progress.not_opens_before single opens other less opens'
  have notAfter : ¬ place < other := fun less => progress.not_opens_before single opens' place less opens
  omega

theorem Progress.opened_behind {prior : Token} (needs : token.prerequisite? = some prior)
    (opens : Opens claims place token.claimantId) : ∃ earlier < place, Opens claims earlier prior.claimantId := by
  obtain ⟨before, claim, after, split, rfl, won⟩ := opens.split
  have claimed := split ▸ progress
  exact (located_before split).mp (claimed.prior_claimed (Lexicon.holdsTokens_standard unclaimed) won needs)

variable (finished : Finished pattern claims)
include finished

theorem Progress.symbol_starts (own : token.symbol? = some c) (stands : pattern.toList[place]? = some c) :
    ∃ claim, (place, claim) ∈ located 0 claims := by
  rcases progress.starts_or_swallowed finished stands (Token.symbol_mem_callers own) with
    found | ⟨_, _, _, _, _, other, _, swallowed⟩
  · exact found
  · exact absurd swallowed (Token.symbol_not_swallowed own other)

theorem Progress.opens_or_left (own : token.symbol? = some c) (stands : pattern.toList[place]? = some c) :
    Opens claims place token.claimantId ∨ Opens claims place fallbackId := by
  obtain ⟨claim, member⟩ := progress.symbol_starts finished own stands
  obtain ⟨standing, d, rest, reached⟩ := progress.reached member
  cases reached.char.symm.trans stands
  exact (reached.symbol own).imp (fun won => ⟨claim, member, won.1⟩) fun left => ⟨claim, member, left.1⟩

/-- A token with a character of its own is claimed at each place of the character that is left to it. -/
theorem Progress.opens_iff (own : token.symbol? = some c) (place : Nat) :
    Opens claims place token.claimantId ↔
      (pattern.toList[place]? = some c ∧ Ready claims token place) ∧
        (token.isSingle = true → ∀ earlier < place, ¬ Opens claims earlier token.claimantId) := by
  have notInteger : token ≠ .integer := by
    rintro rfl
    cases own
  constructor
  · rintro ⟨claim, member, won⟩
    obtain ⟨standing, d, rest, reached⟩ := progress.reached member
    obtain rfl : d = c := (Token.mem_triggers_symbol own).mp (reached.calls won)
    rcases reached.symbol own with ⟨_, admitted⟩ | ⟨left, _⟩
    · obtain ⟨ready, fresh⟩ := (reached.admitted_iff notInteger).mp admitted
      exact ⟨⟨reached.char, ready⟩, fresh⟩
    · exact absurd (won.symm.trans left) (Token.claimantId_ne_fallback token)
  · rintro ⟨⟨stands, ready⟩, fresh⟩
    obtain ⟨claim, member⟩ := progress.symbol_starts finished own stands
    obtain ⟨standing, d, rest, reached⟩ := progress.reached member
    cases reached.char.symm.trans stands
    rcases reached.symbol own with ⟨won, _⟩ | ⟨_, refused⟩
    · exact ⟨claim, member, won⟩
    · exact absurd ((reached.admitted_iff notInteger).mpr ⟨ready, fresh⟩) refused

/-- A single token with a character of its own is claimed at the first place where it is ready. -/
theorem Progress.opens_first (own : token.symbol? = some c) (single : token.isSingle = true) :
    Opens claims place token.claimantId ↔
      (pattern.toList[place]? = some c ∧ Ready claims token place) ∧
        ∀ earlier < place, ¬ (pattern.toList[earlier]? = some c ∧ Ready claims token earlier) := by
  have step (place : Nat) : Opens claims place token.claimantId ↔
      (pattern.toList[place]? = some c ∧ Ready claims token place) ∧
        ∀ earlier < place, ¬ Opens claims earlier token.claimantId := by
    rw [progress.opens_iff finished own]
    simp only [single, forall_const]
  exact first_chance step place

theorem Progress.opens_firstAt (own : token.symbol? = some c) (single : token.isSingle = true)
    (free : token.prerequisite? = none) :
    Opens claims place token.claimantId ↔ FirstAt c pattern.toList place := by
  rw [progress.opens_first finished own single, FirstAt]
  simp only [ready_of_none free, and_true, ne_eq]

theorem Progress.opens_every (own : token.symbol? = some c) (repeated : token.isSingle = false)
    (free : token.prerequisite? = none) :
    Opens claims place token.claimantId ↔ pattern.toList[place]? = some c := by
  rw [progress.opens_iff finished own]
  simp only [ready_of_none free, repeated, Bool.false_eq_true, false_implies, and_true]

theorem Progress.opens_nextAt (own : token.symbol? = some c) (single : token.isSingle = true) {prior : Token}
    (needs : token.prerequisite? = some prior) (single' : prior.isSingle = true) :
    Opens claims place token.claimantId ↔
      ∃ start, Opens claims start prior.claimantId ∧ NextAt c pattern.toList start place := by
  rw [progress.opens_first finished own single]
  simp only [ready_iff needs]
  exact first_behind fun start other opens opens' => progress.opens_unique single' opens opens'

end

theorem bracket_calls (calls : '[' ∈ token.triggers.toList) : token = .point ∨ token = .decimals := by
  cases token <;> first | exact Or.inl rfl | exact Or.inr rfl | exact absurd calls (by decide)

/-- A claim of the point takes the first point of the pattern, with the brackets around it if it has any. -/
theorem Reached.of_point (reached : Reached unclaimed pattern claims place claim standing c rest)
    (point : claim.claimant = Token.point.claimantId) :
    claim.step.action = .point false ∧ c = '.' ∧ FirstAt '.' pattern.toList place ∨
      claim.step.action = .point true ∧ c = '[' ∧ FirstAt '.' pattern.toList (place + 1) ∧
        Bracketed pattern.toList (place + 1) := by
  obtain ⟨before, earlier, extent_eq⟩ := reached.progress
  have text := reached.text
  have char := reached.char
  have next := reached.next
  have fresh := (Token.admitted_of_claim (reached.answer.taken point).2).fresh rfl
  have unread : ∀ earlier < place, pattern.toList[earlier]? ≠ some '.' := by
    rw [← notMem_take, ← extent_eq]
    exact earlier.no_point fresh
  rcases Token.claimPoint_eq_some (reached.offered point) with ⟨after, spelled, made⟩ | ⟨after, spelled, made⟩
  · cases spelled
    exact Or.inl ⟨by rw [made], rfl, char, unread⟩
  · cases spelled
    refine Or.inr ⟨by rw [made], rfl, ⟨next, fun other less => ?_⟩, pattern.toList.take place, after, ?_, ?_⟩
    · rcases Nat.lt_succ_iff_lt_or_eq.mp less with less | rfl
      · exact unread other less
      · rw [char]
        decide
    · rw [← text, List.take_append_drop]
    · obtain ⟨inside, _⟩ := List.getElem?_eq_some_iff.mp char
      rw [List.length_take_of_le (Nat.le_of_lt inside)]

section
variable (progress : Progress (standard unclaimed) pattern claims tally)
include progress

theorem Progress.point_not_before {dot : Nat} (first : FirstAt '.' pattern.toList dot)
    (opens : Opens claims place Token.point.claimantId) : dot ≤ place + 1 := by
  obtain ⟨claim, member, won⟩ := opens
  obtain ⟨standing, c, rest, reached⟩ := progress.reached member
  rcases reached.of_point won with ⟨_, _, first'⟩ | ⟨_, _, first', _⟩
  · exact Nat.le_succ_of_le (Nat.le_of_eq (first.unique first'))
  · exact Nat.le_of_eq (first.unique first')

variable (finished : Finished pattern claims)
include finished

/-- The first point is claimed. -/
theorem Progress.opens_point {dot : Nat} (first : FirstAt '.' pattern.toList dot) :
    ∃ place, Opens claims place Token.point.claimantId := by
  rcases progress.starts_or_swallowed finished first.1 (by decide) with
    ⟨claim, member⟩ | ⟨start, _, claim, member, _, token, won, swallowed⟩
  · obtain ⟨standing, c, rest, reached⟩ := progress.reached member
    obtain rfl : c = '.' := Option.some.inj (reached.char.symm.trans first.1)
    by_contra never
    have fresh : standing.hasWon Token.point.claimantId = false :=
      reached.hasWon_eq_false.mpr fun earlier _ opens => never ⟨earlier, opens⟩
    exact first_char_ne_point reached.answer fresh (fun won => never ⟨dot, claim, member, won⟩) rfl
  · obtain rfl : token = .point := by
      cases token <;> first | rfl | exact absurd swallowed (by decide)
    exact ⟨start, claim, member, won⟩

/-- A bracket before the first point is where the point is claimed. -/
theorem Progress.opens_bracket {dot : Nat} (first : FirstAt '.' pattern.toList (dot + 1))
    (bracketed : Bracketed pattern.toList (dot + 1)) : Opens claims dot Token.point.claimantId := by
  obtain ⟨before, after, text, own⟩ := bracketed
  obtain rfl : dot = before.length := Nat.succ.inj own
  have behind : pattern.toList.drop before.length = '[' :: '.' :: ']' :: after := by
    rw [text, List.drop_left]
  have bracket : pattern.toList[before.length]? = some '[' := by
    rw [← List.head?_drop, behind, List.head?_cons]
  -- until the bracket neither the point nor the decimals behind it are claimed
  have fresh : ∀ earlier < before.length, ¬ Opens claims earlier Token.point.claimantId := by
    intro earlier less opens
    have late := progress.point_not_before first opens
    omega
  have noDecimals : ∀ earlier ≤ before.length, ¬ Opens claims earlier Token.decimals.claimantId := by
    intro earlier within opens
    obtain ⟨prior, less, point⟩ := progress.opened_behind (show _ = some Token.point from rfl) opens
    exact fresh prior (Nat.lt_of_lt_of_le less within) point
  rcases progress.starts_or_swallowed finished bracket (by decide) with
    ⟨claim, member⟩ | ⟨start, less, claim, member, _, token, won, swallowed⟩
  · obtain ⟨standing, c, rest, reached⟩ := progress.reached member
    cases reached.text.symm.trans behind
    have made := reached.answer
    cases made with
    | token token step calls taken =>
      rcases bracket_calls calls with rfl | rfl
      · exact ⟨_, member, rfl⟩
      · exact absurd ⟨_, member, rfl⟩ (noDecimals _ (Nat.le_refl _))
    | unclaimed declined =>
      have refused := declined .point (by decide)
      simp only [Token.claim, reached.hasWon_eq_false.mpr fresh] at refused
      cases refused
  · obtain rfl : token = .decimals := by
      cases token <;> first | rfl | exact absurd swallowed (by decide)
    exact absurd ⟨claim, member, won⟩ (noDecimals start (Nat.le_of_lt less))

theorem Progress.opens_point_iff :
    Opens claims place Token.point.claimantId ↔
      FirstAt '.' pattern.toList place ∧ ¬ Bracketed pattern.toList place ∨
        FirstAt '.' pattern.toList (place + 1) ∧ Bracketed pattern.toList (place + 1) := by
  constructor
  · intro opens
    obtain ⟨claim, member, won⟩ := opens
    obtain ⟨standing, c, rest, reached⟩ := progress.reached member
    rcases reached.of_point won with ⟨_, _, first⟩ | ⟨_, _, first, bracketed⟩
    · refine Or.inl ⟨first, fun bracketed => ?_⟩
      obtain ⟨dot, rfl⟩ : ∃ dot, place = dot + 1 := by
        obtain ⟨before, _, _, own⟩ := bracketed
        exact ⟨before.length, own⟩
      have opens := progress.opens_bracket finished first bracketed
      exact progress.not_opens_before rfl ⟨claim, member, won⟩ dot (Nat.lt_succ_self dot) opens
    · exact Or.inr ⟨first, bracketed⟩
  · rintro (⟨first, bare⟩ | ⟨first, bracketed⟩)
    · obtain ⟨other, claim, member, won⟩ := progress.opens_point finished first
      obtain ⟨standing, c, rest, reached⟩ := progress.reached member
      rcases reached.of_point won with ⟨_, _, first'⟩ | ⟨_, _, first', bracketed⟩
      · exact first.unique first' ▸ ⟨claim, member, won⟩
      · exact absurd (first.unique first' ▸ bracketed) bare
    · exact progress.opens_bracket finished first bracketed

end

/-- The tokens that are claimed once, with their characters. -/
def onceTokens : List (Token × Char) :=
  [(.percent, '%'), (.openParen, '('), (.plus, '+'), (.currency, '$'), (.minus, '-')]

/-- The tokens that are claimed whenever their characters stand in the pattern. -/
def everyTokens : List (Token × Char) := [(.byteUnit, 'b'), (.ordinal, 'o'), (.abbreviation, 'a')]

/-- Which characters of the pattern its claims took for tokens. -/
structure Found (pattern : String) (claims : List Claim) : Prop where
  /-- A token takes one of its spellings and nothing around it. -/
  spelled : ∀ place claim, (place, claim) ∈ located 0 claims → ∀ token : Token,
    claim.claimant = token.claimantId → Token.Spells (covered pattern place claim) token
  once : ∀ token c, (token, c) ∈ onceTokens → ∀ place,
    Opens claims place token.claimantId ↔ FirstAt c pattern.toList place
  /-- Every later place is left over. -/
  again : ∀ token c, (token, c) ∈ onceTokens → ∀ place, pattern.toList[place]? = some c →
    ¬ FirstAt c pattern.toList place → Opens claims place fallbackId
  closeParen : ∀ place, Opens claims place Token.closeParen.claimantId ↔
    ∃ opening, FirstAt '(' pattern.toList opening ∧ NextAt ')' pattern.toList opening place
  point : ∀ place, Opens claims place Token.point.claimantId ↔
    FirstAt '.' pattern.toList place ∧ ¬ Bracketed pattern.toList place ∨
      FirstAt '.' pattern.toList (place + 1) ∧ Bracketed pattern.toList (place + 1)
  optional : ∀ place claim, (place, claim) ∈ located 0 claims → claim.claimant = Token.point.claimantId →
    ∃ optional, claim.step.action = .point optional ∧
      (optional = true ↔ Bracketed pattern.toList (place + 1))
  /-- Without a claim of the integer there is none of the grouping. -/
  grouping : ∀ place, Opens claims place Token.grouping.claimantId ↔
    ∃ start, Opens claims start Token.integer.claimantId ∧ NextAt ',' pattern.toList start place
  every : ∀ token c, (token, c) ∈ everyTokens → ∀ place,
    Opens claims place token.claimantId ↔ pattern.toList[place]? = some c
  forced : ∀ place claim, (place, claim) ∈ located 0 claims →
    claim.claimant = Token.abbreviation.claimantId →
    ∃ choice, claim.step.action = .abbreviate choice ∧ ∀ magnitude,
      choice = .forced magnitude ↔ pattern.toList[place + 1]? = some magnitude.letter

theorem Reached.of_abbreviation (reached : Reached unclaimed pattern claims place claim standing c rest)
    (won : claim.claimant = Token.abbreviation.claimantId) :
    ∃ choice, claim.step.action = .abbreviate choice ∧ ∀ magnitude,
      choice = .forced magnitude ↔ pattern.toList[place + 1]? = some magnitude.letter := by
  have made : .ok (some (Token.claimAbbreviation (c :: rest))) = Except.ok (some claim.step) :=
    reached.offered won
  rw [Except.ok.injEq, Option.some.injEq] at made
  refine ⟨.chosenBy rest, ?_, fun magnitude => ?_⟩
  · rw [← made, Token.action_claimAbbreviation]
  · rw [Abbreviation.chosenBy_eq_forced, reached.next]

theorem Reached.optional_iff (reached : Reached unclaimed pattern claims place claim standing c rest)
    (won : claim.claimant = Token.point.claimantId) :
    ∃ optional, claim.step.action = .point optional ∧
      (optional = true ↔ Bracketed pattern.toList (place + 1)) := by
  rcases reached.of_point won with ⟨action, rfl, _⟩ | ⟨action, _, _, bracketed⟩
  · refine ⟨false, action, by simp, fun bracketed => ?_⟩
    obtain ⟨before, after, text, own⟩ := bracketed
    obtain rfl : place = before.length := Nat.succ.inj own
    have char := reached.char
    rw [text, List.getElem?_append_right (Nat.le_refl _), Nat.sub_self] at char
    cases char
  · exact ⟨true, action, by simp [bracketed]⟩

theorem once_spec : ∀ item ∈ onceTokens,
    item.1.symbol? = some item.2 ∧ item.1.isSingle = true ∧ item.1.prerequisite? = none := by
  decide

theorem every_spec : ∀ item ∈ everyTokens,
    item.1.symbol? = some item.2 ∧ item.1.isSingle = false ∧ item.1.prerequisite? = none := by
  decide

theorem Progress.found (progress : Progress (standard unclaimed) pattern claims tally)
    (finished : Finished pattern claims) : Found pattern claims where
  spelled := by
    intro place claim member token won
    obtain ⟨standing, c, rest, reached⟩ := progress.reached member
    exact reached.spelled won
  once := by
    intro token c member place
    obtain ⟨own, single, free⟩ := once_spec _ member
    exact progress.opens_firstAt finished own single free
  again := by
    intro token c member place stands again
    obtain ⟨own, single, free⟩ := once_spec _ member
    exact (progress.opens_or_left finished own stands).resolve_left fun opens =>
      again ((progress.opens_firstAt finished own single free).mp opens)
  closeParen := by
    intro place
    rw [progress.opens_nextAt finished rfl rfl (show _ = some Token.openParen from rfl) rfl]
    simp only [progress.opens_firstAt finished (show Token.openParen.symbol? = some '(' from rfl) rfl rfl]
  point := fun place => progress.opens_point_iff finished
  optional := by
    intro place claim member won
    obtain ⟨standing, c, rest, reached⟩ := progress.reached member
    exact reached.optional_iff won
  grouping := fun place => progress.opens_nextAt finished rfl rfl rfl rfl
  every := by
    intro token c member place
    obtain ⟨own, repeated, free⟩ := every_spec _ member
    exact progress.opens_every finished own repeated free
  forced := by
    intro place claim member won
    obtain ⟨standing, c, rest, reached⟩ := progress.reached member
    exact reached.of_abbreviation won

/-- In every pattern that compiles the same characters become tokens, whatever stands around them and
whether unclaimed text is echoed or skipped. -/
theorem tokens_found (unclaimed : Unclaimed) (serial : Nat) (pattern : String) (plan : Plan)
    (compiled : Plan.compile (standard unclaimed) serial pattern = .ok plan) :
    ∃ claims, Plan.scan (standard unclaimed) pattern = .ok claims ∧
      plan = Plan.ofClaims (standard unclaimed) serial pattern claims ∧ Found pattern claims := by
  obtain ⟨claims, scanned, rfl⟩ := Plan.compile_eq_ok_iff.mp compiled
  obtain ⟨tally, progress, finished⟩ := scan_eq_ok_iff.mp scanned
  exact ⟨claims, scanned, rfl, progress.found finished⟩

/-- Tokens inside parentheses, with a second percent sign that is left over. -/
theorem tokens_found_parens :
    ∃ plan claims, Plan.compile (standard .echo) 0 "(%aK0,0[.]00)%b" = .ok plan ∧
      Plan.scan (standard .echo) "(%aK0,0[.]00)%b" = .ok claims ∧ Found "(%aK0,0[.]00)%b" claims ∧
      Opens claims 1 Token.percent.claimantId ∧ Opens claims 13 fallbackId ∧
      Opens claims 12 Token.closeParen.claimantId ∧ Opens claims 14 Token.byteUnit.claimantId := by
  let claims : List Claim :=
    [⟨⟨5⟩, { action := .openParen, weight := Weight.leadingSign }⟩,
      ⟨⟨2⟩, { action := .percent, weight := Weight.scale }⟩,
      ⟨⟨4⟩, { action := .abbreviate (.forced .thousand), weight := Weight.scale, consumed := 1 }⟩,
      ⟨⟨7⟩, { action := .integer, weight := Weight.integer }⟩,
      ⟨⟨10⟩, { action := .group, weight := Weight.delimiter, consumed := 1 }⟩,
      ⟨⟨11⟩, { action := .point true, weight := Weight.delimiter, consumed := 2 }⟩,
      ⟨⟨12⟩, Token.decimalsStep 2 0 1⟩,
      ⟨⟨13⟩, { action := .closeParen, weight := Weight.trailingSign }⟩,
      ⟨fallbackId, { action := .literal "%", weight := Weight.literal }⟩,
      ⟨⟨3⟩, { action := .byteUnit, weight := Weight.scale }⟩]
  have scanned : Plan.scan (standard .echo) "(%aK0,0[.]00)%b" = .ok claims := rfl
  have compiled : Plan.compile (standard .echo) 0 "(%aK0,0[.]00)%b" =
      .ok (Plan.ofClaims (standard .echo) 0 "(%aK0,0[.]00)%b" claims) :=
    Plan.compile_eq_ok_iff.mpr ⟨claims, scanned, rfl⟩
  obtain ⟨others, scanned', _, found⟩ := tokens_found .echo 0 "(%aK0,0[.]00)%b" _ compiled
  cases scanned.symm.trans scanned'
  have open_ : FirstAt '(' "(%aK0,0[.]00)%b".toList 0 := ⟨rfl, by decide⟩
  have percent : FirstAt '%' "(%aK0,0[.]00)%b".toList 1 := ⟨rfl, by decide⟩
  refine ⟨_, claims, compiled, scanned, found, ?_, ?_, ?_, ?_⟩
  · exact (found.once .percent '%' (by decide) 1).mpr percent
  · exact found.again .percent '%' (by decide) 13 rfl fun again => absurd (percent.unique again) (by decide)
  · exact (found.closeParen 12).mpr ⟨0, open_, by decide, rfl, by decide⟩
  · exact (found.every .byteUnit 'b' (by decide) 14).mpr rfl

end NumberPattern.Scan
