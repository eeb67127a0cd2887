import NumberPattern.Proofs.Token.Brackets

/-! What a claim of a standard token says about the step that it makes: the action, the weight, the
fragment, the gate that was open, and the characters taken beyond the first one. -/

namespace NumberPattern

namespace Action

/-- The standard token that an action belongs to. -/
def token? : Action → Option Token
  | literal _ => none
  | skip => none
  | percent => some .percent
  | byteUnit => some .byteUnit
  | abbreviate _ => some .abbreviation
  | openParen => some .openParen
  | plus => some .plus
  | integer => some .integer
  | ordinal => some .ordinal
  | clock => some .clock
  | group => some .grouping
  | point _ => some .point
  | decimals _ _ => some .decimals
  | closeParen => some .closeParen
  | currency _ => some .currency
  | minus => some .minus
  | custom _ => none

variable {action : Action}

theorem eq_integer (kind : action.token? = some .integer) : action = .integer := by
  cases action with
  | integer => rfl
  | _ => cases kind

theorem eq_group (kind : action.token? = some .grouping) : action = .group := by
  cases action with
  | group => rfl
  | _ => cases kind

theorem eq_point (kind : action.token? = some .point) : ∃ optional, action = .point optional := by
  cases action with
  | point optional => exact ⟨optional, rfl⟩
  | _ => cases kind

theorem eq_currency (kind : action.token? = some .currency) :
    ∃ carriesSign, action = .currency carriesSign := by
  cases action with
  | currency carriesSign => exact ⟨carriesSign, rfl⟩
  | _ => cases kind

theorem eq_decimals (kind : action.token? = some .decimals) :
    ∃ places optional, action = .decimals places optional := by
  cases action with
  | decimals places optional => exact ⟨places, optional, rfl⟩
  | _ => cases kind

/-- The fragment that goes with an action. -/
def fragment? : Action → Option Precision
  | decimals places optional => some ⟨some places, some optional⟩
  | _ => none

end Action

namespace Token

def weight : Token → Int
  | percent | byteUnit | abbreviation => Weight.scale
  | openParen | plus => Weight.leadingSign
  | integer | ordinal | clock => Weight.integer
  | grouping | point => Weight.delimiter
  | decimals => Weight.decimals
  | closeParen => Weight.trailingSign
  | currency => Weight.currency
  | minus => Weight.minus

/-- Whether a pattern can have at most one claim of the token. -/
def isSingle : Token → Bool
  | byteUnit | abbreviation | ordinal | clock => false
  | _ => true

/-- The token that must have been claimed before. -/
def prerequisite? : Token → Option Token
  | grouping => some integer
  | decimals => some point
  | closeParen => some openParen
  | _ => none

variable {token : Token} {id : ClaimantId} {tally : Tally} {site : Site} {step : Step}

/-- The shape of a step that a standard token makes. -/
structure Made (token : Token) (step : Step) : Prop where
  action : step.action.token? = some token
  weight : step.weight = token.weight
  fragment : step.fragment = step.action.fragment?
  optional : ∀ places optional, step.action = .decimals places optional → 0 < places ∧ optional ≤ places

theorem made_decimalsStep {mandatory optional consumed : Nat} (some_ : 0 < mandatory + optional) :
    Made .decimals (decimalsStep mandatory optional consumed) where
  action := rfl
  weight := rfl
  fragment := rfl
  optional := by
    intro places zeros same
    cases same
    exact ⟨some_, Nat.le_add_left _ _⟩

theorem made_claimDecimals (taken : claimDecimals site = .ok (some step)) : Made .decimals step := by
  rcases claimDecimals_eq_some taken with ⟨_, _, _, positive, _, rfl⟩ | ⟨_, _, positive, _, _, _, rfl⟩
  · exact made_decimalsStep (by omega)
  · exact made_decimalsStep (by omega)

theorem made_claimPoint (taken : claimPoint site = .ok (some step)) : Made .point step := by
  rcases claimPoint_eq_some taken with ⟨_, _, rfl⟩ | ⟨_, _, rfl⟩
  · exact ⟨rfl, rfl, rfl, by simp⟩
  · exact ⟨rfl, rfl, rfl, by simp⟩

theorem made_claimAbbreviation (rest : List Char) : Made .abbreviation (claimAbbreviation rest) := by
  unfold claimAbbreviation
  split
  · split <;> exact ⟨rfl, rfl, rfl, by simp⟩
  · exact ⟨rfl, rfl, rfl, by simp⟩

theorem made_plain {action : Action} {weight : Int} (kind : action.token? = some token)
    (heavy : weight = token.weight) (bare : action.fragment? = none)
    (taken : plain action weight = .ok (some step)) : Made token step := by
  cases taken
  exact ⟨kind, heavy, bare.symm, by rintro places optional rfl; cases bare⟩

/-- Whether the token may be claimed at all. -/
def admits (token : Token) (id : ClaimantId) (tally : Tally) : Bool :=
  !(token.isSingle && tally.hasWon id) && token.prerequisite?.all tally.hasToken &&
    !(token = .integer && tally.hasToken .point)

/-- What a token makes of a site when it may be claimed. -/
def offer (token : Token) (tally : Tally) (site : Site) : Except Failure (Option Step) :=
  match token with
  | percent => plain .percent Weight.scale
  | byteUnit => plain .byteUnit Weight.scale
  | abbreviation => .ok (some (claimAbbreviation site.rest))
  | openParen => plain .openParen Weight.leadingSign
  | plus => plain .plus Weight.leadingSign
  | integer => plain .integer Weight.integer
  | ordinal => plain .ordinal Weight.integer
  | clock =>
      if clockTemplate.isPrefixOf site.rest then
        .ok (some { action := .clock, weight := Weight.integer, consumed := clockTemplate.length - 1 })
      else .ok none
  | grouping => .ok (some (claimGrouping site.rest))
  | point => claimPoint site
  | decimals => claimDecimals site
  | closeParen => plain .closeParen Weight.trailingSign
  | currency => plain (.currency (currencyCarriesSign tally)) Weight.currency
  | minus => plain .minus Weight.minus

theorem claim_eq (token : Token) (id : ClaimantId) (tally : Tally) (site : Site) :
    token.claim id tally site = if token.admits id tally then token.offer tally site else .ok none := by
  cases token with
  | grouping => simp only [claim, offer, admits, apply_ite]; simp [isSingle, prerequisite?]
  | _ => simp [claim, offer, admits, isSingle, prerequisite?]

theorem claim_eq_some (taken : token.claim id tally site = .ok (some step)) :
    token.admits id tally = true ∧ token.offer tally site = .ok (some step) := by
  rw [claim_eq] at taken
  split at taken
  next admitted => exact ⟨admitted, taken⟩
  · cases taken

/-- The conditions under which a token is claimed. -/
structure Admitted (token : Token) (id : ClaimantId) (tally : Tally) : Prop where
  fresh : token.isSingle = true → tally.hasWon id = false
  prior : ∀ prior, token.prerequisite? = some prior → tally.hasToken prior = true
  noPoint : token = .integer → tally.hasToken .point = false

theorem admits_iff : token.admits id tally = true ↔ Admitted token id tally := by
  simp only [admits, Bool.and_eq_true, Bool.not_eq_true', Bool.and_eq_false_imp, decide_eq_true_eq]
  constructor
  · rintro ⟨⟨fresh, prior⟩, noPoint⟩
    refine ⟨fresh, ?_, noPoint⟩
    intro token needs
    rw [needs] at prior
    exact prior
  · rintro ⟨fresh, prior, noPoint⟩
    refine ⟨⟨fresh, ?_⟩, noPoint⟩
    cases needs : token.prerequisite? with
    | none => rfl
    | some token => exact prior token needs

theorem admitted_of_claim (taken : token.claim id tally site = .ok (some step)) :
    Admitted token id tally :=
  admits_iff.mp (claim_eq_some taken).1

theorem made_of_claim (taken : token.claim id tally site = .ok (some step)) : Made token step := by
  have made := (claim_eq_some taken).2
  cases token with
  | abbreviation => cases made; exact made_claimAbbreviation _
  | clock =>
    simp only [offer] at made
    split at made
    · cases made; exact ⟨rfl, rfl, rfl, by simp⟩
    · cases made
  | grouping => cases made; exact ⟨rfl, rfl, rfl, by simp [claimGrouping]⟩
  | point => exact made_claimPoint made
  | decimals => exact made_claimDecimals made
  | percent | byteUnit | openParen | plus | integer | ordinal | closeParen | currency | minus =>
    exact made_plain rfl rfl rfl made

/-- Only the point and the decimals find a pattern malformed. -/
theorem claim_eq_error {error : Failure} (refused : token.claim id tally site = .error error) :
    tally.hasWon id = false ∧ (token = .point ∧ claimPoint site = .error error ∨
      token = .decimals ∧ tally.hasToken .point = true ∧ claimDecimals site = .error error) := by
  rw [claim_eq] at refused
  split at refused
  next admitted =>
    cases token with
    | point => exact ⟨by simpa [admits, isSingle, prerequisite?] using admitted, Or.inl ⟨rfl, refused⟩⟩
    | decimals =>
      have gate : tally.hasWon id = false ∧ tally.hasToken .point = true := by
        simpa [admits, isSingle, prerequisite?] using admitted
      exact ⟨gate.1, Or.inr ⟨rfl, gate.2, refused⟩⟩
    | clock =>
      simp only [offer] at refused
      split at refused <;> cases refused
    | _ => cases refused
  · cases refused

/-- The texts that a claim of the token may cover. -/
def Spells (piece : List Char) : Token → Prop
  | abbreviation => piece = ['a'] ∨ ∃ letter, (Magnitude.ofLetter? letter).isSome ∧ piece = ['a', letter]
  | clock => piece = clockTemplate
  | grouping => piece = [','] ∨ piece = [',', '0']
  | point => piece = ['.'] ∨ piece = ['[', '.', ']']
  | decimals => ∃ mandatory optional, 0 < mandatory + optional ∧
      piece = List.replicate mandatory '0' ++
        if optional = 0 then [] else '[' :: (List.replicate optional '0' ++ [']'])
  | token => piece = token.triggers.toList

variable {pattern : String} {position : Nat} {c : Char} {rest : List Char}

theorem take_piece {consumed : Nat} (piece : List Char) {after : List Char}
    (text : c :: rest = piece ++ after)
    (size : piece.length = consumed + 1) : consumed ≤ rest.length ∧ c :: rest.take consumed = piece := by
  have lengths := congrArg List.length text
  simp only [List.length_cons, List.length_append] at lengths
  refine ⟨by omega, ?_⟩
  calc
    c :: rest.take consumed = (c :: rest).take (consumed + 1) := rfl
    _ = (piece ++ after).take piece.length := by rw [text, size]
    _ = piece := List.take_left

theorem spells_claimAbbreviation :
    (claimAbbreviation ('a' :: rest)).consumed ≤ rest.length ∧
      Spells ('a' :: rest.take (claimAbbreviation ('a' :: rest)).consumed) .abbreviation := by
  unfold claimAbbreviation
  split
  next first letter after text =>
    cases text
    split
    next found => exact ⟨by simp, Or.inr ⟨letter, by simp [found], rfl⟩⟩
    · exact ⟨by simp, Or.inl rfl⟩
  · exact ⟨by simp, Or.inl rfl⟩

theorem spells_claimGrouping :
    (claimGrouping (',' :: rest)).consumed ≤ rest.length ∧
      Spells (',' :: rest.take (claimGrouping (',' :: rest)).consumed) .grouping := by
  cases rest with
  | nil => exact ⟨by simp [claimGrouping], Or.inl rfl⟩
  | cons d rest =>
    by_cases zero : d = '0'
    · subst d
      exact ⟨by simp [claimGrouping], Or.inr rfl⟩
    · exact ⟨by simp [claimGrouping, zero], Or.inl (by simp [claimGrouping, zero])⟩

theorem spells_claimPoint (taken : claimPoint ⟨pattern, position, c :: rest⟩ = .ok (some step)) :
    step.consumed ≤ rest.length ∧ Spells (c :: rest.take step.consumed) .point := by
  rcases claimPoint_eq_some taken with ⟨after, text, rfl⟩ | ⟨after, text, rfl⟩
  · cases text
    exact ⟨by simp, Or.inl rfl⟩
  · cases text
    exact ⟨by simp, Or.inr rfl⟩

theorem spells_claimDecimals (taken : claimDecimals ⟨pattern, position, c :: rest⟩ = .ok (some step)) :
    step.consumed ≤ rest.length ∧ Spells (c :: rest.take step.consumed) .decimals := by
  rcases claimDecimals_eq_some taken with
    ⟨mandatory, optional, after, positive, text, rfl⟩ | ⟨mandatory, after, positive, _, _, text, rfl⟩
  · have size : (List.replicate mandatory '0' ++ '[' :: (List.replicate optional '0' ++ [']'])).length =
        mandatory + optional + 1 + 1 := by
      simp only [List.length_append, List.length_replicate, List.length_cons, List.length_nil]
      omega
    have split : c :: rest =
        List.replicate mandatory '0' ++ '[' :: (List.replicate optional '0' ++ [']']) ++ after := by
      simpa using text
    have covered := take_piece _ split size
    refine ⟨covered.1, mandatory, optional, by omega, ?_⟩
    rw [if_neg (by omega)]
    exact covered.2
  · have size : (List.replicate mandatory '0').length = mandatory - 1 + 1 := by
      rw [List.length_replicate]
      omega
    have covered := take_piece _ text size
    refine ⟨covered.1, mandatory, 0, by omega, ?_⟩
    rw [if_pos rfl, List.append_nil]
    exact covered.2

/-- A claim stays within the text and covers one of the spellings of its token. -/
theorem spells_of_claim (calls : c ∈ token.triggers.toList)
    (taken : token.claim id tally ⟨pattern, position, c :: rest⟩ = .ok (some step)) :
    step.consumed ≤ rest.length ∧ Spells (c :: rest.take step.consumed) token := by
  have made := (claim_eq_some taken).2
  cases token with
  | abbreviation =>
    obtain rfl : c = 'a' := by simpa [triggers] using calls
    cases made
    exact spells_claimAbbreviation
  | clock =>
    simp only [offer] at made
    split at made
    next template =>
      cases made
      obtain ⟨after, text⟩ := List.isPrefixOf_iff_prefix.mp template
      exact take_piece _ text.symm rfl
    · cases made
  | grouping =>
    obtain rfl : c = ',' := by simpa [triggers] using calls
    cases made
    exact spells_claimGrouping
  | point => exact spells_claimPoint made
  | decimals => exact spells_claimDecimals made
  | percent | byteUnit | openParen | plus | integer | ordinal | closeParen | currency | minus =>
    cases made
    exact ⟨by simp, by simpa [Spells, triggers] using calls⟩

/-- The characters that a claim of the token may take beyond its first one. -/
def swallows : Token → List Char
  | abbreviation => ['K', 'M', 'B', 'T']
  | clock => ['0', ':']
  | grouping => ['0']
  | point => ['.', ']']
  | decimals => ['0', '[', ']']
  | _ => []

theorem ofLetter?_isSome {letter : Char} (forced : (Magnitude.ofLetter? letter).isSome) :
    letter ∈ abbreviation.swallows := by
  unfold Magnitude.ofLetter? at forced
  split at forced
  all_goals first | decide | cases forced

theorem mem_swallows_decimals {mandatory optional : Nat} {d : Char}
    (member : d ∈ List.replicate mandatory '0' ++
      if optional = 0 then [] else '[' :: (List.replicate optional '0' ++ [']'])) :
    d ∈ decimals.swallows := by
  rcases List.mem_append.mp member with zero | bracketed
  · rw [List.eq_of_mem_replicate zero]
    decide
  · split at bracketed
    · cases bracketed
    · simp only [List.mem_cons, List.mem_append, List.mem_replicate, List.not_mem_nil, or_false] at bracketed
      rcases bracketed with rfl | ⟨_, rfl⟩ | rfl <;> decide

theorem Spells.tail_mem {token : Token} {tail : List Char} {d : Char} (spelled : Spells (c :: tail) token)
    (member : d ∈ tail) : d ∈ token.swallows := by
  cases token with
  | abbreviation =>
    rcases spelled with alone | ⟨letter, forced, pair⟩
    · cases alone
      cases member
    · cases pair
      rw [List.mem_singleton.mp member]
      exact ofLetter?_isSome forced
  | clock =>
    cases spelled
    have subset : ['0', ':', '0', '0', ':', '0', '0'] ⊆ clock.swallows := by decide
    exact subset member
  | grouping =>
    rcases spelled with alone | pair
    · cases alone
      cases member
    · cases pair
      exact member
  | point =>
    rcases spelled with alone | bracketed
    · cases alone
      cases member
    · cases bracketed
      exact member
  | decimals =>
    obtain ⟨mandatory, optional, _, piece⟩ := spelled
    exact mem_swallows_decimals (piece ▸ List.mem_cons_of_mem c member)
  | percent | byteUnit | openParen | plus | integer | ordinal | closeParen | currency | minus =>
    cases spelled
    cases member

/-- Only the point and the decimals take a point or a bracket beyond their first character. -/
theorem Spells.plain_tail {token : Token} {tail : List Char} (spelled : Spells (c :: tail) token)
    (notPoint : token ≠ .point) (notDecimals : token ≠ .decimals) : '.' ∉ tail ∧ '[' ∉ tail := by
  have foreign : '.' ∉ token.swallows ∧ '[' ∉ token.swallows := by
    cases token with
    | point => exact absurd rfl notPoint
    | decimals => exact absurd rfl notDecimals
    | _ => decide
  exact ⟨fun dot => foreign.1 (spelled.tail_mem dot), fun bracket => foreign.2 (spelled.tail_mem bracket)⟩

end Token

end NumberPattern
