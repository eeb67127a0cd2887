import NumberPattern.Proofs.Lexicon.Registration

/-! The history of a lexicon: it starts empty or with the standard tokens, claimants are registered one
after the other, and the rule for unclaimed text is set now and then. At any moment the candidates for a
character are told by the history alone. -/

namespace NumberPattern.Lexicon

/-- What a lexicon starts with. -/
inductive Origin where
  | bare
  | standard

def Origin.tokens : Origin → List Token
  | bare => []
  | standard => Token.all

def Origin.lexicon : Origin → Unclaimed → Lexicon
  | bare => Lexicon.bare
  | standard => Lexicon.standard

inductive Change where
  | register (claimant : Claimant)
  | setUnclaimed (unclaimed : Unclaimed)

def Change.claimant? : Change → Option Claimant
  | register claimant => some claimant
  | setUnclaimed _ => none

def change (lexicon : Lexicon) : Change → Lexicon
  | .register claimant => lexicon.register claimant
  | .setUnclaimed unclaimed => { lexicon with unclaimed := unclaimed }

def changeAll (lexicon : Lexicon) (changes : List Change) : Lexicon := changes.foldl change lexicon

/-- The claimant of `id` is asked before that of `other`: its priority is lower, or the same, and then it
was registered before. -/
def AskedBefore (lexicon : Lexicon) (id other : ClaimantId) : Prop :=
  ∃ entry ∈ lexicon.entries, ∃ later ∈ lexicon.entries,
    entry.id = id ∧ later.id = other ∧ entry.Precedes later

/-- A lexicon with the standard tokens `tokens` in which these claimants, the ones of the tokens among them,
were registered in this order. -/
structure Registers (lexicon : Lexicon) (claimants : List Claimant) (tokens : List Token) : Prop where
  /-- The claimants are numbered in the order of registration, behind the source of unclaimed text. -/
  entries : lexicon.entries = numbered claimants
  next : lexicon.nextId = ⟨claimants.length + 2⟩
  increasing : lexicon.entries.Pairwise fun entry other => entry.id.number < other.id.number
  notFallback : ∀ entry ∈ lexicon.entries, entry.id ≠ fallbackId
  /-- A character calls the claimants that have it among their triggers. -/
  candidate : ∀ c id, id ∈ lexicon.candidates c ↔
    ∃ entry ∈ lexicon.entries, entry.id = id ∧ c ∈ entry.claimant.triggers.toList
  distinct : ∀ c, (lexicon.candidates c).Nodup
  order : ∀ c, (lexicon.candidates c).Pairwise lexicon.AskedBefore
  trigger : ∀ c, lexicon.isTrigger c = true ↔ lexicon.candidates c ≠ []
  /-- A token keeps the number and the claimant that it started with. -/
  tokenId : ∀ token, lexicon.tokenId? token = if token ∈ tokens then some token.claimantId else none
  tokenEntry : ∀ token ∈ tokens, token.entry ∈ lexicon.entries
  token : ∀ id token, lexicon.token? id = some token ↔ lexicon.tokenId? token = some id

variable {lexicon : Lexicon} {claimants : List Claimant} {tokens : List Token}

theorem Filed.change (filed : lexicon.Filed claimants) (change : Change) :
    (lexicon.change change).Filed (claimants ++ change.claimant?.toList) := by
  cases change with
  | register claimant => exact filed.register claimant
  | setUnclaimed unclaimed =>
    rw [Change.claimant?, Option.toList_none, List.append_nil]
    exact ⟨filed.entries, filed.called, filed.order, filed.trigger⟩

theorem Filed.changeAll (filed : lexicon.Filed claimants) (changes : List Change) :
    (lexicon.changeAll changes).Filed (claimants ++ changes.filterMap Change.claimant?) := by
  induction changes generalizing lexicon claimants with
  | nil =>
    rw [List.filterMap_nil, List.append_nil]
    exact filed
  | cons change changes ih =>
    have rest := ih (filed.change change)
    rw [List.append_assoc] at rest
    cases change with
    | register claimant => exact rest
    | setUnclaimed unclaimed => exact rest

theorem Origin.filed (origin : Origin) (unclaimed : Unclaimed) :
    (origin.lexicon unclaimed).Filed (origin.tokens.map Token.claimant) := by
  cases origin with
  | bare => exact .bare unclaimed
  | standard => exact .standard unclaimed

/-- The table of tokens that a lexicon starts with. -/
def tokenTable (tokens : List Token) : List (Token × ClaimantId) :=
  tokens.map fun token => (token, token.claimantId)

theorem Origin.tokens_lexicon (origin : Origin) (unclaimed : Unclaimed) :
    (origin.lexicon unclaimed).tokens = tokenTable origin.tokens := by
  cases origin with
  | bare => rfl
  | standard => exact standard_tokens unclaimed

theorem tokens_changeAll (lexicon : Lexicon) (changes : List Change) :
    (lexicon.changeAll changes).tokens = lexicon.tokens := by
  induction changes generalizing lexicon with
  | nil => rfl
  | cons change changes ih =>
    have kept : (lexicon.change change).tokens = lexicon.tokens := by cases change <;> rfl
    exact (ih (lexicon.change change)).trans kept

theorem tokenId_of_table (table : lexicon.tokens = tokenTable tokens) (token : Token) :
    lexicon.tokenId? token = if token ∈ tokens then some token.claimantId else none := by
  rw [tokenId?, table, tokenTable, lookup_map_key, List.elem_eq_mem]
  simp only [decide_eq_true_eq]

/-- Numbers and tokens are told from each other. -/
theorem token_of_table (table : lexicon.tokens = tokenTable tokens) {id : ClaimantId} {token : Token} :
    lexicon.token? id = some token ↔ lexicon.tokenId? token = some id := by
  have named : lexicon.tokenId? token = some id ↔ token ∈ tokens ∧ token.claimantId = id := by
    rw [tokenId_of_table table, Option.ite_none_right_eq_some, Option.some.injEq]
  have key : lexicon.token? id = tokens.find? fun token => token.claimantId = id := by
    rw [token?, table, tokenTable, List.find?_map, Option.map_map]
    exact Option.map_id' ..
  rw [named, key]
  constructor
  · intro found
    exact ⟨List.mem_of_find?_eq_some found, by simpa using List.find?_some found⟩
  · rintro ⟨member, rfl⟩
    have present : (tokens.find? fun other => other.claimantId = token.claimantId).isSome :=
      List.find?_isSome.mpr ⟨token, member, by simp⟩
    obtain ⟨other, found⟩ := Option.isSome_iff_exists.mp present
    have same : other = token := Token.claimantId_injective (by simpa using List.find?_some found)
    exact same ▸ found

theorem Filed.notFallback (filed : lexicon.Filed claimants) :
    ∀ entry ∈ lexicon.entries, entry.id ≠ fallbackId := by
  intro entry member same
  rw [filed.entries] at member
  have above := (number_lt_of_mem_numbered member).1
  rw [same] at above
  exact Nat.lt_irrefl _ above

theorem Filed.candidate (filed : lexicon.Filed claimants) (c : Char) (id : ClaimantId) :
    id ∈ lexicon.candidates c ↔
      ∃ entry ∈ lexicon.entries, entry.id = id ∧ c ∈ entry.claimant.triggers.toList := by
  rw [candidates, List.mem_map]
  constructor
  · rintro ⟨entry, called, own⟩
    obtain ⟨member, calls⟩ := (filed.called c entry).mp called
    exact ⟨entry, member, own, calls⟩
  · rintro ⟨entry, member, own, calls⟩
    exact ⟨entry, (filed.called c entry).mpr ⟨member, calls⟩, own⟩

/-- No entry is asked twice, since none precedes itself. -/
theorem Filed.distinct (filed : lexicon.Filed claimants) (c : Char) : (lexicon.candidates c).Nodup := by
  rw [candidates, List.Nodup, List.pairwise_map]
  refine (filed.order c).imp_of_mem ?_
  intro entry other called called' before same
  obtain rfl := filed.eq_of_id ((filed.called c _).mp called).1 ((filed.called c _).mp called').1 same
  rcases before with lower | ⟨_, older⟩
  · exact Int.lt_irrefl _ lower
  · exact Nat.lt_irrefl _ older

theorem Filed.askedBefore (filed : lexicon.Filed claimants) (c : Char) :
    (lexicon.candidates c).Pairwise lexicon.AskedBefore := by
  rw [candidates, List.pairwise_map]
  refine (filed.order c).imp_of_mem ?_
  intro entry other called called' before
  exact ⟨entry, ((filed.called c _).mp called).1, other, ((filed.called c _).mp called').1, rfl, rfl, before⟩

/-- After any history the claimants are numbered and asked as they were registered, and the standard tokens
keep the numbers that they had at the start, whatever is registered later. -/
theorem registration_order (origin : Origin) (unclaimed : Unclaimed) (changes : List Change) :
    ((origin.lexicon unclaimed).changeAll changes).Registers
      (origin.tokens.map Token.claimant ++ changes.filterMap Change.claimant?) origin.tokens := by
  have filed := (origin.filed unclaimed).changeAll changes
  have table := (tokens_changeAll (origin.lexicon unclaimed) changes).trans (origin.tokens_lexicon unclaimed)
  exact {
    entries := filed.entries
    next := filed.nextId
    increasing := by
      rw [filed.entries]
      exact numbered_increasing _
    notFallback := filed.notFallback
    candidate := filed.candidate
    distinct := filed.distinct
    order := filed.askedBefore
    trigger := fun c => (filed.trigger c).trans (not_congr List.map_eq_nil_iff).symm
    tokenId := tokenId_of_table table
    tokenEntry := by
      intro token member
      rw [filed.entries]
      cases origin with
      | bare => cases member
      | standard => exact tokenEntry_mem member _
    token := fun id token => token_of_table table }

/-- A token registered again is a claimant like any other: it is asked behind those of its priority. -/
example : ((standard .echo).register Token.integer.claimant).candidates '0' = [⟨9⟩, ⟨7⟩, ⟨16⟩, ⟨12⟩] := by
  rfl

end NumberPattern.Lexicon
