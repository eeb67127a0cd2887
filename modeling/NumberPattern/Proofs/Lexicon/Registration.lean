import Mathlib.Data.List.Nodup
import NumberPattern.Proofs.Lexicon.Standard

/-! Registering claimants. A new entry takes the next number and is filed once under each of its triggers,
behind all entries of the same or a lower priority. Whatever is registered, and in which order, a character
calls the entries that have it among their triggers, by priority and then by registration. -/

namespace NumberPattern

/-- The entry has the lower priority, or the same one and the lower number. -/
def Entry.Precedes (entry other : Entry) : Prop :=
  entry.claimant.priority < other.claimant.priority ∨
    entry.claimant.priority = other.claimant.priority ∧ entry.id.number < other.id.number

namespace Lexicon

variable {entry other : Entry} {entries : List Entry} {c d : Char} {index : List (Char × List Entry)}

theorem mem_place : other ∈ place entry entries ↔ other = entry ∨ other ∈ entries := by
  induction entries with
  | nil => simp [place]
  | cons first entries ih =>
    rw [place]
    split
    · rw [List.mem_cons]
    · rw [List.mem_cons, ih, List.mem_cons]
      exact or_left_comm

theorem place_ne_nil (entry : Entry) (entries : List Entry) : place entry entries ≠ [] :=
  List.ne_nil_of_mem (mem_place.mpr (Or.inl rfl))

/-- An entry with a number above all others goes to its place in the order. -/
theorem place_precedes (newest : ∀ other ∈ entries, other.id.number < entry.id.number)
    (sorted : entries.Pairwise Entry.Precedes) : (place entry entries).Pairwise Entry.Precedes := by
  induction entries with
  | nil => exact List.pairwise_singleton _ _
  | cons first entries ih =>
    obtain ⟨least, rest⟩ := List.pairwise_cons.mp sorted
    obtain ⟨older, newest⟩ := List.forall_mem_cons.mp newest
    rw [place]
    split
    next lower =>
      refine List.pairwise_cons.mpr ⟨List.forall_mem_cons.mpr ⟨Or.inl lower, fun other member => ?_⟩, sorted⟩
      have above : first.claimant.priority ≤ other.claimant.priority :=
        (least other member).elim Int.le_of_lt fun level => Int.le_of_eq level.1
      exact Or.inl (Int.lt_of_lt_of_le lower above)
    next notLower =>
      refine List.pairwise_cons.mpr ⟨fun other member => ?_, ih newest rest⟩
      rcases mem_place.mp member with rfl | member
      · exact (Int.lt_or_eq_of_le (Int.not_lt.mp notLower)).imp_right fun level => ⟨level, older⟩
      · exact least other member

theorem lookup_file_self (entry : Entry) (c : Char) (index : List (Char × List Entry)) :
    (file entry c index).lookup c = some (place entry ((index.lookup c).getD [])) := by
  induction index with
  | nil => simp [file, place]
  | cons row index ih =>
    obtain ⟨key, called⟩ := row
    by_cases found : key = c
    · simp [file, found]
    · simp [file, found, List.lookup_cons, beq_false_of_ne (Ne.symm found), ih]

theorem lookup_file_other (different : d ≠ c) (entry : Entry) (index : List (Char × List Entry)) :
    (file entry c index).lookup d = index.lookup d := by
  induction index with
  | nil => simp [file, List.lookup_cons, beq_false_of_ne different]
  | cons row index ih =>
    obtain ⟨key, called⟩ := row
    by_cases found : key = c
    · simp [file, found, List.lookup_cons, beq_false_of_ne different]
    · simp [file, found, List.lookup_cons, ih]

theorem nodup_eraseDups (text : List Char) : text.eraseDups.Nodup := by
  induction size : text.length using Nat.strongRecOn generalizing text with
  | ind size ih =>
    cases text with
    | nil => simp
    | cons c text =>
      rw [List.eraseDups_cons, List.nodup_cons, List.mem_eraseDups]
      have shorter := List.length_filter_le (fun d => !(d == c)) text
      rw [List.length_cons] at size
      exact ⟨by simp, ih _ (by omega) _ rfl⟩

/-- Different triggers do not get in each other's way. -/
theorem lookup_fileAll {triggers : List Char} (different : triggers.Nodup) (entry : Entry)
    (index : List (Char × List Entry)) (c : Char) :
    (triggers.foldl (fun index trigger => file entry trigger index) index).lookup c =
      if c ∈ triggers then some (place entry ((index.lookup c).getD [])) else index.lookup c := by
  induction triggers generalizing index with
  | nil => simp
  | cons trigger triggers ih =>
    obtain ⟨absent, different⟩ := List.nodup_cons.mp different
    rw [List.foldl_cons, ih different]
    by_cases same : c = trigger
    · subst c
      rw [if_neg absent, lookup_file_self, if_pos List.mem_cons_self]
    · simp only [lookup_file_other same, List.mem_cons, same, false_or]

variable {lexicon : Lexicon} {claimant : Claimant} {claimants : List Claimant}

theorem lookup_register (lexicon : Lexicon) (claimant : Claimant) (c : Char) :
    (lexicon.register claimant).index.lookup c =
      if c ∈ claimant.triggers.toList then some (place ⟨lexicon.nextId, claimant⟩ (lexicon.called c))
      else lexicon.index.lookup c := by
  have filed := lookup_fileAll (nodup_eraseDups claimant.triggers.toList) ⟨lexicon.nextId, claimant⟩
    lexicon.index c
  simp only [List.mem_eraseDups] at filed
  exact filed

theorem called_register (lexicon : Lexicon) (claimant : Claimant) (c : Char) :
    (lexicon.register claimant).called c =
      if c ∈ claimant.triggers.toList then place ⟨lexicon.nextId, claimant⟩ (lexicon.called c)
      else lexicon.called c := by
  rw [called, lookup_register]
  split <;> rfl

/-- The entries of claimants that are registered in this order. -/
def numbered (claimants : List Claimant) : List Entry :=
  claimants.zipIdx.map fun item => ⟨⟨item.2 + 2⟩, item.1⟩

theorem length_numbered (claimants : List Claimant) : (numbered claimants).length = claimants.length := by
  simp [numbered]

theorem numbered_concat (claimants : List Claimant) (claimant : Claimant) :
    numbered (claimants ++ [claimant]) = numbered claimants ++ [⟨⟨claimants.length + 2⟩, claimant⟩] := by
  simp [numbered, List.zipIdx_append]

theorem number_lt_of_mem_numbered (member : entry ∈ numbered claimants) :
    1 < entry.id.number ∧ entry.id.number < claimants.length + 2 := by
  obtain ⟨item, listed, rfl⟩ := List.mem_map.mp member
  have bound := List.snd_lt_of_mem_zipIdx listed
  exact ⟨by simp, by simpa using bound⟩

theorem numbered_increasing (claimants : List Claimant) :
    (numbered claimants).Pairwise fun entry other => entry.id.number < other.id.number := by
  rw [numbered, List.pairwise_map]
  have places : (claimants.zipIdx.map Prod.snd).Pairwise (· < ·) := by
    rw [List.zipIdx_map_snd]
    exact List.pairwise_lt_range'
  exact (List.pairwise_map.mp places).imp fun before => Nat.add_lt_add_right before 2

/-- The lexicon keeps these claimants, each under all of its triggers and in order. -/
structure Filed (lexicon : Lexicon) (claimants : List Claimant) : Prop where
  entries : lexicon.entries = numbered claimants
  called : ∀ c entry, entry ∈ lexicon.called c ↔
    entry ∈ lexicon.entries ∧ c ∈ entry.claimant.triggers.toList
  order : ∀ c, (lexicon.called c).Pairwise Entry.Precedes
  trigger : ∀ c, lexicon.isTrigger c = true ↔ lexicon.called c ≠ []

namespace Filed

theorem bare (unclaimed : Unclaimed) : (Lexicon.bare unclaimed).Filed [] where
  entries := rfl
  called := by simp [Lexicon.called, Lexicon.bare]
  order := by simp [Lexicon.called, Lexicon.bare]
  trigger := by simp [isTrigger, Lexicon.called, Lexicon.bare]

theorem nextId (filed : lexicon.Filed claimants) : lexicon.nextId = ⟨claimants.length + 2⟩ := by
  rw [Lexicon.nextId, filed.entries, length_numbered]

theorem number_lt (filed : lexicon.Filed claimants) (member : entry ∈ lexicon.entries) :
    entry.id.number < lexicon.nextId.number := by
  rw [filed.entries] at member
  rw [filed.nextId]
  exact (number_lt_of_mem_numbered member).2

theorem entries_register (filed : lexicon.Filed claimants) (claimant : Claimant) :
    (lexicon.register claimant).entries = numbered (claimants ++ [claimant]) := by
  rw [numbered_concat, ← filed.entries, ← filed.nextId]
  rfl

theorem mem_called_register (filed : lexicon.Filed claimants) (claimant : Claimant) (c : Char)
    (entry : Entry) :
    entry ∈ (lexicon.register claimant).called c ↔
      entry ∈ (lexicon.register claimant).entries ∧ c ∈ entry.claimant.triggers.toList := by
  have grown : entry ∈ (lexicon.register claimant).entries ↔
      entry ∈ lexicon.entries ∨ entry = ⟨lexicon.nextId, claimant⟩ :=
    List.mem_append.trans (or_congr_right List.mem_singleton)
  rw [called_register, grown]
  by_cases calls : c ∈ claimant.triggers.toList
  · rw [if_pos calls, mem_place, filed.called]
    constructor
    · rintro (rfl | ⟨member, called⟩)
      · exact ⟨Or.inr rfl, calls⟩
      · exact ⟨Or.inl member, called⟩
    · rintro ⟨member | rfl, called⟩
      · exact Or.inr ⟨member, called⟩
      · exact Or.inl rfl
  · rw [if_neg calls, filed.called]
    constructor
    · exact fun ⟨member, called⟩ => ⟨Or.inl member, called⟩
    · rintro ⟨member | rfl, called⟩
      · exact ⟨member, called⟩
      · exact absurd called calls

theorem register (filed : lexicon.Filed claimants) (claimant : Claimant) :
    (lexicon.register claimant).Filed (claimants ++ [claimant]) where
  entries := filed.entries_register claimant
  called := filed.mem_called_register claimant
  order := by
    intro c
    rw [called_register]
    split
    · refine place_precedes (fun other member => ?_) (filed.order c)
      exact filed.number_lt ((filed.called c other).mp member).1
    · exact filed.order c
  trigger := by
    intro c
    rw [isTrigger, lookup_register, called_register]
    split
    · simp [place_ne_nil]
    · exact filed.trigger c

/-- Which tokens the claimants are registered for does not matter to the entries. -/
theorem registerToken (filed : lexicon.Filed claimants) (token : Token) :
    (lexicon.registerToken token).Filed (claimants ++ [token.claimant]) :=
  let kept := filed.register token.claimant
  ⟨kept.entries, kept.called, kept.order, kept.trigger⟩

theorem registerTokens (filed : lexicon.Filed claimants) (tokens : List Token) :
    (tokens.foldl Lexicon.registerToken lexicon).Filed (claimants ++ tokens.map Token.claimant) := by
  induction tokens generalizing lexicon claimants with
  | nil => simpa using filed
  | cons token tokens ih => simpa using ih (filed.registerToken token)

theorem standard (unclaimed : Unclaimed) :
    (Lexicon.standard unclaimed).Filed (Token.all.map Token.claimant) :=
  (Filed.bare unclaimed).registerTokens Token.all

/-- A number belongs to one entry. -/
theorem eq_of_id (filed : lexicon.Filed claimants) (member : entry ∈ lexicon.entries)
    (member' : other ∈ lexicon.entries) (same : entry.id = other.id) : entry = other := by
  rw [filed.entries] at member member'
  have increasing := numbered_increasing claimants
  have numbers : ((numbered claimants).map (·.id.number)).Nodup :=
    (List.pairwise_map.mpr increasing).imp Nat.ne_of_lt
  exact List.inj_on_of_nodup_map numbers member member' (congrArg ClaimantId.number same)

end Filed

/-- The lexicon with further claimants, in the order of their registration. -/
def registerAll (lexicon : Lexicon) (claimants : List Claimant) : Lexicon :=
  claimants.foldl register lexicon

@[simp] theorem unclaimed_registerAll : (lexicon.registerAll claimants).unclaimed = lexicon.unclaimed := by
  induction claimants generalizing lexicon with
  | nil => rfl
  | cons claimant claimants ih => exact ih

@[simp] theorem tokens_registerAll : (lexicon.registerAll claimants).tokens = lexicon.tokens := by
  induction claimants generalizing lexicon with
  | nil => rfl
  | cons claimant claimants ih => exact ih

theorem lookup_registerAll (untriggered : ∀ claimant ∈ claimants, c ∉ claimant.triggers.toList) :
    (lexicon.registerAll claimants).index.lookup c = lexicon.index.lookup c := by
  induction claimants generalizing lexicon with
  | nil => rfl
  | cons claimant claimants ih =>
    obtain ⟨first, others⟩ := List.forall_mem_cons.mp untriggered
    refine (ih others).trans ?_
    rw [lookup_register, if_neg first]

theorem Filed.registerAll (filed : lexicon.Filed claimants) (further : List Claimant) :
    (lexicon.registerAll further).Filed (claimants ++ further) := by
  induction further generalizing lexicon claimants with
  | nil =>
    rw [List.append_nil]
    exact filed
  | cons claimant further ih =>
    rw [List.append_cons]
    exact ih (filed.register claimant)

theorem tokenEntry_mem {token : Token} (member : token ∈ Token.all) (further : List Claimant) :
    token.entry ∈ numbered (Token.all.map Token.claimant ++ further) := by
  have own : token.entry ∈ numbered (Token.all.map Token.claimant) := by
    cases token <;> simp [numbered, Token.all, Token.entry, Token.claimantId]
  rw [numbered, List.zipIdx_append, List.map_append]
  exact List.mem_append_left _ own

/-- The lexicon has the standard tokens, and what bears the number of a token is the entry of the token. -/
structure HoldsTokens (lexicon : Lexicon) : Prop where
  tokens : lexicon.tokens = Token.all.map fun token => (token, token.claimantId)
  entry : ∀ c, ∀ entry ∈ lexicon.called c, ∀ token : Token, entry.id = token.claimantId → entry = token.entry

/-- Further claimants take none of the numbers of the tokens. -/
theorem holdsTokens_registerAll (unclaimed : Unclaimed) (claimants : List Claimant) :
    ((standard unclaimed).registerAll claimants).HoldsTokens where
  tokens := tokens_registerAll.trans (standard_tokens unclaimed)
  entry := by
    intro c entry called token same
    have filed := (Filed.standard unclaimed).registerAll claimants
    refine filed.eq_of_id ((filed.called c entry).mp called).1 ?_ same
    rw [filed.entries]
    exact tokenEntry_mem token.mem_all claimants

theorem holdsTokens_standard (unclaimed : Unclaimed) : (standard unclaimed).HoldsTokens := by
  have none := holdsTokens_registerAll unclaimed []
  rwa [registerAll, List.foldl_nil] at none

variable {tally after : Tally} {pattern : String} {position : Nat} {rest : List Char} {claim : Claim}
  {token : Token}

/-- What is claimed under the number of a token was taken by the token. -/
theorem HoldsTokens.taken (holds : lexicon.HoldsTokens) (won : claim.claimant = token.claimantId)
    (answer : lexicon.dispatch tally ⟨pattern, position, c :: rest⟩ = .ok (claim, after)) :
    token.claim token.claimantId tally ⟨pattern, position, c :: rest⟩ = .ok (some claim.step) := by
  obtain ⟨_, ⟨entry, called, winner, made⟩ | ⟨rfl, _⟩⟩ := dispatch_eq_ok answer
  · obtain rfl := holds.entry c entry called token (winner.symm.trans won)
    exact made
  · exact absurd won.symm (Token.claimantId_ne_fallback token)

end Lexicon

end NumberPattern
