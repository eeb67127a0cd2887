import NumberPattern.Proofs.Scan.Slices

/-! The scan as a loop with its cursor in a word of 64 bits. The cursor counts characters and the lexicon is
called at positions in bytes. The loop takes no more turns than the pattern has characters and comes to the
answer of the scan, whatever the claimants take, as long as the cursor does not wrap around. -/

namespace NumberPattern.Scan
open Lexicon (Origin Change)
open Plan (scan compile)

/-- The variables of the loop. -/
structure Loop where
  cursor : UInt64
  tally : Tally
  claims : List Claim
  /-- The positions of the calls so far. -/
  calls : List Nat

namespace Loop

def start (lexicon : Lexicon) : Loop := ⟨0, lexicon.tally, [], []⟩

def position? (pattern : String) (cursor : UInt64) : Option Nat :=
  (charIndices 0 pattern.toList)[cursor.toNat]?.map Prod.fst

/-- The loop behind a claim at the position. -/
def next (loop : Loop) (position : Nat) (claim : Claim) (tally : Tally) : Loop where
  cursor := loop.cursor + (1 + .ofNat claim.step.consumed)
  tally := tally
  claims := loop.claims ++ [claim]
  calls := loop.calls ++ [position]

/-- The calls and the answer, unless the loop takes more than `turns` turns. -/
def run (lexicon : Lexicon) (pattern : String) :
    (turns : Nat) → Loop → Option (List Nat × Except Failure (List Claim))
  | turns, loop =>
      match position? pattern loop.cursor with
      | none => some (loop.calls, .ok loop.claims)
      | some position =>
          match turns with
          | 0 => none
          | turns + 1 =>
              match lexicon.dispatch loop.tally (.ofPosition pattern position) with
              | .error error => some (loop.calls ++ [position], .error error)
              | .ok (claim, tally) => run lexicon pattern turns (loop.next position claim tally)

end Loop

/-- A claimant that is no token takes no more than the cursor can count. -/
def Moderate (lexicon : Lexicon) (pattern : String) : Prop :=
  ∀ claims tally claim after, Progress lexicon pattern claims tally →
    lexicon.dispatch tally (siteAt pattern (extent claims)) = .ok (claim, after) →
    ∀ entry ∈ lexicon.entries, (∀ token : Token, entry.claimant ≠ token.claimant) →
      Lexicon.Entry.Makes entry tally (siteAt pattern (extent claims)) claim →
      extent claims + 1 + claim.step.consumed < 2 ^ 64

/-- The cursor can count what the scan takes, at any time. -/
def Counted (lexicon : Lexicon) (pattern : String) : Prop :=
  ∀ claims tally, Progress lexicon pattern claims tally → extent claims < 2 ^ 64

/-- The calls of a run and its answer. -/
inductive Ends (lexicon : Lexicon) (pattern : String) : List Nat → Except Failure (List Claim) → Prop where
  | finished {claims : List Claim} {tally : Tally} (progress : Progress lexicon pattern claims tally)
      (finished : Finished pattern claims) : Ends lexicon pattern (starts pattern claims) (.ok claims)
  | stuck {claims : List Claim} {tally : Tally} {error : Failure}
      (progress : Progress lexicon pattern claims tally) (stuck : Stuck lexicon pattern claims tally error) :
      Ends lexicon pattern (starts pattern claims ++ [(siteAt pattern (extent claims)).position])
        (.error error)

variable {lexicon : Lexicon} {pattern : String} {claims : List Claim} {claim : Claim} {tally after : Tally}
  {claimants : List Claimant} {calls : List Nat} {answer : Except Failure (List Claim)}

theorem siteAt_eq {start : Nat} {c : Char} {rest : List Char} (text : pattern.toList.drop start = c :: rest) :
    siteAt pattern start = ⟨pattern, byteLength (pattern.toList.take start), c :: rest⟩ := by
  rw [siteAt, text]

theorem inside_of_dispatch {start : Nat}
    (answer : lexicon.dispatch tally (siteAt pattern start) = .ok (claim, after)) :
    start < pattern.toList.length := by
  obtain ⟨c, rest, text⟩ := siteAt_of_dispatch answer
  have inside := inside_of_le text (Nat.zero_le _)
  omega

/-- Tokens and unclaimed text stay within the pattern. -/
theorem counted_of_moderate (filed : lexicon.Filed claimants) (fits : pattern.length < 2 ^ 64)
    (moderate : Moderate lexicon pattern) : Counted lexicon pattern := by
  intro claims tally progress
  cases progress with
  | start => decide
  | @next claims tally claim after before answer =>
    rw [extent_append, extent_cons, extent_nil, Nat.add_zero, ← Nat.add_assoc]
    obtain ⟨c, rest, text⟩ := siteAt_of_dispatch answer
    have within (stays : claim.step.consumed ≤ rest.length) :
        extent claims + 1 + claim.step.consumed < 2 ^ 64 := by
      have inside := inside_of_le text stays
      rw [String.length_toList] at inside
      omega
    have given := moderate claims tally claim _ before answer
    rw [siteAt_eq text] at answer given
    rcases (Lexicon.dispatch_eq_ok answer).2 with ⟨entry, called, made⟩ | ⟨rfl, _⟩
    · obtain ⟨member, calls⟩ := (filed.called c entry).mp called
      -- by the claimant and not by its number: a token registered again is read like the first one
      by_cases own : ∃ token : Token, entry.claimant = token.claimant
      · obtain ⟨token, own⟩ := own
        have taken := made.2
        rw [own] at calls taken
        exact within (Token.spells_of_claim calls taken).1
      · exact given entry member (fun token same => own ⟨token, same⟩) made
    · exact within (Lexicon.consumed_fallbackStep lexicon)

/-- A scan that ends takes no more on its way than in the end. -/
theorem counted_of_scan (scanned : scan lexicon pattern = .ok claims) (fits : extent claims < 2 ^ 64) :
    Counted lexicon pattern := by
  intro earlier tally progress
  obtain ⟨more, rfl⟩ := progress.exists_append scanned
  rw [extent_append] at fits
  omega

namespace Loop

/-- The cursor stands behind the claims, which were made at the calls. -/
structure Invariant (lexicon : Lexicon) (pattern : String) (loop : Loop) : Prop where
  progress : Progress lexicon pattern loop.claims loop.tally
  cursor : loop.cursor.toNat = extent loop.claims
  calls : loop.calls = starts pattern loop.claims

variable {loop : Loop}

theorem Invariant.start (lexicon : Lexicon) (pattern : String) :
    Invariant lexicon pattern (start lexicon) := ⟨.start, rfl, rfl⟩

theorem position?_eq (pattern : String) (cursor : UInt64) :
    position? pattern cursor =
      if cursor.toNat < pattern.toList.length then some (siteAt pattern cursor.toNat).position else none := by
  rw [position?, getElem?_charIndices]
  split
  next inside => simp [List.getElem?_eq_getElem inside, siteAt]
  next outside => simp [List.getElem?_eq_none (Nat.le_of_not_lt outside)]

theorem run_of_finished (out : position? pattern loop.cursor = none) (turns : Nat) :
    run lexicon pattern turns loop = some (loop.calls, .ok loop.claims) := by
  rw [run, out]

theorem Invariant.ends_of_finished (holds : Invariant lexicon pattern loop)
    (finished : Finished pattern loop.claims) (turns : Nat) :
    ∃ calls answer, run lexicon pattern turns loop = some (calls, answer) ∧
      Ends lexicon pattern calls answer := by
  have out : position? pattern loop.cursor = none := by
    rw [position?_eq, holds.cursor, if_neg (Nat.not_lt.mpr finished)]
  refine ⟨_, _, run_of_finished out turns, ?_⟩
  rw [holds.calls]
  exact .finished holds.progress finished

section
variable {start : Nat} (here : position? pattern loop.cursor = some (siteAt pattern start).position) (turns : Nat)
include here

theorem run_of_error {error : Failure}
    (refused : lexicon.dispatch loop.tally (siteAt pattern start) = .error error) :
    run lexicon pattern (turns + 1) loop =
      some (loop.calls ++ [(siteAt pattern start).position], .error error) := by
  rw [run, here]
  simp only [ofPosition_siteAt, refused]

theorem run_of_ok (answer : lexicon.dispatch loop.tally (siteAt pattern start) = .ok (claim, after)) :
    run lexicon pattern (turns + 1) loop =
      run lexicon pattern turns (loop.next (siteAt pattern start).position claim after) := by
  rw [run, here]
  simp only [ofPosition_siteAt, answer]

end

/-- A turn keeps the invariant. -/
theorem Invariant.next (holds : Invariant lexicon pattern loop)
    (fits : extent (loop.claims ++ [claim]) < 2 ^ 64)
    (answer : lexicon.dispatch loop.tally (siteAt pattern (extent loop.claims)) = .ok (claim, after)) :
    Invariant lexicon pattern (loop.next (siteAt pattern (extent loop.claims)).position claim after) where
  progress := holds.progress.next answer
  cursor := by
    simp only [extent_append, extent_cons, extent_nil, Nat.add_zero] at fits
    have consumed : (UInt64.ofNat claim.step.consumed).toNat = claim.step.consumed := by
      rw [UInt64.toNat_ofNat', Nat.mod_eq_of_lt (by omega)]
    have taken : (1 + UInt64.ofNat claim.step.consumed).toNat = 1 + claim.step.consumed := by
      rw [UInt64.toNat_add, consumed, UInt64.toNat_one, Nat.mod_eq_of_lt (by omega)]
    simp only [Loop.next, extent_append, extent_cons, extent_nil, Nat.add_zero]
    rw [UInt64.toNat_add, holds.cursor, taken, Nat.mod_eq_of_lt (by omega)]
  calls := by rw [Loop.next, starts_concat, holds.calls]

theorem Invariant.ends (counted : Counted lexicon pattern) (holds : Invariant lexicon pattern loop)
    {turns : Nat} (enough : pattern.toList.length ≤ turns + extent loop.claims) :
    ∃ calls answer, run lexicon pattern turns loop = some (calls, answer) ∧
      Ends lexicon pattern calls answer := by
  -- on the turns left: each turn takes at least one of the characters that are left for them
  induction turns generalizing loop with
  | zero => exact holds.ends_of_finished (enough.trans_eq (Nat.zero_add _)) 0
  | succ turns ih =>
    by_cases inside : extent loop.claims < pattern.toList.length
    · have here := position?_eq pattern loop.cursor
      rw [holds.cursor, if_pos inside] at here
      cases answer : lexicon.dispatch loop.tally (siteAt pattern (extent loop.claims)) with
      | error error =>
        refine ⟨_, _, run_of_error here turns answer, ?_⟩
        rw [holds.calls]
        exact .stuck holds.progress ⟨inside, answer⟩
      | ok won =>
        obtain ⟨claim, after⟩ := won
        have kept := holds.next (counted _ _ (holds.progress.next answer)) answer
        have less : pattern.toList.length ≤ turns + extent (loop.claims ++ [claim]) := by
          simp only [extent_append, extent_cons, extent_nil]
          omega
        rw [run_of_ok here turns answer]
        exact ih kept less
    · exact holds.ends_of_finished (Nat.le_of_not_lt inside) _

end Loop

theorem position_lt {place reached : Nat} (inside : place < pattern.toList.length) (before : place < reached) :
    (siteAt pattern place).position < (siteAt pattern reached).position := by
  obtain ⟨further, rfl⟩ := Nat.exists_eq_add_of_lt before
  have text := List.drop_eq_getElem_cons inside
  have size := Char.utf8Size_pos pattern.toList[place]
  have position := (siteAt_next text further).2
  rw [show place + further + 1 = place + (1 + further) by omega]
  simp only [siteAt, position]
  omega

/-- Calls at characters of the pattern from left to right, all before the character that is reached. -/
structure Advances (pattern : String) (reached : Nat) (calls : List Nat) : Prop where
  increasing : calls.Pairwise (· < ·)
  placed : ∀ position ∈ calls, ∃ place < pattern.toList.length,
    place < reached ∧ position = (siteAt pattern place).position
  perCharacter : calls.length ≤ reached ∧ calls.length ≤ pattern.toList.length

theorem Advances.concat {reached further : Nat} (advances : Advances pattern reached calls)
    (inside : reached < pattern.toList.length) (beyond : reached < further) :
    Advances pattern further (calls ++ [(siteAt pattern reached).position]) where
  increasing := by
    refine List.pairwise_append.mpr ⟨advances.increasing, List.pairwise_singleton _ _, ?_⟩
    intro position member last new
    obtain ⟨place, inside, before, rfl⟩ := advances.placed position member
    rw [List.mem_singleton.mp new]
    exact position_lt inside before
  placed := by
    intro position member
    rcases List.mem_append.mp member with old | new
    · obtain ⟨place, inside, before, rfl⟩ := advances.placed position old
      exact ⟨place, inside, before.trans beyond, rfl⟩
    · exact ⟨reached, inside, beyond, List.mem_singleton.mp new⟩
  perCharacter := by
    have bound := advances.perCharacter
    rw [List.length_append, List.length_singleton]
    omega

theorem Progress.advances (progress : Progress lexicon pattern claims tally) :
    Advances pattern (extent claims) (starts pattern claims) := by
  induction progress with
  | start => exact ⟨.nil, by simp [starts, located], by simp [starts, located]⟩
  | next before answer ih =>
    rw [starts_concat, extent_append, extent_cons, extent_nil]
    exact ih.concat (inside_of_dispatch answer) (by omega)

theorem Ends.advances (ends : Ends lexicon pattern calls answer) :
    ∃ reached, Advances pattern reached calls := by
  cases ends with
  | finished progress finished => exact ⟨_, progress.advances⟩
  | stuck progress stuck => exact ⟨_, progress.advances.concat stuck.1 (Nat.lt_succ_self _)⟩

theorem Ends.scan_eq (ends : Ends lexicon pattern calls answer) : scan lexicon pattern = answer := by
  cases ends with
  | finished progress finished => exact progress.scan_of_finished finished
  | stuck progress stuck => exact progress.scan_of_stuck stuck

/-- The loop makes these claims where its cursor can count what they take. -/
def Loop.Makes (lexicon : Lexicon) (pattern : String) (claims : List Claim) : Prop :=
  extent claims < 2 ^ 64 →
    ∃ calls, Loop.run lexicon pattern pattern.length (.start lexicon) = some (calls, .ok claims)

theorem Loop.makes_of_scan (scanned : scan lexicon pattern = .ok claims) : Loop.Makes lexicon pattern claims := by
  intro fits
  have enough : pattern.toList.length ≤ pattern.length + extent [] := Nat.le_of_eq String.length_toList
  obtain ⟨calls, answer, runs, ends⟩ :=
    (Loop.Invariant.start lexicon pattern).ends (counted_of_scan scanned fits) enough
  exact ⟨calls, by rw [runs, ← ends.scan_eq, scanned]⟩

theorem length_starts (pattern : String) (claims : List Claim) :
    (starts pattern claims).length = claims.length := by
  rw [starts, List.length_map, ← List.length_map Prod.snd, map_snd_located]

theorem Ends.length_calls (ends : Ends lexicon pattern calls (.ok claims)) : calls.length = claims.length := by
  cases ends with
  | finished progress finished => exact length_starts pattern claims

/-- The cursor was behind the end of the pattern. -/
def IsPastEnd (failure : Failure) : Prop :=
  ∃ error, failure = .malformed error ∧ error.fault = .pastEnd

/-- A call at a position where the text goes on with `c :: rest`. -/
structure SafeCall (lexicon : Lexicon) (pattern : String) (position : Nat) (c : Char) (rest : List Char) :
    Prop where
  inside : position < pattern.utf8ByteSize
  boundary : String.Pos.Raw.IsValid pattern ⟨position⟩
  site : Site.ofPosition pattern position = ⟨pattern, position, c :: rest⟩
  /-- A token that is called, under whatever number, makes its cuts between characters and takes nothing from
  too little. -/
  token : ∀ entry ∈ lexicon.called c, ∀ token : Token, entry.claimant = token.claimant → ∀ tally,
    token.read? entry.id tally pattern position =
      some (entry.claimant.claim entry.id tally (.ofPosition pattern position))
  unclaimed : lexicon.readUnclaimed? pattern position c = some (lexicon.fallbackStep c rest)

/-- The loop on the pattern makes these calls and has the answer of the scan. -/
structure SafeScan (lexicon : Lexicon) (pattern : String) (calls : List Nat) : Prop where
  ends : Loop.run lexicon pattern pattern.length (.start lexicon) = some (calls, scan lexicon pattern)
  increasing : calls.Pairwise (· < ·)
  perCharacter : calls.length ≤ pattern.length
  call : ∀ position ∈ calls, ∃ c rest, SafeCall lexicon pattern position c rest
  size : ∀ serial plan, compile lexicon serial pattern = .ok plan → plan.layout.size = calls.length
  /-- A pattern is refused by a claimant at one of the calls. -/
  refused : ∀ serial error, compile lexicon serial pattern = .error error →
    ∃ position ∈ calls, ∃ tally, lexicon.dispatch tally (.ofPosition pattern position) = .error error ∧
      ∃ entry ∈ lexicon.entries,
        entry.claimant.claim entry.id tally (.ofPosition pattern position) = .error error
  /-- The lexicon itself is never called behind the end. -/
  notPastEnd : (∀ entry ∈ lexicon.entries, ∀ tally site error,
      entry.claimant.claim entry.id tally site = .error error → ¬ IsPastEnd error) →
    ∀ serial error, compile lexicon serial pattern = .error error → ¬ IsPastEnd error
  /-- A claim up to the end of the pattern or beyond it is the last one. -/
  overrun : ∀ claims claim tally, Progress lexicon pattern (claims ++ [claim]) tally →
    pattern.length ≤ extent claims + 1 + claim.step.consumed → scan lexicon pattern = .ok (claims ++ [claim])

theorem safeCall (filed : lexicon.Filed claimants) {place : Nat} (inside : place < pattern.toList.length) :
    ∃ c rest, SafeCall lexicon pattern (siteAt pattern place).position c rest := by
  have text := List.drop_eq_getElem_cons inside
  have split : pattern.toList =
      pattern.toList.take place ++ pattern.toList[place] :: pattern.toList.drop (place + 1) := by
    rw [← text, List.take_append_drop]
  have site := ofPosition_append split
  refine ⟨_, _, ?_, ?_, site, ?_, Lexicon.readUnclaimed?_eq split lexicon⟩
  · have last := position_lt inside inside
    simpa [siteAt, utf8ByteSize_eq] using last
  · rw [← splitBytes?_isSome_iff]
    conv_lhs => rw [split]
    rw [siteAt, splitBytes?_append]
    rfl
  · intro entry called token own tally
    have calls := ((filed.called _ entry).mp called).2
    rw [own] at calls ⊢
    simp only [siteAt, site]
    exact Token.read?_eq split calls entry.id tally

theorem Ends.refused {error : Failure} (filed : lexicon.Filed claimants)
    (ends : Ends lexicon pattern calls (.error error)) :
    ∃ position ∈ calls, ∃ tally, lexicon.dispatch tally (.ofPosition pattern position) = .error error ∧
      ∃ entry ∈ lexicon.entries,
        entry.claimant.claim entry.id tally (.ofPosition pattern position) = .error error := by
  cases ends with
  | @stuck claims tally _ progress stuck =>
    obtain ⟨inside, refused⟩ := stuck
    refine ⟨_, List.mem_append_right _ List.mem_cons_self, tally, ?_⟩
    rw [ofPosition_siteAt]
    rw [siteAt_eq (List.drop_eq_getElem_cons inside)] at refused ⊢
    obtain ⟨entry, called, own⟩ := Lexicon.dispatch_eq_error refused
    exact ⟨refused, entry, ((filed.called _ entry).mp called).1, own⟩

/-- On any pattern that the cursor can count and in any lexicon the scan ends after one call a character at most.
It calls at characters from left to right, where every token and the unclaimed text can be read, and a claim
that leaps over the end is its last one. -/
theorem scan_ends_safely (origin : Origin) (unclaimed : Unclaimed) (changes : List Change) (pattern : String)
    (fits : pattern.length < 2 ^ 64)
    (moderate : Moderate ((origin.lexicon unclaimed).changeAll changes) pattern) :
    ∃ calls, SafeScan ((origin.lexicon unclaimed).changeAll changes) pattern calls := by
  have filed := (origin.filed unclaimed).changeAll changes
  have enough : pattern.toList.length ≤ pattern.length + extent [] := Nat.le_of_eq String.length_toList
  have counted := counted_of_moderate filed fits moderate
  obtain ⟨calls, answer, runs, ends⟩ := (Loop.Invariant.start _ pattern).ends counted enough
  obtain ⟨reached, advances⟩ := ends.advances
  have scanned := ends.scan_eq
  have refused {serial : Nat} {error : Failure}
      (failed : compile ((origin.lexicon unclaimed).changeAll changes) serial pattern = .error error) :=
    Ends.refused filed (compile_eq_error_iff.mp failed ▸ scanned ▸ ends)
  refine ⟨calls, by rw [runs, scanned], advances.increasing, ?_, ?_, ?_, fun _ _ => refused, ?_, ?_⟩
  · exact advances.perCharacter.2.trans_eq String.length_toList
  · intro position member
    obtain ⟨place, inside, _, rfl⟩ := advances.placed position member
    exact safeCall filed inside
  · intro serial plan compiled
    obtain ⟨claims, own, rfl⟩ := Plan.compile_eq_ok_iff.mp compiled
    obtain rfl := own.symm.trans scanned
    rw [Plan.size_ofClaims, ends.length_calls]
  · intro others serial error failed
    obtain ⟨position, _, tally, _, entry, member, own⟩ := refused failed
    exact others entry member tally _ error own
  · intro claims claim tally progress reached
    refine progress.scan_of_finished ?_
    rw [Finished, String.length_toList, extent_append, extent_cons, extent_nil]
    omega

/-- It is enough to bound what the claimants take, wherever they are called. -/
theorem moderate_of_consumed_le {most : Nat} (filed : lexicon.Filed claimants)
    (fits : pattern.length + most < 2 ^ 64)
    (bounded : ∀ claimant ∈ claimants, (∀ token : Token, claimant ≠ token.claimant) →
      ∀ id tally site step, claimant.claim id tally site = .ok (some step) → step.consumed ≤ most) :
    Moderate lexicon pattern := by
  intro claims tally claim after progress answer entry member other made
  have inside := inside_of_dispatch answer
  rw [String.length_toList] at inside
  rw [filed.entries] at member
  obtain ⟨item, listed, rfl⟩ := List.mem_map.mp member
  have less := bounded item.1 (List.fst_mem_of_mem_zipIdx listed) other _ _ _ _ made.2
  omega

/-- A claimant that takes more than there is. -/
def leaping : Claimant := .taking "é" { action := .skip, weight := 0, consumed := 1000 }

/-- The leap behind characters of two and three bytes ends the scan. -/
theorem scan_ends_safely_leap :
    "€0,0é€b".length < 2 ^ 64 ∧
      Moderate ((Lexicon.standard .echo).changeAll [.register leaping]) "€0,0é€b" ∧
      ∃ calls, SafeScan ((Lexicon.standard .echo).changeAll [.register leaping]) "€0,0é€b" calls ∧
        calls = [0, 3, 4, 6] := by
  have fits : "€0,0é€b".length + 1000 < 2 ^ 64 := by decide
  have moderate : Moderate ((Lexicon.standard .echo).changeAll [.register leaping]) "€0,0é€b" := by
    refine moderate_of_consumed_le ((Lexicon.Filed.standard .echo).changeAll [.register leaping]) fits ?_
    intro claimant member other id tally site step taken
    rcases List.mem_append.mp member with standard | new
    · obtain ⟨token, _, rfl⟩ := List.mem_map.mp standard
      exact absurd rfl (other token)
    · obtain rfl : claimant = leaping := List.mem_singleton.mp new
      cases taken
      exact Nat.le_refl _
  have short : "€0,0é€b".length < 2 ^ 64 := by decide
  obtain ⟨calls, safe⟩ := scan_ends_safely .standard .echo [.register leaping] "€0,0é€b" short moderate
  refine ⟨short, moderate, calls, safe, ?_⟩
  have runs : Loop.run ((Lexicon.standard .echo).changeAll [.register leaping]) "€0,0é€b" 7
      (.start ((Lexicon.standard .echo).changeAll [.register leaping])) = some ([0, 3, 4, 6], _) := rfl
  exact (Prod.mk.inj (Option.some.inj (safe.ends.symm.trans runs))).1

end NumberPattern.Scan
