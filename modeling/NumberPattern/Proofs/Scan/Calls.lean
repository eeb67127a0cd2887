import Mathlib.Algebra.BigOperators.Group.List.Basic
import NumberPattern.Proofs.Lexicon.History
import NumberPattern.Proofs.Plan.Arrangement
import NumberPattern.Proofs.Scan.Pieces

/-! Calls on one tally, at any places of a pattern and in any order. A tally outlives a call that fails, so
the entries are asked on a tally that is passed on from one to the next. Each call that succeeds raises the
count of its winner by one, and no other call changes a count. -/

namespace NumberPattern.Lexicon
/-- The entries in turn, until one does not decline. -/
def ask (tally : Tally) (site : Site) : List Entry → Except Failure (Option Claim) × Tally
  | [] => (.ok none, tally)
  | entry :: rest =>
      match entry.claimant.claim entry.id tally site with
      | .error error => (.error error, tally)
      | .ok (some step) => (.ok (some ⟨entry.id, step⟩), tally.record entry.id)
      | .ok none => ask tally site rest

/-- Dispatch on a tally that is there after a failure too. -/
def call (lexicon : Lexicon) (tally : Tally) (site : Site) : Except Failure Claim × Tally :=
  match site.rest with
  | [] => (.error (site.malformed .pastEnd), tally)
  | first :: rest =>
      match ask tally site (lexicon.called first) with
      | (.error error, tally) => (.error error, tally)
      | (.ok (some claim), tally) => (.ok claim, tally)
      | (.ok none, tally) => (.ok ⟨fallbackId, lexicon.fallbackStep first rest⟩, tally.record fallbackId)

/-- Calls at these positions, one after the other. -/
def callFrom (lexicon : Lexicon) (pattern : String) (tally : Tally) :
    List Nat → List (Except Failure Claim) × Tally
  | [] => ([], tally)
  | position :: positions =>
      let (answer, next) := lexicon.call tally (.ofPosition pattern position)
      let (answers, final) := lexicon.callFrom pattern next positions
      (answer :: answers, final)

def callAll (lexicon : Lexicon) (pattern : String) (positions : List Nat) :
    List (Except Failure Claim) × Tally :=
  lexicon.callFrom pattern lexicon.tally positions

/-- The call succeeded, and the claim is the claimant's. -/
def wonBy (id : ClaimantId) : Except Failure Claim → Bool
  | .ok claim => claim.claimant = id
  | .error _ => false

/-- What a call comes to at a site with the text `c :: rest`. -/
inductive Settles (lexicon : Lexicon) (tally : Tally) (site : Site) (c : Char) (rest : List Char) :
    Except Failure Claim × Tally → Prop
  | won {before after : List Entry} {entry : Entry} {step : Step}
      (split : lexicon.called c = before ++ entry :: after)
      (asked : ∀ other ∈ before, Entry.Declines other tally site)
      (made : entry.claimant.claim entry.id tally site = .ok (some step)) :
      Settles lexicon tally site c rest (.ok ⟨entry.id, step⟩, tally.record entry.id)
  | refused {before after : List Entry} {entry : Entry} {error : Failure}
      (split : lexicon.called c = before ++ entry :: after)
      (asked : ∀ other ∈ before, Entry.Declines other tally site)
      (failed : entry.claimant.claim entry.id tally site = .error error) :
      Settles lexicon tally site c rest (.error error, tally)
  | unclaimed (asked : ∀ entry ∈ lexicon.called c, Entry.Declines entry tally site) :
      Settles lexicon tally site c rest
        (.ok ⟨fallbackId, lexicon.fallbackStep c rest⟩, tally.record fallbackId)

variable {lexicon : Lexicon} {pattern : String} {tally : Tally} {site : Site} {c : Char}
  {rest : List Char} {entry : Entry} {before : List Entry}

theorem ask_eq (tally : Tally) (site : Site) (entries : List Entry) :
    ask tally site entries = (firstClaim tally site entries, match firstClaim tally site entries with
      | .ok (some claim) => tally.record claim.claimant
      | _ => tally) := by
  induction entries with
  | nil => rfl
  | cons entry entries ih =>
    rw [ask, firstClaim]
    cases entry.claimant.claim entry.id tally site with
    | error error => rfl
    | ok step? =>
      cases step? with
      | none => exact ih
      | some step => rfl

/-- A call is the dispatch of the scan, and a failure leaves the tally alone. -/
theorem call_eq (lexicon : Lexicon) (tally : Tally) (site : Site) :
    lexicon.call tally site = match lexicon.dispatch tally site with
      | .ok (claim, after) => (.ok claim, after)
      | .error error => (.error error, tally) := by
  unfold call dispatch
  cases site.rest with
  | nil => rfl
  | cons first rest =>
    simp only [ask_eq]
    cases firstClaim tally site (lexicon.called first) with
    | error error => rfl
    | ok claim? => cases claim? <;> rfl

theorem call_eq_ok {claim : Claim} {after : Tally} (answer : lexicon.dispatch tally site = .ok (claim, after)) :
    lexicon.call tally site = (.ok claim, after) := by
  rw [call_eq, answer]

theorem ask_skip (asked : ∀ other ∈ before, Entry.Declines other tally site) (entries : List Entry) :
    ask tally site (before ++ entries) = ask tally site entries := by
  induction before with
  | nil => rfl
  | cons entry before ih =>
    obtain ⟨declined, asked⟩ := List.forall_mem_cons.mp asked
    rw [List.cons_append, ask, declined]
    exact ih asked

theorem settles_call (text : site.rest = c :: rest) :
    Settles lexicon tally site c rest (lexicon.call tally site) := by
  rw [call, text]
  simp only [ask_eq]
  cases found : firstClaim tally site (lexicon.called c) with
  | error error =>
    obtain ⟨before, entry, after, split, asked, failed⟩ := firstClaim_eq_error found
    exact .refused split asked failed
  | ok claim? =>
    cases claim? with
    | none => exact .unclaimed (firstClaim_eq_none found)
    | some claim =>
      obtain ⟨id, step⟩ := claim
      obtain ⟨before, entry, after, split, asked, rfl, made⟩ := firstClaim_eq_some found
      exact .won split asked made

/-- Behind the first entry that does not decline nobody is asked. -/
theorem call_unasked {other : Lexicon} {after more : List Entry} (text : site.rest = c :: rest)
    (own : lexicon.called c = before ++ entry :: after) (others : other.called c = before ++ entry :: more)
    (asked : ∀ entry ∈ before, Entry.Declines entry tally site) (takes : ¬ Entry.Declines entry tally site) :
    other.call tally site = lexicon.call tally site := by
  simp only [call, text, own, others, ask_skip asked, ask]
  cases answer : entry.claimant.claim entry.id tally site with
  | error error => rfl
  | ok step? =>
    cases step? with
    | none => exact absurd answer takes
    | some step => rfl

/-- One call raises the count of its winner by one. -/
theorem times_call (lexicon : Lexicon) (tally : Tally) (site : Site) (id : ClaimantId) :
    (lexicon.call tally site).2.times id =
      tally.times id + if wonBy id (lexicon.call tally site).1 then 1 else 0 := by
  rw [call_eq]
  cases answer : lexicon.dispatch tally site with
  | error error => rfl
  | ok won =>
    obtain ⟨claim, after⟩ := won
    rw [Scan.dispatch_records answer, Tally.times_record]
    simp only [wonBy, decide_eq_true_eq]

/-- What a call that counts raises by one, and no other call changes, a run raises by the number of its calls
that count. -/
theorem callFrom_counts (measure : Tally → Nat) (counts : Except Failure Claim → Bool)
    (step : ∀ tally site, measure (lexicon.call tally site).2 =
      measure tally + if counts (lexicon.call tally site).1 then 1 else 0)
    (pattern : String) (tally : Tally) (positions : List Nat) :
    measure (lexicon.callFrom pattern tally positions).2 =
      measure tally + (lexicon.callFrom pattern tally positions).1.countP counts := by
  induction positions generalizing tally with
  | nil => rfl
  | cons position positions ih =>
    rw [callFrom, ih, step, List.countP_cons, Nat.add_assoc, Nat.add_comm (ite _ _ _)]

theorem callFrom_concat (lexicon : Lexicon) (pattern : String) (tally : Tally) (positions : List Nat)
    (position : Nat) : lexicon.callFrom pattern tally (positions ++ [position]) =
      ((lexicon.callFrom pattern tally positions).1 ++
          [(lexicon.call (lexicon.callFrom pattern tally positions).2 (.ofPosition pattern position)).1],
        (lexicon.call (lexicon.callFrom pattern tally positions).2 (.ofPosition pattern position)).2) := by
  induction positions generalizing tally with
  | nil => rfl
  | cons first positions ih => simp only [List.cons_append, callFrom, ih]

/-- All that can win: the rule for unclaimed text and the entries. -/
def winners (lexicon : Lexicon) : List ClaimantId := fallbackId :: lexicon.entries.map Entry.id

theorem Filed.nodup_winners {claimants : List Claimant} (filed : lexicon.Filed claimants) :
    lexicon.winners.Nodup := by
  refine List.nodup_cons.mpr ⟨?_, ?_⟩
  · rw [List.mem_map]
    rintro ⟨entry, member, same⟩
    exact filed.notFallback entry member same
  · rw [filed.entries, List.Nodup, List.pairwise_map]
    exact (numbered_increasing claimants).imp fun before same => Nat.ne_of_lt before (congrArg _ same)

theorem Filed.winner {claimants : List Claimant} (filed : lexicon.Filed claimants) {claim : Claim}
    {after : Tally} (answer : lexicon.dispatch tally site = .ok (claim, after)) :
    claim.claimant ∈ lexicon.winners := by
  obtain ⟨pattern, position, text⟩ := site
  cases text with
  | nil => cases answer
  | cons c rest =>
    rcases (dispatch_eq_ok answer).2 with ⟨entry, called, own, _⟩ | ⟨rfl, _⟩
    · rw [own]
      exact List.mem_cons_of_mem _ (List.mem_map_of_mem ((filed.called c entry).mp called).1)
    · exact List.mem_cons_self

theorem sum_times_record (tally : Tally) (id : ClaimantId) (ids : List ClaimantId) :
    (ids.map (tally.record id).times).sum = (ids.map tally.times).sum + ids.count id := by
  induction ids with
  | nil => rfl
  | cons other ids ih =>
    rw [List.map_cons, List.sum_cons, ih, Tally.times_record, List.map_cons, List.sum_cons, List.count_cons]
    simp only [beq_iff_eq, @eq_comm _ other id]
    omega

theorem Filed.sum_times_call {claimants : List Claimant} (filed : lexicon.Filed claimants) (tally : Tally)
    (site : Site) : (lexicon.winners.map (lexicon.call tally site).2.times).sum =
      (lexicon.winners.map tally.times).sum + if (lexicon.call tally site).1.isOk then 1 else 0 := by
  rw [call_eq]
  cases answer : lexicon.dispatch tally site with
  | error error => rfl
  | ok won =>
    obtain ⟨claim, after⟩ := won
    rw [Scan.dispatch_records answer, sum_times_record,
      List.count_eq_one_of_mem filed.nodup_winners (filed.winner answer)]
    rfl

@[simp] theorem times_tally (lexicon : Lexicon) (id : ClaimantId) : lexicon.tally.times id = 0 := rfl

theorem times_callAll (lexicon : Lexicon) (pattern : String) (positions : List Nat) (id : ClaimantId) :
    (lexicon.callAll pattern positions).2.times id =
      (lexicon.callAll pattern positions).1.countP (wonBy id) := by
  have run := callFrom_counts (·.times id) (wonBy id) (fun tally site => times_call lexicon tally site id) pattern
    lexicon.tally positions
  rwa [times_tally, Nat.zero_add] at run

theorem Filed.sum_times_callAll {claimants : List Claimant} (filed : lexicon.Filed claimants) (pattern : String)
    (positions : List Nat) : (lexicon.winners.map (lexicon.callAll pattern positions).2.times).sum =
      (lexicon.callAll pattern positions).1.countP Except.isOk := by
  have run := callFrom_counts (fun tally => (lexicon.winners.map tally.times).sum) Except.isOk
    filed.sum_times_call pattern lexicon.tally positions
  have fresh : (lexicon.winners.map lexicon.tally.times).sum = 0 := List.sum_eq_zero (by simp)
  rwa [fresh, Nat.zero_add] at run

end NumberPattern.Lexicon

namespace NumberPattern.Scan
open Lexicon Plan

variable {lexicon : Lexicon} {pattern : String} {claims : List Claim} {tally : Tally} {tokens : List Token}

theorem dropBytes_append (before text : List Char) :
    dropBytes (byteLength before) (before ++ text) = text := by
  induction before with
  | nil => rw [byteLength_nil, List.nil_append, dropBytes]
  | cons c before ih =>
    have size := Char.utf8Size_pos c
    obtain ⟨rest, whole⟩ : ∃ rest, byteLength (c :: before) = rest + 1 :=
      Nat.exists_eq_succ_of_ne_zero (by rw [byteLength_cons]; omega)
    have left : rest + 1 - c.utf8Size = byteLength before := by
      rw [← whole, byteLength_cons, Nat.add_sub_cancel_left]
    rw [whole, List.cons_append, dropBytes, left, ih]

theorem ofPosition_append {before text : List Char} (split : pattern.toList = before ++ text) :
    Site.ofPosition pattern (byteLength before) = ⟨pattern, byteLength before, text⟩ := by
  rw [Site.ofPosition, split, dropBytes_append]

theorem ofPosition_siteAt (pattern : String) (start : Nat) :
    Site.ofPosition pattern (siteAt pattern start).position = siteAt pattern start :=
  ofPosition_append (List.take_append_drop start pattern.toList).symm

/-- The positions where the claims of a scan start. -/
def starts (pattern : String) (claims : List Claim) : List Nat :=
  (located 0 claims).map fun item => (siteAt pattern item.1).position

theorem starts_concat (pattern : String) (claims : List Claim) (claim : Claim) :
    starts pattern (claims ++ [claim]) =
      starts pattern claims ++ [(siteAt pattern (extent claims)).position] := by
  simp [starts, located_append, located]

/-- A scan calls at the start of each of its claims. -/
theorem Progress.callAll_eq (progress : Progress lexicon pattern claims tally) :
    lexicon.callAll pattern (starts pattern claims) = (claims.map .ok, tally) := by
  induction progress with
  | start => rfl
  | @next claims tally claim after before answer ih =>
    rw [callAll] at ih
    rw [callAll, starts_concat, callFrom_concat, ih, ofPosition_siteAt, call_eq_ok answer, List.map_append,
      List.map_singleton]

theorem Progress.hasToken_iff (progress : Progress lexicon pattern claims tally)
    (table : lexicon.tokens = tokenTable tokens) {token : Token} :
    tally.hasToken token = true ↔ ∃ claim ∈ claims, lexicon.token? claim.claimant = some token := by
  have known : tally.tokens.lookup token = lexicon.tokenId? token := by rw [progress.tokens_eq, tokenId?]
  simp only [token_of_table table, Tally.hasToken, known]
  cases lexicon.tokenId? token with
  | none => simp
  | some id => simp only [progress.hasWon_iff, Option.some.injEq, @eq_comm _ id]

/-- How a lexicon answers calls at the characters of a pattern, and how it counts them. -/
structure Counts (lexicon : Lexicon) (pattern : String) : Prop where
  /-- The scan dispatches by the same calls. A failure leaves the tally as it was. -/
  dispatched : ∀ tally site, lexicon.call tally site = match lexicon.dispatch tally site with
    | .ok (claim, after) => (.ok claim, after)
    | .error error => (.error error, tally)
  settled : ∀ tally before c rest, pattern.toList = before ++ c :: rest →
    Settles lexicon tally ⟨pattern, byteLength before, c :: rest⟩ c rest
      (lexicon.call tally (.ofPosition pattern (byteLength before)))
  /-- Nobody is asked behind the first entry that does not decline: whoever stands there, the call is the
  same. -/
  unasked : ∀ tally before c rest, pattern.toList = before ++ c :: rest →
    ∀ first entry later, lexicon.called c = first ++ entry :: later →
      (∀ other ∈ first, Entry.Declines other tally ⟨pattern, byteLength before, c :: rest⟩) →
      ¬ Entry.Declines entry tally ⟨pattern, byteLength before, c :: rest⟩ →
      ∀ (other : Lexicon) (more : List Entry), other.called c = first ++ entry :: more →
        other.call tally (.ofPosition pattern (byteLength before)) =
          lexicon.call tally (.ofPosition pattern (byteLength before))
  times : ∀ positions id, (lexicon.callAll pattern positions).2.times id =
    (lexicon.callAll pattern positions).1.countP (wonBy id)
  total : ∀ positions, (lexicon.winners.map (lexicon.callAll pattern positions).2.times).sum =
    (lexicon.callAll pattern positions).1.countP Except.isOk
  /-- After a scan exactly the tokens with a cell have won. -/
  fired : ∀ serial plan, compile lexicon serial pattern = .ok plan →
    ∃ claims tally, scan lexicon pattern = .ok claims ∧
      lexicon.callAll pattern (starts pattern claims) = (claims.map .ok, tally) ∧
      ∀ token, tally.hasToken token = true ↔ ∃ cell, plan.layout.tokenCell? token = some cell

theorem fired_ofClaims (progress : Progress lexicon pattern claims tally)
    (table : lexicon.tokens = tokenTable tokens) (serial : Nat) (token : Token) :
    tally.hasToken token = true ↔
      ∃ cell, (ofClaims lexicon serial pattern claims).layout.tokenCell? token = some cell := by
  have absent := (arranges_ofClaims lexicon serial pattern claims).noToken token
  rw [progress.hasToken_iff table, ← Option.isSome_iff_exists, ← Option.ne_none_iff_isSome, Ne, absent]
  simp

/-- Whatever calls were made on one tally, it counts those that were won, and after a scan it knows the tokens
that have a cell. -/
theorem calls_counted (origin : Origin) (unclaimed : Unclaimed) (changes : List Change) (pattern : String) :
    Counts ((origin.lexicon unclaimed).changeAll changes) pattern := by
  have filed := (origin.filed unclaimed).changeAll changes
  have table := (tokens_changeAll (origin.lexicon unclaimed) changes).trans (origin.tokens_lexicon unclaimed)
  refine ⟨call_eq _, ?_, ?_, times_callAll _ pattern, filed.sum_times_callAll pattern, ?_⟩
  · intro tally before c rest split
    rw [ofPosition_append split]
    exact settles_call rfl
  · intro tally before c rest split first entry later own asked takes other more others
    rw [ofPosition_append split]
    exact call_unasked rfl own others asked takes
  · intro serial plan compiled
    obtain ⟨claims, scanned, rfl⟩ := compile_eq_ok_iff.mp compiled
    obtain ⟨tally, progress, _⟩ := scan_eq_ok_iff.mp scanned
    exact ⟨claims, tally, scanned, progress.callAll_eq, fired_ofClaims progress table serial⟩

/-- The integer is claimed once, whatever is called in between. -/
example : ((Lexicon.standard .echo).callAll "0é" [1, 0, 1, 0]).2.wins = [(fallbackId, 3), (⟨7⟩, 1)] := by
  rfl

end NumberPattern.Scan
