import NumberPattern.Proofs.Scan.Claims

/-! Which patterns are malformed: those whose first point is opened by a bracket that does not close,
and those whose scan meets an open bracket behind the point and before the decimals. All others
compile. -/

namespace NumberPattern.Scan
open Lexicon (standard fallbackId Answer)
open Token (NotAt OpenDecimals)

variable {unclaimed : Unclaimed} {pattern : String} {claims : List Claim} {tally : Tally}
  {before after : List Char} {error : Failure}

/-- The first point of the pattern is opened by a bracket and not closed behind it. -/
def PointFault (pattern : String) (error : Failure) : Prop :=
  ∃ before after, pattern.toList = before ++ '[' :: '.' :: after ∧ '.' ∉ before ∧ NotAt ']' after ∧
    error = .malformed ⟨pattern, byteLength before, .openPoint⟩

/-- The scan, with the point claimed and the decimals not, comes to zeros with an open bracket. -/
def DecimalsFault (unclaimed : Unclaimed) (pattern : String) (error : Failure) : Prop :=
  ∃ claims tally mandatory, Progress (standard unclaimed) pattern claims tally ∧
    (∃ claim ∈ claims, claim.claimant = Token.point.claimantId) ∧
    (∀ claim ∈ claims, claim.claimant ≠ Token.decimals.claimantId) ∧
    OpenDecimals mandatory (pattern.toList.drop (extent claims)) ∧
    error = .malformed ⟨pattern, byteLength (pattern.toList.take (extent claims)) + mandatory, .openDecimals⟩

/-- A claim of the point is written with a point, which stands first or behind a bracket. -/
theorem point_spelled {position : Nat} {claim : Claim} {c : Char} {rest : List Char}
    (made : Answer unclaimed tally pattern position c rest claim)
    (point : claim.claimant = Token.point.claimantId) :
    c = '.' ∨ ∃ further, rest = '.' :: ']' :: further := by
  have taken : Token.claimPoint ⟨pattern, position, c :: rest⟩ = .ok (some claim.step) :=
    (Token.claim_eq_some (made.taken point).2).2
  rcases Token.claimPoint_eq_some taken with ⟨further, text, _⟩ | ⟨further, text, _⟩
  · exact Or.inl (List.cons.inj text).1
  · exact Or.inr ⟨further, (List.cons.inj text).2⟩

/-- An unclaimed point is claimed as soon as the scan comes to it. -/
theorem first_char_ne_point {start : Nat} {claim : Claim} {c : Char} {rest : List Char}
    (made : Answer unclaimed tally pattern start c rest claim)
    (fresh : tally.hasWon Token.point.claimantId = false)
    (other : claim.claimant ≠ Token.point.claimantId) : c ≠ '.' := by
  rintro rfl
  cases made with
  | token token step calls taken =>
    cases token with
    | point => exact other rfl
    | _ => simp [Token.triggers] at calls
  | unclaimed declined =>
    have refused := declined .point (by decide)
    simp only [Token.claim, fresh] at refused
    cases refused

theorem Progress.no_point (progress : Progress (standard unclaimed) pattern claims tally)
    (fresh : tally.hasWon Token.point.claimantId = false) :
    '.' ∉ pattern.toList.take (extent claims) := by
  induction progress with
  | start => simp
  | @next claims tally claim after before answer ih =>
    have others := (before.next answer).hasWon_eq_false.mp fresh
    have earlier : tally.hasWon Token.point.claimantId = false :=
      before.hasWon_eq_false.mpr fun claim member => others claim (List.mem_append_left _ member)
    have other := others claim (by simp)
    obtain ⟨c, rest, text, made⟩ := answer_at answer
    rw [extent_append, extent_cons, extent_nil, Nat.add_zero, List.take_add, text, Nat.add_comm 1,
      List.take_succ_cons]
    have first := first_char_ne_point made earlier other
    have tail := (made.plain_tail before.registered earlier other).1
    simp only [List.mem_append, List.mem_cons, not_or]
    exact ⟨ih earlier, Ne.symm first, tail⟩

theorem bracket_within {middle : List Char} {consumed : Nat}
    (tail : '[' ∉ (middle ++ '[' :: after).take consumed) : consumed ≤ middle.length := by
  apply Nat.le_of_not_lt
  intro beyond
  apply tail
  rw [List.take_append, show consumed - middle.length = consumed - middle.length - 1 + 1 by omega,
    List.take_succ_cons]
  simp

/-- A claim that starts before the first bracketed point neither is of the point nor takes the bracket. -/
theorem before_bracket {position : Nat} {claim : Claim} {c : Char} {middle : List Char}
    (made : Answer unclaimed tally pattern position c (middle ++ '[' :: '.' :: after) claim)
    (registered : tally.Standard) (fresh : tally.hasWon Token.point.claimantId = false)
    (unread : '.' ∉ c :: middle) :
    claim.claimant ≠ Token.point.claimantId ∧ claim.step.consumed ≤ middle.length := by
  simp only [List.mem_cons, not_or] at unread
  have other : claim.claimant ≠ Token.point.claimantId := by
    intro point
    rcases point_spelled made point with rfl | ⟨further, same⟩
    · exact unread.1 rfl
    · cases middle with
      | nil => exact absurd (List.cons.inj same).1 (by decide)
      | cons e middle => exact unread.2 ((List.cons.inj same).1 ▸ List.mem_cons_self ..)
  exact ⟨other, bracket_within (made.plain_tail registered fresh other).2⟩

/-- The scan does not get past the bracket of a first point that does not close, and claims no point
before it. -/
theorem Progress.behind_open_point (progress : Progress (standard unclaimed) pattern claims tally)
    (text : pattern.toList = before ++ '[' :: '.' :: after) (first : '.' ∉ before)
    (opened : NotAt ']' after) :
    tally.hasWon Token.point.claimantId = false ∧ extent claims ≤ before.length := by
  induction progress with
  | start => exact ⟨rfl, Nat.zero_le _⟩
  | @next claims tally claim next earlier answer ih =>
    obtain ⟨fresh, behind⟩ := ih
    obtain ⟨c, rest, site, made⟩ := answer_at answer
    have aligned : before.drop (extent claims) ++ '[' :: '.' :: after = c :: rest := by
      rw [← site, text, List.drop_append_of_le_length behind]
    cases ahead : before.drop (extent claims) with
    | nil =>
      -- the scan has come to the bracket, and there is no way past it
      rw [ahead] at aligned
      cases aligned
      simp only [siteAt, site] at answer
      rw [(Lexicon.dispatch_eq_error_iff earlier.registered).mpr
        (Or.inl ⟨fresh, ⟨after, rfl, opened⟩, rfl⟩)] at answer
      cases answer
    | cons d middle =>
      rw [ahead] at aligned
      cases aligned
      have unread : '.' ∉ c :: middle := fun member => first (List.mem_of_mem_drop (ahead ▸ member))
      obtain ⟨other, within⟩ := before_bracket made earlier.registered fresh unread
      have size := congrArg List.length ahead
      simp only [List.length_drop, List.length_cons] at size
      refine ⟨?_, ?_⟩
      · rw [(earlier.next answer).hasWon_eq_false]
        intro won member
        rcases List.mem_append.mp member with old | new
        · exact earlier.hasWon_eq_false.mp fresh won old
        · rw [List.mem_singleton.mp new]
          exact other
      · rw [extent_append, extent_cons, extent_nil]
        omega

theorem scan_of_pointFault (fault : PointFault pattern error) :
    Plan.scan (standard unclaimed) pattern = .error error := by
  obtain ⟨before, after, text, first, opened, rfl⟩ := fault
  have origin : Progress (standard unclaimed) pattern [] (standard unclaimed).tally := .start
  obtain ⟨claims, tally, progress, finished | ⟨error, stuck⟩⟩ := origin.ends
  · have behind := (progress.behind_open_point text first opened).2
    have size := congrArg List.length text
    simp only [List.length_append, List.length_cons] at size
    unfold Finished at finished
    omega
  · obtain ⟨fresh, behind⟩ := progress.behind_open_point text first opened
    rw [progress.scan_of_stuck stuck]
    have refused := stuck.2
    rw [siteAt] at refused
    cases ahead : before.drop (extent claims) with
    | nil =>
      have reached : extent claims = before.length :=
        Nat.le_antisymm behind (List.drop_eq_nil_iff.mp ahead)
      rw [text, reached, List.drop_left, List.take_left,
        Lexicon.dispatch_eq_error_iff progress.registered] at refused
      rcases refused with ⟨_, _, rfl⟩ | ⟨point, _⟩
      · rfl
      · rw [fresh] at point
        cases point
    | cons c middle =>
      rw [text, List.drop_append_of_le_length behind, ahead, List.cons_append,
        Lexicon.dispatch_eq_error_iff progress.registered] at refused
      have unread : '.' ∉ c :: middle := fun member => first (List.mem_of_mem_drop (ahead ▸ member))
      rcases refused with ⟨_, ⟨further, same, _⟩, _⟩ | ⟨point, _⟩
      · have tail := (List.cons.inj same).2
        cases middle with
        | nil => exact absurd (List.cons.inj tail).1 (by decide)
        | cons d middle =>
          have point := (List.cons.inj tail).1
          exact absurd (by simp [point]) unread
      · rw [fresh] at point
        cases point

/-- A scan that is stuck shows one of the two faults. -/
theorem Progress.fault_of_stuck (progress : Progress (standard unclaimed) pattern claims tally)
    (stuck : Stuck (standard unclaimed) pattern claims tally error) :
    PointFault pattern error ∨ DecimalsFault unclaimed pattern error := by
  obtain ⟨inside, refused⟩ := stuck
  cases text : pattern.toList.drop (extent claims) with
  | nil =>
    have outside := List.drop_eq_nil_iff.mp text
    omega
  | cons c rest =>
    rw [siteAt, text, Lexicon.dispatch_eq_error_iff progress.registered] at refused
    rcases refused with ⟨fresh, ⟨after, same, opened⟩, rfl⟩ | ⟨point, fresh, mandatory, opened, rfl⟩
    · refine Or.inl ⟨pattern.toList.take (extent claims), after, ?_, progress.no_point fresh, opened, rfl⟩
      rw [← same, ← text, List.take_append_drop]
    · exact Or.inr ⟨claims, tally, mandatory, progress, progress.hasWon_iff.mp point,
        progress.hasWon_eq_false.mp fresh, text ▸ opened, rfl⟩

theorem scan_of_decimalsFault (fault : DecimalsFault unclaimed pattern error) :
    Plan.scan (standard unclaimed) pattern = .error error := by
  obtain ⟨claims, tally, mandatory, progress, point, fresh, opened, rfl⟩ := fault
  apply progress.scan_of_stuck
  cases text : pattern.toList.drop (extent claims) with
  | nil =>
    rw [text] at opened
    obtain ⟨count, inner, same, _⟩ := opened
    simp at same
  | cons c rest =>
    refine ⟨?_, ?_⟩
    · have lengths := congrArg List.length text
      simp only [List.length_drop, List.length_cons] at lengths
      omega
    · rw [siteAt, text, Lexicon.dispatch_eq_error_iff progress.registered]
      exact Or.inr ⟨progress.hasWon_iff.mpr point, progress.hasWon_eq_false.mpr fresh, mandatory,
        text ▸ opened, rfl⟩

theorem scan_eq_error_iff_fault :
    Plan.scan (standard unclaimed) pattern = .error error ↔
      PointFault pattern error ∨ DecimalsFault unclaimed pattern error := by
  constructor
  · intro scanned
    obtain ⟨claims, tally, progress, stuck⟩ := scan_eq_error_iff.mp scanned
    exact progress.fault_of_stuck stuck
  · rintro (fault | fault)
    · exact scan_of_pointFault fault
    · exact scan_of_decimalsFault fault

/-- The scan stops at the first fault, so a pattern has only one of the two. -/
theorem DecimalsFault.not_pointFault {other : Failure} (fault : DecimalsFault unclaimed pattern error) :
    ¬ PointFault pattern other := by
  intro first
  have same := (scan_of_decimalsFault fault).symm.trans (scan_of_pointFault first)
  obtain ⟨_, _, _, _, _, _, _, rfl⟩ := fault
  obtain ⟨_, _, _, _, _, rfl⟩ := first
  simp at same

/-- Once the point is claimed, the pattern has one. -/
theorem Progress.point_mem (progress : Progress (standard unclaimed) pattern claims tally)
    (point : ∃ claim ∈ claims, claim.claimant = Token.point.claimantId) : '.' ∈ pattern.toList := by
  obtain ⟨claim, member, won⟩ := point
  obtain ⟨before, after, rfl⟩ := List.append_of_mem member
  obtain ⟨standing, next, _, answer⟩ := progress.split
  obtain ⟨c, rest, text, made⟩ := answer_at answer
  have within : '.' ∈ pattern.toList.drop (extent before) := by
    rw [text]
    rcases point_spelled made won with rfl | ⟨further, rfl⟩ <;> simp
  exact List.mem_of_mem_drop within

theorem byteLength_zeros (count : Nat) : byteLength (List.replicate count '0') = count := by
  induction count with
  | zero => rfl
  | succ count ih =>
    rw [List.replicate_succ, byteLength_cons, ih, Nat.add_comm]
    rfl

/-- A fault stands at a bracket of the pattern. -/
theorem bracket_of_fault (fault : PointFault pattern error ∨ DecimalsFault unclaimed pattern error) :
    ∃ malformed before after, error = .malformed malformed ∧ malformed.pattern = pattern ∧
      pattern.toList = before ++ '[' :: after ∧ malformed.position = byteLength before := by
  rcases fault with ⟨before, after, text, _, _, rfl⟩ | ⟨claims, _, mandatory, _, _, _, opened, rfl⟩
  · exact ⟨_, before, '.' :: after, rfl, rfl, text, rfl⟩
  · obtain ⟨count, inner, text, _⟩ := opened
    refine ⟨_, pattern.toList.take (extent claims) ++ List.replicate mandatory '0',
      List.replicate count '0' ++ inner, rfl, rfl, ?_, ?_⟩
    · rw [List.append_assoc, ← text, List.take_append_drop]
    · rw [byteLength_append, byteLength_zeros]

theorem compile_eq_error_iff {lexicon : Lexicon} {serial : Nat} :
    Plan.compile lexicon serial pattern = .error error ↔ Plan.scan lexicon pattern = .error error := by
  rw [Plan.compile]
  cases Plan.scan lexicon pattern <;> simp [Except.map]

theorem compile_ok_or_error (lexicon : Lexicon) (serial : Nat) (pattern : String) :
    (∃ plan, Plan.compile lexicon serial pattern = .ok plan) ∨
      ∃ error, Plan.compile lexicon serial pattern = .error error := by
  cases Plan.compile lexicon serial pattern with
  | ok plan => exact Or.inl ⟨plan, rfl⟩
  | error error => exact Or.inr ⟨error, rfl⟩

/-- After a claim of decimals no site is refused. -/
theorem Progress.not_stuck_of_decimals (progress : Progress (standard unclaimed) pattern claims tally)
    (decimals : ∃ claim ∈ claims, claim.claimant = Token.decimals.claimantId) :
    ¬ Stuck (standard unclaimed) pattern claims tally error := by
  rintro ⟨inside, refused⟩
  cases text : pattern.toList.drop (extent claims) with
  | nil =>
    have outside := List.drop_eq_nil_iff.mp text
    omega
  | cons c rest =>
    have won := progress.hasWon_iff.mpr decimals
    rw [siteAt, text, Lexicon.dispatch_eq_error_iff progress.registered, won] at refused
    rcases refused with ⟨fresh, _⟩ | ⟨_, fresh, _⟩
    · obtain ⟨claim, member, own⟩ := decimals
      obtain ⟨before, after, rfl⟩ := List.append_of_mem member
      obtain ⟨other, earlier, point⟩ := progress.prior_claimed (Lexicon.holdsTokens_standard unclaimed) own
        (show _ = some Token.point from rfl)
      exact progress.hasWon_eq_false.mp fresh other (List.mem_append_left _ earlier) point
    · cases fresh

/-- The malformed patterns are exactly these: the first point is opened by a bracket that does not
close, or, when it is not, the scan meets an open bracket between the point and the decimals. The error
names the bracket. -/
theorem malformed_patterns (unclaimed : Unclaimed) (serial : Nat) (pattern : String) :
    (∀ error, Plan.compile (standard unclaimed) serial pattern = .error error ↔
      PointFault pattern error ∨
        (¬ ∃ other, PointFault pattern other) ∧ '.' ∈ pattern.toList ∧
          DecimalsFault unclaimed pattern error) ∧
    ((∃ plan, Plan.compile (standard unclaimed) serial pattern = .ok plan) ↔
      ¬ ∃ error, PointFault pattern error ∨ DecimalsFault unclaimed pattern error) ∧
    ('.' ∉ pattern.toList → ∃ plan, Plan.compile (standard unclaimed) serial pattern = .ok plan) ∧
    (∀ claims tally error, Progress (standard unclaimed) pattern claims tally →
      (∃ claim ∈ claims, claim.claimant = Token.decimals.claimantId) →
      ¬ Stuck (standard unclaimed) pattern claims tally error) ∧
    (∀ error, Plan.compile (standard unclaimed) serial pattern = .error error →
      ∃ malformed before after, error = .malformed malformed ∧ malformed.pattern = pattern ∧
        pattern.toList = before ++ '[' :: after ∧ malformed.position = byteLength before) ∧
    Fault.openPoint.reason = "expected ']' to close the optional decimal point" ∧
    Fault.openDecimals.reason = "expected ']' to close the optional decimals" := by
  have refused_iff : ∀ error, Plan.compile (standard unclaimed) serial pattern = .error error ↔
      PointFault pattern error ∨ DecimalsFault unclaimed pattern error := fun error =>
    compile_eq_error_iff.trans scan_eq_error_iff_fault
  have total := compile_ok_or_error (standard unclaimed) serial pattern
  refine ⟨fun error => ?_, ?_, ?_, ?_, ?_, rfl, rfl⟩
  · rw [refused_iff]
    constructor
    · rintro (fault | fault)
      · exact Or.inl fault
      · refine Or.inr ⟨?_, ?_, fault⟩
        · intro ⟨other, first⟩
          exact fault.not_pointFault first
        · obtain ⟨claims, tally, _, progress, point, _⟩ := fault
          exact progress.point_mem point
    · rintro (fault | ⟨_, _, fault⟩)
      · exact Or.inl fault
      · exact Or.inr fault
  · constructor
    · rintro ⟨plan, compiled⟩ ⟨error, fault⟩
      cases compiled.symm.trans ((refused_iff error).mpr fault)
    · intro sound
      exact total.resolve_right fun ⟨error, refused⟩ => sound ⟨error, (refused_iff error).mp refused⟩
  · intro absent
    apply total.resolve_right
    intro ⟨error, refused⟩
    apply absent
    rcases (refused_iff error).mp refused with ⟨before, after, text, _⟩ | ⟨_, _, _, progress, point, _⟩
    · rw [text]
      simp
    · exact progress.point_mem point
  · intro claims tally error progress decimals
    exact progress.not_stuck_of_decimals decimals
  · intro error refused
    exact bracket_of_fault ((refused_iff error).mp refused)

end NumberPattern.Scan
