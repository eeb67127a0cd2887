import NumberPattern.Proofs.Scan.Slices

/-! What the decimals make of the text at their place. The answer is a function of the written form: a run of
zeros, and behind it a closed tail, an open one or neither. -/

namespace NumberPattern.Token
open Scan (byteLength)

/-- Zeros, then as many optional ones in brackets. -/
def ClosedDecimals (mandatory optional : Nat) (text : List Char) : Prop :=
  0 < optional ∧ ∃ after, text =
    List.replicate mandatory '0' ++ '[' :: (List.replicate optional '0' ++ ']' :: after)

/-- The text starts with just so many zeros. -/
def LeadingZeros (mandatory : Nat) (text : List Char) : Prop :=
  ∃ rest, text = List.replicate mandatory '0' ++ rest ∧ NotAt '0' rest

/-- What the decimals make of `text` where `before` stands in front of it. -/
inductive DecimalsRead (before text : List Char) : Except Failure (Option Step) → Prop where
  | closed {mandatory optional : Nat} (form : ClosedDecimals mandatory optional text) :
      DecimalsRead before text (.ok (some {
        action := .decimals (mandatory + optional) optional
        weight := Weight.decimals
        consumed := mandatory + optional + 1
        fragment := some ⟨some (mandatory + optional), some optional⟩ }))
  | opened {mandatory : Nat} (form : OpenDecimals mandatory text) :
      DecimalsRead before text (.error (.malformed ⟨String.ofList (before ++ text),
        byteLength (before ++ List.replicate mandatory '0'), .openDecimals⟩))
  | bare {mandatory : Nat} (leading : LeadingZeros mandatory text) (positive : 0 < mandatory)
      (notClosed : ∀ optional, ¬ ClosedDecimals mandatory optional text)
      (notOpened : ¬ OpenDecimals mandatory text) :
      DecimalsRead before text (.ok (some {
        action := .decimals mandatory 0
        weight := Weight.decimals
        consumed := mandatory - 1
        fragment := some ⟨some mandatory, some 0⟩ }))
  | declined (leading : LeadingZeros 0 text) (notClosed : ∀ optional, ¬ ClosedDecimals 0 optional text)
      (notOpened : ¬ OpenDecimals 0 text) : DecimalsRead before text (.ok none)

variable {mandatory optional : Nat} {before text : List Char}

theorem leadingZeros_iff : LeadingZeros mandatory text ↔ mandatory = zeros text := by
  constructor
  · rintro ⟨rest, rfl, ends⟩
    rw [zeros_replicate_append _ ends]
  · rintro rfl
    exact ⟨_, (replicate_zeros text).symm, notAt_drop_zeros text⟩

theorem closedDecimals_iff :
    ClosedDecimals mandatory optional text ↔
      mandatory = zeros text ∧ tail (text.drop mandatory) = .closed optional := by
  constructor
  · rintro ⟨positive, after, rfl⟩
    rw [zeros_replicate_append _ (by simp), drop_replicate_append, tail_eq_closed]
    exact ⟨rfl, positive, after, rfl⟩
  · rintro ⟨rfl, closed⟩
    obtain ⟨positive, after, bracket⟩ := tail_eq_closed.mp closed
    exact ⟨positive, after, by rw [← bracket, replicate_zeros]⟩

/-- Behind the zeros there is neither a closed tail nor an open one. -/
theorem tail_eq_absent :
    tail (text.drop (zeros text)) = .absent ↔
      (∀ optional, ¬ ClosedDecimals (zeros text) optional text) ∧ ¬ OpenDecimals (zeros text) text := by
  simp only [closedDecimals_iff, openDecimals_iff, true_and]
  cases tail (text.drop (zeros text)) <;> simp

/-- Each text is read in one of the four ways. -/
theorem decimals_read (before text : List Char) :
    DecimalsRead before text
      (claimDecimals ⟨String.ofList (before ++ text), byteLength before, text⟩) := by
  simp only [claimDecimals]
  split
  next optional closed => exact .closed (closedDecimals_iff.mpr ⟨rfl, closed⟩)
  next opened =>
    have read : DecimalsRead before text _ := .opened (openDecimals_iff.mpr ⟨rfl, opened⟩)
    rwa [Scan.byteLength_append, Scan.byteLength_zeros] at read
  next absent =>
    obtain ⟨notClosed, notOpened⟩ := tail_eq_absent.mp absent
    have leading : LeadingZeros (zeros text) text := leadingZeros_iff.mpr rfl
    split
    next none =>
      rw [none] at leading notClosed notOpened
      exact .declined leading notClosed notOpened
    next positive => exact .bare leading (Nat.pos_of_ne_zero positive) notClosed notOpened

/-- No text is read in two ways. -/
theorem DecimalsRead.claim_eq {answer : Except Failure (Option Step)}
    (read : DecimalsRead before text answer) :
    claimDecimals ⟨String.ofList (before ++ text), byteLength before, text⟩ = answer := by
  cases read with
  | closed form =>
    obtain ⟨rfl, closed⟩ := closedDecimals_iff.mp form
    simp only [claimDecimals, closed, decimalsStep]
  | opened form =>
    obtain ⟨rfl, opened⟩ := openDecimals_iff.mp form
    rw [Scan.byteLength_append, Scan.byteLength_zeros]
    simp only [claimDecimals, opened, Site.malformed]
  | bare leading positive notClosed notOpened =>
    obtain rfl := leadingZeros_iff.mp leading
    simp only [claimDecimals, tail_eq_absent.mpr ⟨notClosed, notOpened⟩, decimalsStep, Nat.add_zero]
    rw [if_neg (Nat.ne_of_gt positive)]
  | declined leading notClosed notOpened =>
    have none : zeros text = 0 := (leadingZeros_iff.mp leading).symm
    rw [← none] at notClosed notOpened
    simp only [claimDecimals, tail_eq_absent.mpr ⟨notClosed, notOpened⟩, if_pos none]

/-- The decimals accept just the written forms of decimals, whatever stands before them. A fault is placed at
the bracket that is not closed, and a step reports the precision that it has itself. So does the reader that
tries one form after the other and measures in bytes what it has read. -/
theorem decimals_lookahead (before text : List Char) :
    (∀ answer, claimDecimals (.ofPosition (String.ofList (before ++ text)) (byteLength before)) = answer ↔
      DecimalsRead before text answer) ∧
    (∀ answer, readDecimals? (String.ofList (before ++ text)) (byteLength before) = some answer ↔
      DecimalsRead before text answer) ∧
    ∀ step, claimDecimals (.ofPosition (String.ofList (before ++ text)) (byteLength before)) =
        .ok (some step) →
      ∃ places optional, step.action = .decimals places optional ∧
        step.fragment = some ⟨some places, some optional⟩ := by
  have split : (String.ofList (before ++ text)).toList = before ++ text := String.toList_ofList
  have read_iff (answer : Except Failure (Option Step)) :
      claimDecimals ⟨String.ofList (before ++ text), byteLength before, text⟩ = answer ↔
        DecimalsRead before text answer := by
    constructor
    · rintro rfl
      exact decimals_read before text
    · exact DecimalsRead.claim_eq
  rw [Scan.ofPosition_append split]
  refine ⟨read_iff, fun answer => ?_, ?_⟩
  · rw [readDecimals?_eq split, Option.some.injEq, read_iff]
  · intro step taken
    have made := made_claimDecimals taken
    obtain ⟨places, optional, action⟩ := Action.eq_decimals made.action
    exact ⟨places, optional, action, by rw [made.fragment, action]; rfl⟩

/-- A bracket behind a character of two bytes is not closed after its zero. -/
example : claimDecimals (.ofPosition "é.00[0x" 3) = .error (.malformed ⟨"é.00[0x", 5, .openDecimals⟩) := by
  rfl

end NumberPattern.Token
