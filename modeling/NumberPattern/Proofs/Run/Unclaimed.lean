import NumberPattern.Proofs.Plan.Unclaimed
import NumberPattern.Proofs.Run.Correspondence
import NumberPattern.Proofs.Run.Program

/-! Runs of plans in which nothing but tokens is claimed. The steps of tokens write the same texts however
the unclaimed text is divided; after them each step for unclaimed text writes its own cell and no other. -/

namespace NumberPattern

namespace Action

variable {action : Action} {setting : Setting} {cell : Nat} {run : Run}

/-- Unclaimed text is written into its cell, or nothing happens. -/
theorem perform_untaken (plain : ∀ step, action ≠ .custom step) (free : action.token? = none) :
    action.perform setting cell run = (action.literal?.map (run.write cell)).getD run := by
  cases action with
  | custom step => exact absurd rfl (plain step)
  | literal text => rfl
  | skip => rfl
  | _ => cases free

end Action

namespace Plan
open Scan (Progress)

section Untaken

variable {setting : Setting} {items : List (PlannedStep × Nat)} {item : PlannedStep × Nat} {run : Run}
  (plain : ∀ item ∈ items, ∀ step, item.1.action ≠ .custom step)
  (free : ∀ item ∈ items, item.1.action.token? = none)
include plain free

/-- Steps for unclaimed text leave all cells but their own. -/
theorem runAll_untaken_other {cell : Nat} (away : ∀ item ∈ items, cell ≠ item.2) :
    (runAll setting items run).cells.text? cell = run.cells.text? cell := by
  induction items generalizing run with
  | nil => rfl
  | cons item items ih =>
    obtain ⟨own, plain⟩ := List.forall_mem_cons.mp plain
    obtain ⟨untaken, free⟩ := List.forall_mem_cons.mp free
    obtain ⟨apart, away⟩ := List.forall_mem_cons.mp away
    rw [runAll_cons own, Action.perform_untaken own untaken]
    refine (ih plain free away).trans ?_
    cases item.1.action.literal? with
    | none => rfl
    | some text => exact Cells.text?_write_other apart

/-- A blank cell of unclaimed text ends with that text, or stays blank. -/
theorem runAll_untaken_own (distinct : (items.map Prod.snd).Nodup) (member : item ∈ items)
    (inside : item.2 < run.cells.texts.length) (blank : run.cells.text? item.2 = none) :
    (runAll setting items run).cells.text? item.2 = item.1.action.literal? := by
  induction items generalizing run with
  | nil => cases member
  | cons first items ih =>
    obtain ⟨own, plainRest⟩ := List.forall_mem_cons.mp plain
    obtain ⟨untaken, freeRest⟩ := List.forall_mem_cons.mp free
    obtain ⟨apart, distinctRest⟩ := List.nodup_cons.mp distinct
    have away : ∀ other ∈ items, first.2 ≠ other.2 := fun other later same =>
      apart (same ▸ List.mem_map_of_mem later)
    rw [runAll_cons own, Action.perform_untaken own untaken]
    rcases List.mem_cons.mp member with rfl | later
    · refine (runAll_untaken_other plainRest freeRest away).trans ?_
      cases item.1.action.literal? with
      | none => exact blank
      | some text => exact Cells.text?_write_self inside
    · have different := (away item later).symm
      apply ih plainRest freeRest distinctRest later
      · cases first.1.action.literal? with
        | none => exact inside
        | some text => simpa [Run.write] using inside
      · cases first.1.action.literal? with
        | none => exact blank
        | some text => exact (Cells.text?_write_other different).trans blank

end Untaken

variable {lexicon lexicon' : Lexicon} {pattern : String} {claims others : List Claim} {tally tally' : Tally}
  {serial serial' : Nat} {value : Float} {rounding : Float → Float} {locale : Locale}

/-- What the cells of the tokens hold after a run. -/
def tokenTexts (plan : Plan) (claims : List Claim) (value : Float) (rounding : Float → Float)
    (locale : Locale) : List (Option String) :=
  (tokens claims).map fun entry => (plan.finish value rounding locale).cells.text? entry.2

section Known

variable (only : lexicon.TokensOnly) (progress : Progress lexicon pattern claims tally)
include only progress

theorem action_plannedStep {entry : Claim × Nat} (member : entry ∈ claims.zipIdx) :
    (plannedStep serial entry).action = entry.1.step.action :=
  Scan.placed_of_plain
    (progress.standardClaims only .echo entry.1 (List.fst_mem_of_mem_zipIdx member)).plain _ _

theorem plain_stepsOf {items : List (Claim × Nat)} (known : ∀ entry ∈ items, entry ∈ claims.zipIdx) :
    ∀ item ∈ stepsOf serial items, ∀ step, item.1.action ≠ .custom step := by
  intro item member
  obtain ⟨entry, entered, rfl⟩ := mem_stepsOf.mp member
  rw [action_plannedStep only progress (known entry entered)]
  exact (progress.standardClaims only .echo _ (List.fst_mem_of_mem_zipIdx (known entry entered))).plain

theorem free_stepsOf_untaken : ∀ item ∈ stepsOf serial (untaken claims), item.1.action.token? = none := by
  intro item member
  obtain ⟨entry, entered, rfl⟩ := mem_stepsOf.mp member
  obtain ⟨known, free⟩ := List.mem_filter.mp entered
  rw [action_plannedStep only progress known]
  exact progress.untaken only (List.fst_mem_of_mem_zipIdx known) (by simpa using free)

/-- The run after the steps of tokens. -/
def tokenRun (plan : Plan) (serial : Nat) (claims : List Claim) (value : Float) (rounding : Float → Float)
    (locale : Locale) : Run :=
  runAll (plan.setting rounding locale) (stepsOf serial (tokens claims)) (Run.start value plan.layout.size)

theorem finish_eq :
    (ofClaims lexicon serial pattern claims).finish value rounding locale =
      runAll ((ofClaims lexicon serial pattern claims).setting rounding locale)
        (stepsOf serial (untaken claims))
        ((ofClaims lexicon serial pattern claims).tokenRun serial claims value rounding locale) := by
  have plain : ∀ item ∈ stepsOf serial (tokens claims), ∀ step, item.1.action ≠ .custom step :=
    plain_stepsOf only progress fun _ => List.mem_of_mem_filter
  change runAll _ (ofClaims lexicon serial pattern claims).program _ = _
  rw [program_of_tokensOnly only progress, runAll_append_of_plain plain]
  rfl

theorem apart_stepsOf {item other : PlannedStep × Nat} (member : item ∈ stepsOf serial (tokens claims))
    (member' : other ∈ stepsOf serial (untaken claims)) : item.2 ≠ other.2 := by
  have distinct : ((ofClaims lexicon serial pattern claims).program.map Prod.snd).Nodup := distinct_ofClaims
  rw [program_of_tokensOnly only progress, List.map_append, List.nodup_append] at distinct
  exact distinct.2.2 _ (List.mem_map_of_mem member) _ (List.mem_map_of_mem member')

theorem length_finish :
    ((ofClaims lexicon serial pattern claims).finish value rounding locale).cells.texts.length =
      claims.length := by
  have plain : ∀ item ∈ (ofClaims lexicon serial pattern claims).program,
      ∀ step, item.1.action ≠ .custom step := by
    rw [program_ofClaims]
    exact plain_stepsOf only progress fun _ member => member
  refine (length_runAll plain).trans ?_
  simp [Run.start, Cells.blank, size_ofClaims]

/-- The cell of a token has the text that it has after the steps of tokens. -/
theorem text_finish_token {cell : Nat} (taken : cell ∈ (tokens claims).map Prod.snd) :
    ((ofClaims lexicon serial pattern claims).finish value rounding locale).cells.text? cell =
      ((ofClaims lexicon serial pattern claims).tokenRun serial claims value rounding locale).cells.text?
        cell := by
  obtain ⟨entry, entered, rfl⟩ := List.mem_map.mp taken
  rw [finish_eq only progress]
  exact runAll_untaken_other (plain_stepsOf only progress fun _ => List.mem_of_mem_filter)
    (free_stepsOf_untaken only progress) fun item member =>
      apart_stepsOf only progress (mem_stepsOf.mpr ⟨entry, entered, rfl⟩) member

/-- The cell of unclaimed text has that text, or stays blank. -/
theorem text_finish_untaken {entry : Claim × Nat} (left : entry ∈ untaken claims) :
    ((ofClaims lexicon serial pattern claims).finish value rounding locale).cells.text? entry.2 =
      entry.1.step.action.literal? := by
  have known := List.mem_of_mem_filter left
  have step : (plannedStep serial entry, entry.2) ∈ stepsOf serial (untaken claims) :=
    mem_stepsOf.mpr ⟨entry, left, rfl⟩
  have plain : ∀ item ∈ stepsOf serial (tokens claims), ∀ step, item.1.action ≠ .custom step :=
    plain_stepsOf only progress fun _ => List.mem_of_mem_filter
  rw [finish_eq only progress, ← action_plannedStep only progress known]
  refine runAll_untaken_own (plain_stepsOf only progress fun _ => List.mem_of_mem_filter)
    (free_stepsOf_untaken only progress) ?_ step ?_ ?_
  · have distinct : ((ofClaims lexicon serial pattern claims).program.map Prod.snd).Nodup := distinct_ofClaims
    rw [program_of_tokensOnly only progress, List.map_append] at distinct
    exact (List.nodup_append.mp distinct).2.1
  · rw [tokenRun, length_runAll plain]
    simpa [Run.start, Cells.blank, size_ofClaims] using List.snd_lt_of_mem_zipIdx known
  · refine blank_runAll plain (fun item member => ?_) (Cells.text?_blank _ _)
    exact (apart_stepsOf only progress member step).symm

end Known

variable (only : lexicon.TokensOnly) (only' : lexicon'.TokensOnly)
  (progress : Progress lexicon pattern claims tally) (progress' : Progress lexicon' pattern others tally')
  (same : claims.filter Claim.isToken = others.filter Claim.isToken)
include only only' progress progress' same

theorem setting_corresponds :
    ((ofClaims lexicon serial pattern claims).setting rounding locale).Corresponds (SameToken claims others)
      ((ofClaims lexicon' serial' pattern others).setting rounding locale) where
  rounding := rfl
  locale := rfl
  precision := precisionOf_congr only only' progress progress' same
  cell := fun token _ => rel_tokenCell only only' progress progress' same serial serial' token

omit only only' progress progress' same in
theorem start_corresponds :
    (Run.start value (ofClaims lexicon serial pattern claims).layout.size).Corresponds
      (SameToken claims others)
      (Run.start value (ofClaims lexicon' serial' pattern others).layout.size) := by
  refine ⟨rfl, rfl, rfl, rfl, .none, fun _ => by simp [Run.start], fun paired => ?_⟩
  have members := List.of_mem_zip paired
  simp [Run.start, Cells.blank, size_ofClaims, lt_of_mem_tokens members.1, lt_of_mem_tokens members.2]

/-- Both programs run the same steps for the tokens, at paired cells. -/
theorem paired_stepsOf :
    List.Forall₂ (Paired (SameToken claims others)) (stepsOf serial (tokens claims))
      (stepsOf serial' (tokens others)) := by
  have twins := arrange_forall₂ (fun twins => by rw [twins.1]) (twins_tokens same)
  obtain ⟨lengths, twins⟩ := List.forall₂_iff_zip.mp twins
  rw [stepsOf, stepsOf, List.forall₂_map_left_iff, List.forall₂_map_right_iff, List.forall₂_iff_zip]
  refine ⟨lengths, fun {item other} member => ⟨?_, (twins member).2⟩⟩
  have members := List.of_mem_zip member
  rw [(arrange_perm _).mem_iff, (arrange_perm _).mem_iff] at members
  rw [action_plannedStep only progress (List.mem_of_mem_filter members.1),
    action_plannedStep only' progress' (List.mem_of_mem_filter members.2), (twins member).1]

/-- Both runs of the tokens do the same at paired cells. -/
theorem tokenRun_corresponds :
    ((ofClaims lexicon serial pattern claims).tokenRun serial claims value rounding locale).Corresponds
      (SameToken claims others)
      ((ofClaims lexicon' serial' pattern others).tokenRun serial' others value rounding locale) :=
  Run.Corresponds.runAll (SameToken.biUnique claims others)
    (setting_corresponds only only' progress progress' same)
    (paired_stepsOf only only' progress progress' same)
    (plain_stepsOf only progress fun _ => List.mem_of_mem_filter) start_corresponds

/-- The cells of tokens end with the same texts, in the order of the text. -/
theorem tokenTexts_eq :
    (ofClaims lexicon serial pattern claims).tokenTexts claims value rounding locale =
      (ofClaims lexicon' serial' pattern others).tokenTexts others value rounding locale := by
  rw [tokenTexts, tokenTexts, ← List.forall₂_eq_eq_eq, List.forall₂_map_left_iff,
    List.forall₂_map_right_iff]
  refine (twins_tokens same).imp fun item other twins => ?_
  have taken := List.of_mem_zip twins.2
  rw [text_finish_token only progress taken.1, text_finish_token only' progress' taken.2]
  exact (tokenRun_corresponds only only' progress progress' same).cells.text twins.2

end Plan

end NumberPattern
