import Mathlib.Data.List.Induction
import NumberPattern.Proofs.Run.Literals
import NumberPattern.Proofs.Run.Scaling

/-! What the steps of a plan leave to each other. The cell that shows the sign belongs to a step that ran
and shows signs; a foreign cell is grouped, cleared or loses its sign, or else it is left alone, and so
literal text survives as it stands in the pattern. -/

namespace NumberPattern
open Lexicon (standard fallbackId)

theorem withoutSign_cases (text : String) : text = "-" ++ withoutSign text ∨ withoutSign text = text := by
  unfold withoutSign
  split
  next rest signed =>
    left
    rw [← String.toList_inj, signed]
    simp
  next unsigned => exact Or.inr rfl

/-- Steps of these tokens may show the sign in their cells. -/
def Token.showsSign : Token → Bool
  | plus | integer | point | currency | minus => true
  | _ => false

/-- Steps of these tokens may take the sign from the cell that shows it. -/
def Token.takesSign : Token → Bool
  | closeParen | currency | minus => true
  | _ => false

namespace Action

/-- Nothing happens to the cell of such an action after it. -/
def isSettled : Action → Bool
  | plus | integer | point _ | currency _ | minus | custom _ => false
  | _ => true

variable {action : Action} {setting : Setting} {cell : Nat} {run : Run}

theorem bearer_cases : action.bearer setting cell run = none ∨
    action.bearer setting cell run = run.signCell ∨
    action.bearer setting cell run = some cell ∧
      ∃ token : Token, action.token? = some token ∧ token.showsSign = true := by
  cases action with
  | plus | integer | minus | point | currency =>
    simp only [bearer]
    split
    · exact Or.inr (Or.inr ⟨rfl, _, rfl, rfl⟩)
    · exact Or.inr (Or.inl rfl)
  | closeParen =>
    simp only [bearer]
    split
    · exact Or.inl rfl
    · exact Or.inr (Or.inl rfl)
  | _ => exact Or.inr (Or.inl rfl)

theorem showsSign_of_isSettled {token : Token} (settled : action.isSettled = true)
    (kind : action.token? = some token) : token.showsSign = false := by
  cases action with
  | plus | integer | point | currency | minus => cases settled
  | custom | literal | skip => cases kind
  | _ =>
    cases kind
    rfl

end Action

namespace Plan

/-- One of the steps belongs to the token and has the cell. -/
def Hosts (items : List (PlannedStep × Nat)) (token : Token) (cell : Nat) : Prop :=
  ∃ item ∈ items, item.2 = cell ∧ item.1.action.token? = some token

theorem Hosts.append {items : List (PlannedStep × Nat)} {token : Token} {cell : Nat}
    (hosts : Hosts items token cell) (more : List (PlannedStep × Nat)) : Hosts (items ++ more) token cell := by
  obtain ⟨item, member, own, kind⟩ := hosts
  exact ⟨item, List.mem_append_left more member, own, kind⟩

/-- How a step may change a text in a cell that is not its own. -/
inductive Disturbs (plan : Plan) (locale : Locale) (run : Run) (other : Nat) :
    Action → Option String → Option String → Prop where
  /-- The integer is grouped. -/
  | grouped (text : String) (own : Hosts plan.program .integer other) :
      Disturbs plan locale run other .group (some text) (some (Amount.groupThousands locale.group text))
  /-- The point goes when no decimals follow it. -/
  | dropped (places optional : Nat) (text : String) (own : Hosts plan.program .point other) :
      Disturbs plan locale run other (.decimals places optional) (some text) none
  /-- The sign is taken from the cell that shows it. -/
  | unsigned (action : Action) (token : Token) (text : String) (kind : action.token? = some token)
      (takes : token.takesSign = true) (shown : run.signCell = some other) :
      Disturbs plan locale run other action (some ("-" ++ text)) (some text)

variable {plan : Plan} {value : Float} {rounding : Float → Float} {locale : Locale}
  {before after between items : List (PlannedStep × Nat)} {step : PlannedStep} {cell other : Nat}
  {setting : Setting} {run : Run}

theorem Disturbs.of_stripped {action : Action} {token : Token} (kind : action.token? = some token)
    (takes : token.takesSign = true) (taken : Bool) (text : String) :
    Action.stripped run taken other (some text) = some text ∨
      Disturbs plan locale run other action (some text) (Action.stripped run taken other (some text)) := by
  unfold Action.stripped
  split
  next shown =>
    rw [Option.map_some]
    rcases withoutSign_cases text with signed | unsigned
    · have taken : Disturbs plan locale run other action (some ("-" ++ withoutSign text))
          (some (withoutSign text)) := .unsigned action token _ kind takes shown.2
      rw [← signed] at taken
      exact Or.inr taken
    · exact Or.inl (congrArg some unsigned)
  next => exact Or.inl rfl

/-- The cell that shows the sign was there at the start or belongs to a step that shows signs. -/
theorem signCell_runAll (plain : ∀ item ∈ items, ∀ step, item.1.action ≠ .custom step)
    (shown : (runAll setting items run).signCell = some cell) :
    run.signCell = some cell ∨ ∃ token, token.showsSign = true ∧ Hosts items token cell := by
  induction items using List.reverseRecOn with
  | nil => exact Or.inl shown
  | append_singleton items item ih =>
    obtain ⟨plain, last⟩ := List.forall_mem_append.mp plain
    rw [List.forall_mem_singleton] at last
    rw [runAll_concat plain, (Action.effected_perform last).signCell] at shown
    rcases (Action.bearer_cases : item.1.action.bearer setting item.2 (runAll setting items run) = none ∨ _)
      with bare | kept | ⟨own, token, kind, shows⟩
    · cases bare.symm.trans shown
    · rcases ih plain (kept.symm.trans shown) with start | ⟨token, shows, hosts⟩
      · exact Or.inl start
      · exact Or.inr ⟨token, shows, hosts.append [item]⟩
    · exact Or.inr ⟨token, shows, item, by simp, Option.some.inj (own.symm.trans shown), kind⟩

section Steps

variable (regular : plan.Regular) (value : Float) (rounding : Float → Float) (locale : Locale)
include regular

theorem Regular.signCell_hosted (order : plan.program = before ++ after)
    (shown : (plan.runAfter value rounding locale before).signCell = some cell) :
    ∃ token, token.showsSign = true ∧ Hosts before token cell := by
  refine (signCell_runAll (fun item member => ?_) shown).resolve_left (by simp [Run.start])
  exact regular.plain item (by simp [order, member])

/-- A step leaves a foreign cell alone or changes it in one of the known ways. -/
theorem Regular.foreign_step (order : plan.program = before ++ (step, cell) :: after) (different : other ≠ cell) :
    (plan.runAfter value rounding locale (before ++ [(step, cell)])).cells.text? other =
        (plan.runAfter value rounding locale before).cells.text? other ∨
      Disturbs plan locale (plan.runAfter value rounding locale before) other step.action
        ((plan.runAfter value rounding locale before).cells.text? other)
        ((plan.runAfter value rounding locale (before ++ [(step, cell)])).cells.text? other) := by
  have effected := regular.effected (regular.turn order) rounding locale
    (plan.runAfter value rounding locale before)
  rw [regular.runAfter_concat order, effected.other other different]
  generalize (plan.runAfter value rounding locale before) = run
  cases written : run.cells.text? other with
  | none => exact Or.inl Action.touch_none
  | some text =>
    cases action : step.action with
    | group =>
      simp only [Action.touch]
      split
      next found => exact Or.inr (.grouped text (regular.step .integer other found))
      next => exact Or.inl rfl
    | decimals places optional =>
      simp only [Action.touch]
      split
      next found => exact Or.inr (.dropped places optional text (regular.step .point other found.1))
      next => exact Or.inl rfl
    | closeParen => exact Disturbs.of_stripped rfl rfl _ text
    | currency carriesSign => exact Disturbs.of_stripped rfl rfl _ text
    | minus => exact Disturbs.of_stripped rfl rfl _ text
    | _ => exact Or.inl rfl

/-- What a settled step leaves in its cell stays there. -/
theorem Regular.settled_step (order : plan.program = before ++ (step, cell) :: (between ++ after))
    (settled : step.action.isSettled = true) :
    (plan.runAfter value rounding locale (before ++ (step, cell) :: between)).cells.text? cell =
      (plan.runAfter value rounding locale (before ++ [(step, cell)])).cells.text? cell := by
  have member : (step, cell) ∈ plan.program := by simp [order]
  -- a step that the cell belongs to is this one
  have bare {token : Token} (shows : token.showsSign = true) : ¬ Hosts plan.program token cell := by
    rintro ⟨item, member', own, kind⟩
    obtain rfl := regular.same_item member' member own
    cases (Action.showsSign_of_isSettled settled kind).symm.trans shows
  have split : plan.runAfter value rounding locale (before ++ (step, cell) :: between) =
      runAll (plan.setting rounding locale) between
        (plan.runAfter value rounding locale (before ++ [(step, cell)])) := by
    have order : plan.program = (before ++ [(step, cell)]) ++ between ++ after := by simp [order]
    rw [← regular.runAfter_append order, List.append_assoc, List.singleton_append]
  rw [split]
  refine untouched_runAll (fun item inner => regular.plain item (by simp [order, inner]))
    (fun item inner => (regular.apart order).2 item (List.mem_append_left after inner))
    (fun found => bare rfl (regular.step .integer cell found))
    (fun found => bare rfl (regular.step .point cell found)) (fun shown => ?_)
  have order : plan.program = (before ++ [(step, cell)]) ++ (between ++ after) := by simp [order]
  obtain ⟨token, shows, hosts⟩ := regular.signCell_hosted value rounding locale order shown
  exact bare shows (order ▸ hosts.append _)

end Steps

/-- What the steps of a plan leave to each other in a run. -/
structure Framed (plan : Plan) (value : Float) (rounding : Float → Float) (locale : Locale) : Prop where
  /-- At every moment the cell that shows the sign is that of a step that ran and shows signs. -/
  shown : ∀ before after cell, plan.program = before ++ after →
    (plan.runAfter value rounding locale before).signCell = some cell →
    ∃ token, token.showsSign = true ∧ Hosts before token cell
  foreign : ∀ before step cell after, plan.program = before ++ (step, cell) :: after →
    ∀ other, other ≠ cell →
      (plan.runAfter value rounding locale (before ++ [(step, cell)])).cells.text? other =
          (plan.runAfter value rounding locale before).cells.text? other ∨
        Disturbs plan locale (plan.runAfter value rounding locale before) other step.action
          ((plan.runAfter value rounding locale before).cells.text? other)
          ((plan.runAfter value rounding locale (before ++ [(step, cell)])).cells.text? other)
  settled : ∀ before step cell between after,
    plan.program = before ++ (step, cell) :: (between ++ after) → step.action.isSettled = true →
    (plan.runAfter value rounding locale (before ++ (step, cell) :: between)).cells.text? cell =
      (plan.runAfter value rounding locale (before ++ [(step, cell)])).cells.text? cell

/-- What a claim contributes to the rendered text where unclaimed text is echoed: unclaimed text as it
stands in the pattern, for a token what is in its cell. -/
def contribution (pattern : String) (cells : Cells) (item : (Nat × Claim) × Nat) : String :=
  if item.1.2.claimant = fallbackId then String.ofList (Scan.covered pattern item.1.1 item.1.2)
  else (cells.text? item.2).getD ""

theorem join_filterMap {α : Type} (text : α → Option String) (items : List α) :
    String.join (items.filterMap text) = String.join (items.map fun item => (text item).getD "") := by
  induction items with
  | nil => rfl
  | cons item items ih =>
    rw [List.filterMap_cons, List.map_cons, String.join_cons, ← ih]
    cases text item with
    | none => exact (String.empty_append).symm
    | some written => exact String.join_cons

/-- Steps do not disturb the cells of others but in the known ways, and echoed text is rendered as it
stands, in the order of the pattern. -/
theorem steps_keep_foreign_cells (unclaimed : Unclaimed) (serial : Nat) (pattern : String) (plan : Plan)
    (compiled : compile (standard unclaimed) serial pattern = .ok plan) :
    ∃ claims, scan (standard unclaimed) pattern = .ok claims ∧
      plan = ofClaims (standard unclaimed) serial pattern claims ∧
      ∀ value rounding locale, Framed plan value rounding locale ∧
        (unclaimed = .echo → plan.render value rounding locale =
          String.join ((Scan.located 0 claims).zipIdx.map
            (contribution pattern (plan.finish value rounding locale).cells))) := by
  have regular := regular_of_compile compiled
  obtain ⟨claims, scanned, rfl⟩ := compile_eq_ok_iff.mp compiled
  obtain ⟨tally, progress, finished⟩ := Scan.scan_eq_ok_iff.mp scanned
  refine ⟨claims, scanned, rfl, fun value rounding locale => ⟨⟨?_, ?_, ?_⟩, ?_⟩⟩
  · exact fun before after cell order => regular.signCell_hosted value rounding locale order
  · exact fun before step cell after order other => regular.foreign_step value rounding locale order
  · exact fun before step cell between after order => regular.settled_step value rounding locale order
  · rintro rfl
    have only := Lexicon.tokensOnly_standard .echo
    rw [render_ofClaims only progress, join_filterMap, zipIdx_located, List.map_map]
    refine congrArg String.join (List.map_congr_left fun item member => ?_)
    unfold contribution
    split
    next free =>
      have written : ((ofClaims (standard .echo) serial pattern claims).finish value rounding
          locale).cells.text? item.2 = some (String.ofList (Scan.covered pattern item.1.1 item.1.2)) :=
        text_finish_echo only progress (Lexicon.unclaimed_standard .echo) member
          (by simp [Claim.isToken, free])
      simp [written]
    next => rfl

/-- Text that begins like a minus sign stays behind a number that shows one. -/
theorem steps_keep_foreign_cells_minus :
    ∃ plan, compile (standard .echo) 0 "-0-7" = .ok plan ∧
      ∀ value rounding locale, Framed plan value rounding locale ∧
        plan.render value rounding locale =
          ((plan.finish value rounding locale).cells.text? 0).getD "" ++
            ((plan.finish value rounding locale).cells.text? 1).getD "" ++ "-7" := by
  let claims : List Claim :=
    [⟨⟨15⟩, { action := .minus, weight := Weight.minus }⟩,
      ⟨⟨7⟩, { action := .integer, weight := Weight.integer }⟩,
      ⟨fallbackId, { action := .literal "-7", weight := Weight.literal, consumed := 1 }⟩]
  have scanned : scan (standard .echo) "-0-7" = .ok claims := rfl
  have compiled : compile (standard .echo) 0 "-0-7" = .ok (ofClaims (standard .echo) 0 "-0-7" claims) :=
    compile_eq_ok_iff.mpr ⟨claims, scanned, rfl⟩
  obtain ⟨found, scanned', _, framed⟩ := steps_keep_foreign_cells .echo 0 "-0-7" _ compiled
  obtain rfl : claims = found := Except.ok.inj (scanned.symm.trans scanned')
  refine ⟨_, compiled, fun value rounding locale => ⟨(framed value rounding locale).1, ?_⟩⟩
  have contributions (cells : Cells) : (Scan.located 0 claims).zipIdx.map (contribution "-0-7" cells) =
      [(cells.text? 0).getD "", (cells.text? 1).getD "", "-7"] := rfl
  rw [(framed value rounding locale).2 rfl, contributions]
  simp [String.join_cons, String.append_assoc]

end Plan

end NumberPattern
