import Mathlib.Data.List.Induction
import NumberPattern.Proofs.Plan.Arrangement
import NumberPattern.Proofs.Plan.Marks

/-! When two plans count as equal, and why equal plans render the same. Actions are compared by their kind and
their data, custom steps by their marks. What a plan renders is settled by its precision, its layout and the
actions of its steps. -/

namespace NumberPattern

/-- Marks that agree once they are placed stand for one kept object, or for one claim. -/
theorem Mark.eq_of_placed {mark mark' : Mark} {serial serial' cell cell' : Nat}
    (same : mark.placed serial cell = mark'.placed serial' cell') :
    (∃ object, mark = .kept object ∧ mark' = .kept object) ∨ serial = serial' ∧ cell = cell' := by
  cases mark <;> cases mark' <;> simp_all [placed]

namespace Action

/-- Actions of one kind with the same data, or custom steps with the same mark. -/
inductive SameKind : Action → Action → Prop where
  | plain {action : Action} (noCustom : ∀ step, action ≠ .custom step) : SameKind action action
  | custom {step other : CustomStep} (mark : step.mark = other.mark) :
      SameKind (.custom step) (.custom other)

variable {action other third : Action}

theorem sameKind_of_beq (equal : (action == other) = true) : SameKind action other := by
  have equal : same action other = true := equal
  -- one case for each pair of constructors that is compared, the last one for all other pairs
  fun_cases same action other with
  | case1 | case5 | case12 | case15 =>
    obtain rfl := eq_of_beq equal
    exact .plain (by simp)
  | case13 =>
    obtain ⟨places, optional⟩ := Bool.and_eq_true_iff.mp equal
    obtain rfl := eq_of_beq places
    obtain rfl := eq_of_beq optional
    exact .plain (by simp)
  | case17 => exact .custom (eq_of_beq equal)
  | case18 => simp_all [same]
  | _ => exact .plain (by simp)

theorem SameKind.beq (kind : SameKind action other) : (action == other) = true := by
  change same action other = true
  cases kind with
  | plain noCustom =>
    cases action with
    | custom step => exact absurd rfl (noCustom step)
    | _ => simp [same]
  | custom mark => simp [same, mark]

theorem beq_iff_sameKind : (action == other) = true ↔ SameKind action other :=
  ⟨sameKind_of_beq, SameKind.beq⟩

namespace SameKind

theorem refl (action : Action) : SameKind action action := by
  cases action with
  | custom step => exact .custom rfl
  | _ => exact .plain (by simp)

theorem symm (kind : SameKind action other) : SameKind other action := by
  cases kind with
  | plain noCustom => exact .plain noCustom
  | custom mark => exact .custom mark.symm

theorem trans (kind : SameKind action other) (kind' : SameKind other third) : SameKind action third := by
  cases kind with
  | plain => exact kind'
  | custom mark =>
    cases kind' with
    | plain noCustom => exact absurd rfl (noCustom _)
    | custom mark' => exact .custom (mark.trans mark')

theorem equivalence : Equivalence SameKind := ⟨refl, symm, trans⟩

end SameKind

/-- Custom steps with one mark are one step: they have the same effect. -/
def MarkShared (action other : Action) : Prop :=
  ∀ step step', action = .custom step → other = .custom step' → step.mark = step'.mark →
    step.effect = step'.effect

/-- Actions of one kind do the same. -/
theorem SameKind.alike (kind : SameKind action other) (shared : MarkShared action other) :
    action.Alike other := by
  cases kind with
  | plain => exact ⟨rfl, rfl⟩
  | @custom step other mark =>
    have effect : step.effect = other.effect := shared _ _ rfl rfl mark
    exact ⟨by simp only [perform, effect], by funext; simp only [termsAfter, effect]⟩

end Action

namespace Layout
variable {κ : Type} [DecidableEq κ] {table others : List (κ × Nat)}

/-- Keys in the order of their cells, each once. -/
def Ascending (table : List (κ × Nat)) : Prop :=
  table.Pairwise fun entry other => entry.1 ≠ other.1 ∧ entry.2 < other.2

theorem Ascending.lookup_eq_some_iff (ascending : Ascending table) {key : κ} {cell : Nat} :
    table.lookup key = some cell ↔ (key, cell) ∈ table := by
  rw [List.lookup_eq_some_iff]
  constructor
  · rintro ⟨before, after, rfl, _⟩
    simp
  · intro member
    obtain ⟨before, after, rfl⟩ := List.append_of_mem member
    refine ⟨before, after, rfl, fun entry earlier => ?_⟩
    have apart := (List.pairwise_append.mp ascending).2.2 entry earlier _ List.mem_cons_self
    exact bne_iff_ne.mpr apart.1.symm

/-- Such a table is told by its lookups. -/
theorem Ascending.eq_of_lookup (ascending : Ascending table) (ascending' : Ascending others)
    (same : ∀ key, table.lookup key = others.lookup key) : table = others := by
  have members : ∀ entry, entry ∈ table ↔ entry ∈ others := by
    rintro ⟨key, cell⟩
    rw [← ascending.lookup_eq_some_iff, ← ascending'.lookup_eq_some_iff, same]
  have nodup {table : List (κ × Nat)} (ascending : Ascending table) : table.Nodup :=
    ascending.imp fun apart equal => apart.1 (congrArg Prod.fst equal)
  have perm := (List.perm_ext_iff_of_nodup (nodup ascending) (nodup ascending')).mpr members
  refine perm.eq_of_pairwise (fun entry other _ _ before after => ?_) ascending ascending'
  exact absurd before.2 (Nat.lt_asymm after.2)

theorem firstCells_concat (keys : List (Option κ)) (key : Option κ) :
    firstCells (keys ++ [key]) = note (firstCells keys) key keys.length := by
  simp [firstCells, List.zipIdx_append]

theorem ascending_firstCells (keys : List (Option κ)) :
    Ascending (firstCells keys) ∧ ∀ entry ∈ firstCells keys, entry.2 < keys.length := by
  induction keys using List.reverseRecOn with
  | nil => exact ⟨List.Pairwise.nil, by simp [firstCells]⟩
  | append_singleton keys key ih =>
    obtain ⟨ascending, bound⟩ := ih
    have kept : ∀ entry ∈ firstCells keys, entry.2 < (keys ++ [key]).length := by
      intro entry member
      have := bound entry member
      simp only [List.length_append, List.length_singleton]
      omega
    rw [firstCells_concat]
    unfold note
    split
    next key =>
      split
      · exact ⟨ascending, kept⟩
      next unknown =>
        refine ⟨List.pairwise_append.mpr ⟨ascending, List.pairwise_singleton _ _, ?_⟩, ?_⟩
        · intro entry member other last
          obtain rfl := List.mem_singleton.mp last
          refine ⟨fun same => unknown ?_, bound entry member⟩
          exact List.any_eq_true.mpr ⟨entry, member, decide_eq_true same⟩
        · intro entry member
          rcases List.mem_append.mp member with old | new
          · exact kept entry old
          · simp [List.mem_singleton.mp new]
    · exact ⟨ascending, kept⟩

/-- The layouts give each step, claimant and token the same cell. -/
structure Agrees (layout other : Layout) : Prop where
  cells : layout.cells = other.cells
  claimants : ∀ id, layout.claimantCell? id = other.claimantCell? id
  tokens : ∀ token, layout.tokenCell? token = other.tokenCell? token

end Layout

namespace Plan

variable {plan other : Plan}

/-- The plan of some pattern, under some lexicon. -/
def IsCompiled (plan : Plan) : Prop := ∃ lexicon serial pattern, compile lexicon serial pattern = .ok plan

/-- The layouts of compiled plans are equal when they answer alike. -/
theorem layout_eq_of_agrees (compiled : plan.IsCompiled) (compiled' : other.IsCompiled)
    (agrees : plan.layout.Agrees other.layout) : plan.layout = other.layout := by
  obtain ⟨lexicon, serial, pattern, compiled⟩ := compiled
  obtain ⟨lexicon', serial', pattern', compiled'⟩ := compiled'
  obtain ⟨claims, _, rfl⟩ := compile_eq_ok_iff.mp compiled
  obtain ⟨claims', _, rfl⟩ := compile_eq_ok_iff.mp compiled'
  have claimants := (Layout.ascending_firstCells _).1.eq_of_lookup
    (Layout.ascending_firstCells _).1 agrees.claimants
  have tokens := (Layout.ascending_firstCells _).1.eq_of_lookup
    (Layout.ascending_firstCells _).1 agrees.tokens
  exact (Layout.mk.injEq ..).mpr ⟨agrees.cells, claimants, tokens⟩

/-- The plans may differ in their patterns and in the weights and claimants of their steps. -/
structure Interchangeable (plan other : Plan) : Prop where
  precision : plan.precision = other.precision
  layout : plan.layout.Agrees other.layout
  actions : List.Forall₂ (fun step other => (step.action == other.action) = true) plan.steps other.steps

/-- The number of a kept object stands for one object in both plans. -/
def KeptShared (plan other : Plan) : Prop :=
  ∀ step ∈ plan.steps, ∀ step' ∈ other.steps, ∀ custom custom' object,
    step.action = .custom custom → step'.action = .custom custom' →
    custom.mark = .kept object → custom'.mark = .kept object → custom.effect = custom'.effect

/-- A mark stands for one custom step in both plans. -/
def MarksShared (plan other : Plan) : Prop :=
  ∀ step ∈ plan.steps, ∀ step' ∈ other.steps, step.action.MarkShared step'.action

theorem alike_of_actions {steps others : List PlannedStep}
    (actions : List.Forall₂ (fun step other => (step.action == other.action) = true) steps others)
    (shared : ∀ step ∈ steps, ∀ other ∈ others, step.action.MarkShared other.action) :
    List.Forall₂ (fun step other => step.action.Alike other.action) steps others := by
  induction actions with
  | nil => exact .nil
  | @cons step other steps others first rest ih =>
    refine .cons ?_ (ih fun step member other member' => ?_)
    · exact (Action.sameKind_of_beq first).alike
        (shared step List.mem_cons_self other List.mem_cons_self)
    · exact shared step (List.mem_cons_of_mem _ member) other (List.mem_cons_of_mem _ member')

theorem Interchangeable.render_eq (same : plan.Interchangeable other) (layout : plan.layout = other.layout)
    (shared : plan.MarksShared other) : plan.render = other.render := by
  funext value rounding locale
  have settings : plan.setting rounding locale = other.setting rounding locale := by
    simp only [setting, same.precision, layout]
  have alike := alike_of_actions same.actions shared
  simp only [render, finish, settings, layout]
  rw [runAll_congr alike]

theorem forall₂_of_beq {steps others : List PlannedStep} (equal : (steps == others) = true) :
    List.Forall₂ (fun step other => (step.action == other.action) = true) steps others := by
  induction steps generalizing others with
  | nil =>
    cases others with
    | nil => exact .nil
    | cons other others => cases equal
  | cons step steps ih =>
    cases others with
    | nil => cases equal
    | cons other others =>
      obtain ⟨first, rest⟩ := Bool.and_eq_true_iff.mp equal
      obtain ⟨kind, _⟩ := Bool.and_eq_true_iff.mp first
      exact .cons (Bool.and_eq_true_iff.mp kind).1 (ih rest)

/-- Equal plans differ in nothing but the identity of their custom steps. -/
theorem interchangeable_of_beq (equal : (plan == other) = true) : plan.Interchangeable other := by
  obtain ⟨equal, layout⟩ := Bool.and_eq_true_iff.mp equal
  obtain ⟨equal, precision⟩ := Bool.and_eq_true_iff.mp equal
  obtain ⟨_, steps⟩ := Bool.and_eq_true_iff.mp equal
  have layout := eq_of_beq layout
  exact ⟨eq_of_beq precision, ⟨by rw [layout], fun _ => by rw [layout], fun _ => by rw [layout]⟩,
    forall₂_of_beq steps⟩

theorem exists_custom_of_placed {action : Action} {serial cell : Nat} {step : CustomStep}
    (placed : action.placed serial cell = .custom step) :
    ∃ claimed, action = .custom claimed ∧ step = { claimed with mark := claimed.mark.placed serial cell } := by
  cases action with
  | custom claimed =>
    cases placed
    exact ⟨claimed, rfl, rfl⟩
  | _ => cases placed

/-- Compilations with a serial number each make custom steps of their own, so that a mark stands for one
claim, unless it stands for an object that the claimants keep. -/
theorem marksShared_of_serials {lexicon lexicon' : Lexicon} {serial serial' : Nat} {pattern pattern' : String}
    (compiled : compile lexicon serial pattern = .ok plan)
    (compiled' : compile lexicon' serial' pattern' = .ok other)
    (serials : serial = serial' → lexicon = lexicon' ∧ pattern = pattern') (kept : plan.KeptShared other) :
    plan.MarksShared other := by
  obtain ⟨claims, scanned, rfl⟩ := compile_eq_ok_iff.mp compiled
  obtain ⟨claims', scanned', rfl⟩ := compile_eq_ok_iff.mp compiled'
  intro step member step' member' custom custom' own own' mark
  obtain ⟨⟨claim, cell⟩, listed, rfl⟩ := List.mem_map.mp member
  obtain ⟨⟨claim', cell'⟩, listed', rfl⟩ := List.mem_map.mp member'
  obtain ⟨claimed, action, rfl⟩ := exists_custom_of_placed own
  obtain ⟨claimed', action', rfl⟩ := exists_custom_of_placed own'
  rcases Mark.eq_of_placed mark with ⟨object, origin, origin'⟩ | ⟨rfl, rfl⟩
  · exact kept _ member _ member' _ _ object own own' (congrArg (Mark.placed serial cell) origin)
      (congrArg (Mark.placed serial' cell') origin')
  · -- the same compilation and the same cell, so the same claim
    obtain ⟨rfl, rfl⟩ := serials rfl
    cases scanned.symm.trans scanned'
    have found := List.mk_mem_zipIdx_iff_getElem?.mp ((arrange_perm _).mem_iff.mp listed)
    have found' := List.mk_mem_zipIdx_iff_getElem?.mp ((arrange_perm _).mem_iff.mp listed')
    cases found.symm.trans found'
    cases action.symm.trans action'
    rfl

/-- Actions are told apart by their kind and their data, and what a plan renders by its precision, its layout
and its actions alone: equal plans render alike, and so do plans from other patterns and lexicons, with other
weights and claimants. -/
theorem equal_kinds_render_alike :
    Equivalence (fun action other : Action => (action == other) = true) ∧
    (∀ action other : Action, (action == other) = true ↔ action.SameKind other) ∧
    (∀ plan other : Plan, plan.IsCompiled → other.IsCompiled → plan.Interchangeable other →
      plan.MarksShared other → ∀ value rounding locale,
        plan.render value rounding locale = other.render value rounding locale) ∧
    (∀ plan other : Plan, (plan == other) = true → plan.Interchangeable other) ∧
    (∀ lexicon lexicon' serial serial' pattern pattern' plan plan',
      compile lexicon serial pattern = .ok plan → compile lexicon' serial' pattern' = .ok plan' →
      (serial = serial' → lexicon = lexicon' ∧ pattern = pattern') → plan.KeptShared plan' →
        plan.MarksShared plan') := by
  refine ⟨?_, fun _ _ => Action.beq_iff_sameKind, ?_, fun _ _ => interchangeable_of_beq,
    fun _ _ _ _ _ _ _ _ => marksShared_of_serials⟩
  · simp only [Action.beq_iff_sameKind]
    exact Action.SameKind.equivalence
  · intro plan other compiled compiled' same shared value rounding locale
    have layout := layout_eq_of_agrees compiled compiled' same.layout
    rw [same.render_eq layout shared]

/-- A step that writes a word. -/
def writing (weight : Int) : Step :=
  let word : Effect := fun _ cell run => run.write cell "q"
  { action := .custom { effect := word.onTerms }, weight := weight }

/-- Two claimants that write the same word, at a weight of their choice. -/
def echoing (weight : Int) : Lexicon :=
  let step := writing weight
  ((Lexicon.bare .echo).register (.taking "x" step)).register (.taking "y" step)

/-- Custom steps at other weights and of other claimants, for another pattern. -/
theorem equal_kinds_render_alike_custom :
    ∃ plan other, compile (echoing 0) 0 "xyx" = .ok plan ∧ compile (echoing 1) 0 "xyy" = .ok other ∧
      plan.steps.map (·.weight) = [0, 0, 0] ∧ other.steps.map (·.weight) = [1, 1, 1] ∧
      plan.steps.map (·.claimant) = [⟨2⟩, ⟨3⟩, ⟨2⟩] ∧ other.steps.map (·.claimant) = [⟨2⟩, ⟨3⟩, ⟨3⟩] ∧
      ∀ value rounding locale,
        plan.render value rounding locale = other.render value rounding locale := by
  let claim (weight : Int) (number : Nat) : Claim := ⟨⟨number⟩, writing weight⟩
  let claims := [claim 0 2, claim 0 3, claim 0 2]
  let claims' := [claim 1 2, claim 1 3, claim 1 3]
  have compiled : compile (echoing 0) 0 "xyx" = .ok (ofClaims (echoing 0) 0 "xyx" claims) :=
    compile_eq_ok_iff.mpr ⟨claims, rfl, rfl⟩
  have compiled' : compile (echoing 1) 0 "xyy" = .ok (ofClaims (echoing 1) 0 "xyy" claims') :=
    compile_eq_ok_iff.mpr ⟨claims', rfl, rfl⟩
  have same : (ofClaims (echoing 0) 0 "xyx" claims).Interchangeable
      (ofClaims (echoing 1) 0 "xyy" claims') :=
    ⟨rfl, ⟨rfl, fun _ => rfl, fun _ => rfl⟩, .cons rfl (.cons rfl (.cons rfl .nil))⟩
  have shared : (ofClaims (echoing 0) 0 "xyx" claims).MarksShared
      (ofClaims (echoing 1) 0 "xyy" claims') := by
    intro step member step' member' custom custom' own own' _
    have echoes : ∀ step custom, step ∈ (ofClaims (echoing 0) 0 "xyx" claims).steps ∨
        step ∈ (ofClaims (echoing 1) 0 "xyy" claims').steps → step.action = .custom custom →
        custom.effect = Effect.onTerms fun _ cell run => run.write cell "q" := by
      rintro step custom member own
      change step ∈ [_, _, _] ∨ step ∈ [_, _, _] at member
      simp only [List.mem_cons, List.not_mem_nil, or_false] at member
      rcases member with (rfl | rfl | rfl) | rfl | rfl | rfl <;> (cases own; rfl)
    rw [echoes step custom (.inl member) own, echoes step' custom' (.inr member') own']
  exact ⟨_, _, compiled, compiled', rfl, rfl, rfl, rfl,
    equal_kinds_render_alike.2.2.1 _ _ ⟨_, _, _, compiled⟩ ⟨_, _, _, compiled'⟩ same shared⟩

end Plan

end NumberPattern
