import NumberPattern.Proofs.Plan.Standard

/-! The turn of a step in the program of a regular plan: which tokens ran before it, and which cells
belong to others. -/

namespace NumberPattern

def Action.carriesSign : Action → Bool
  | .currency carriesSign => carriesSign
  | _ => false

def Action.isOptionalPoint : Action → Bool
  | .point optional => optional
  | _ => false

namespace Plan

/-- Whether the plan has a currency symbol that carries the sign. -/
def carriesSign (plan : Plan) : Bool := plan.steps.any (·.action.carriesSign)

/-- Whether the point of the plan is an optional one. -/
def optionalPoint (plan : Plan) : Bool := plan.steps.any (·.action.isOptionalPoint)

/-- Whether a step of the token is among these. -/
def ran (done : List (PlannedStep × Nat)) (token : Token) : Bool :=
  done.any (·.1.action.token? = some token)

@[simp] theorem ran_append (done more : List (PlannedStep × Nat)) (token : Token) :
    ran (done ++ more) token = (ran done token || ran more token) := List.any_append

@[simp] theorem ran_singleton (item : PlannedStep × Nat) (token : Token) :
    ran [item] token = decide (item.1.action.token? = some token) := by
  simp [ran]

theorem ran_concat {done : List (PlannedStep × Nat)} {item : PlannedStep × Nat} {token : Token} :
    ran (done ++ [item]) token = true ↔ ran done token = true ∨ item.1.action.token? = some token := by
  simp

theorem ran_concat_eq_false {done : List (PlannedStep × Nat)} {item : PlannedStep × Nat} {token : Token} :
    ran (done ++ [item]) token = false ↔ ran done token = false ∧ item.1.action.token? ≠ some token := by
  simp

theorem ran_eq_false {done : List (PlannedStep × Nat)} {token : Token} :
    ran done token = false ↔ ∀ item ∈ done, item.1.action.token? ≠ some token := by
  simp [ran]

theorem ran_program {plan : Plan} (regular : plan.Regular) (token : Token) :
    ran plan.program token = plan.has token := by
  rw [Bool.eq_iff_iff, has_iff regular.steps, ran]
  simp

theorem ran_program_of_mem {plan : Plan} {item : PlannedStep × Nat} {token : Token} (member : item ∈ plan.program)
    (kind : item.1.action.token? = some token) : ran plan.program token = true := by
  rw [← Bool.not_eq_false, ran_eq_false]
  intro idle
  exact idle item member kind

theorem weight_of_token {action : Action} {token : Token} (kind : action.token? = some token) :
    action.weight = token.weight := by
  rw [Action.weight, kind]
  rfl

namespace Regular

variable {plan : Plan} {item other : PlannedStep × Nat} {token : Token}
  {done rest : List (PlannedStep × Nat)}

theorem same_item (regular : plan.Regular) (member : item ∈ plan.program) (member' : other ∈ plan.program)
    (cell : item.2 = other.2) : item = other :=
  List.inj_on_of_nodup_map regular.distinct member member' cell

/-- A single token has one step. -/
theorem unique (regular : plan.Regular) (member : item ∈ plan.program) (member' : other ∈ plan.program)
    (kind : item.1.action.token? = some token) (kind' : other.1.action.token? = some token)
    (single : token.isSingle = true) : item = other := by
  have cell := regular.cell item member token kind single
  have cell' := regular.cell other member' token kind' single
  rw [cell, Option.some.injEq] at cell'
  exact regular.same_item member member' cell'

/-- What the one step of a single token says is what the plan says. -/
theorem any_eq (regular : plan.Regular) (test : Action → Bool)
    (of : ∀ action, test action = true → action.token? = some token) (member : item ∈ plan.program)
    (kind : item.1.action.token? = some token) (single : token.isSingle = true) :
    plan.steps.any (fun step => test step.action) = test item.1.action := by
  rw [Bool.eq_iff_iff, ← regular.steps, List.any_map, List.any_eq_true]
  constructor
  · rintro ⟨other, member', holds⟩
    have same := regular.unique member' member (of _ holds) kind single
    exact same ▸ holds
  · intro holds
    exact ⟨item, member, holds⟩

theorem carriesSign_eq (regular : plan.Regular) (member : item ∈ plan.program) {carriesSign : Bool}
    (symbol : item.1.action = .currency carriesSign) : plan.carriesSign = carriesSign := by
  have own : item.1.action.token? = some .currency := congrArg Action.token? symbol
  refine (regular.any_eq Action.carriesSign ?_ member own rfl).trans (congrArg Action.carriesSign symbol)
  intro action carries
  cases action with
  | currency => rfl
  | _ => cases carries

theorem optionalPoint_eq (regular : plan.Regular) (member : item ∈ plan.program) {optional : Bool}
    (point : item.1.action = .point optional) : plan.optionalPoint = optional := by
  have own : item.1.action.token? = some .point := congrArg Action.token? point
  refine (regular.any_eq Action.isOptionalPoint ?_ member own rfl).trans
    (congrArg Action.isOptionalPoint point)
  intro action optional
  cases action with
  | point => rfl
  | _ => cases optional

theorem tokenCell_isSome (regular : plan.Regular) (single : token.isSingle = true) :
    (plan.layout.tokenCell? token).isSome = plan.has token := by
  rw [Bool.eq_iff_iff, has_iff regular.steps, Option.isSome_iff_exists]
  constructor
  · rintro ⟨cell, found⟩
    obtain ⟨item, member, _, kind⟩ := regular.step token cell found
    exact ⟨item, member, kind⟩
  · rintro ⟨item, member, kind⟩
    exact ⟨item.2, regular.cell item member token kind single⟩

/-- No two tokens share a cell. -/
theorem token_of_cell (regular : plan.Regular) {first second : Token} {cell : Nat}
    (found : plan.layout.tokenCell? first = some cell)
    (found' : plan.layout.tokenCell? second = some cell) :
    first = second := by
  obtain ⟨item, member, own, kind⟩ := regular.step first cell found
  obtain ⟨other, member', own', kind'⟩ := regular.step second cell found'
  obtain rfl := regular.same_item member member' (own.trans own'.symm)
  exact Option.some.inj (kind.symm.trans kind')

theorem own_cell (regular : plan.Regular) (member : item ∈ plan.program) {cell : Nat}
    (found : plan.layout.tokenCell? token = some cell) (kind : item.1.action.token? = some token)
    (single : token.isSingle = true) : item.2 = cell :=
  Option.some.inj ((regular.cell item member token kind single).symm.trans found)

theorem cell_ne (regular : plan.Regular) {other : Token} {cell : Nat}
    (found : plan.layout.tokenCell? token = some cell) (different : other ≠ token) :
    plan.layout.tokenCell? other ≠ some cell := fun known => different (regular.token_of_cell known found)

end Regular

/-- What a step of a regular plan finds when its turn comes after the steps that are done. -/
structure Turn (plan : Plan) (done : List (PlannedStep × Nat)) (item : PlannedStep × Nat) : Prop where
  member : item ∈ plan.program
  part : done ⊆ plan.program
  heavier : ∀ token : Token, item.1.action.weight < token.weight → ran done token = false
  lighter : ∀ token : Token, token.weight < item.1.action.weight → ran done token = plan.has token
  fresh : ∀ token : Token, item.1.action.token? = some token → token.isSingle = true →
    ran done token = false
  /-- The cell of the step is the cell of no other token. -/
  foreign : ∀ token cell, plan.layout.tokenCell? token = some cell →
    item.1.action.token? ≠ some token → cell ≠ item.2

variable {plan : Plan} {done : List (PlannedStep × Nat)} {item : PlannedStep × Nat} {token other : Token}

theorem Turn.later (turn : Turn plan done item) (kind : item.1.action.token? = some token)
    (heavier : token.weight < other.weight) : ran done other = false :=
  turn.heavier other (by rw [weight_of_token kind]; exact heavier)

theorem Turn.earlier (turn : Turn plan done item) (kind : item.1.action.token? = some token)
    (lighter : other.weight < token.weight) : ran done other = plan.has other :=
  turn.lighter other (by rw [weight_of_token kind]; exact lighter)

/-- After a step of a token comes no lighter one. -/
theorem Turn.weight_le (turn : Turn plan done item) (past : ran done token = true) :
    token.weight ≤ item.1.action.weight := by
  apply Int.not_lt.mp
  intro heavier
  rw [turn.heavier token heavier] at past
  cases past

theorem Turn.kind_ne (turn : Turn plan done item) (past : ran done token = true)
    (lighter : other.weight < token.weight) : item.1.action.token? ≠ some other := by
  intro kind
  have heavier := turn.weight_le past
  rw [weight_of_token kind] at heavier
  omega

/-- A single token that ran does not run again. -/
theorem Turn.not_again (turn : Turn plan done item) (past : ran done token = true)
    (single : token.isSingle = true) : item.1.action.token? ≠ some token := by
  intro kind
  rw [turn.fresh token kind single] at past
  cases past

/-- Behind a step of a token all lighter ones ran. -/
theorem Turn.ran_before (turn : Turn plan done item) (past : ran done token = true)
    (lighter : other.weight < token.weight) : ran done other = plan.has other :=
  turn.lighter other (Int.lt_of_lt_of_le lighter (turn.weight_le past))

theorem Regular.turn {plan : Plan} (regular : plan.Regular) {done rest : List (PlannedStep × Nat)}
    {item : PlannedStep × Nat} (order : plan.program = done ++ item :: rest) : Turn plan done item := by
  have member : item ∈ plan.program := by simp [order]
  have sorted := regular.sorted
  rw [order, List.pairwise_append, List.pairwise_cons] at sorted
  obtain ⟨_, ⟨behind, _⟩, before⟩ := sorted
  refine ⟨member, by simp [order], ?_, ?_, ?_, ?_⟩
  · intro token heavier
    apply ran_eq_false.mpr
    intro other earlier kind
    have := before other earlier item List.mem_cons_self
    rw [weight_of_token kind] at this
    omega
  · intro token lighter
    rw [← ran_program regular, order, ran_append, eq_comm]
    have later : ran (item :: rest) token = false := by
      apply ran_eq_false.mpr
      intro other member kind
      have weight := weight_of_token kind
      rcases List.mem_cons.mp member with rfl | member
      · omega
      · have := behind other member
        omega
    rw [later, Bool.or_false]
  · -- a second step of the token would have the same cell
    intro token kind single
    apply ran_eq_false.mpr
    intro other earlier kind'
    have same := regular.unique (by simp [order, earlier]) member kind' kind single
    have distinct := regular.distinct
    rw [order, List.map_append, List.nodup_append] at distinct
    exact distinct.2.2 other.2 (List.mem_map_of_mem earlier) item.2 (by simp) (congrArg Prod.snd same)
  · rintro token cell found different rfl
    obtain ⟨other, member', own, kind⟩ := regular.step token _ found
    exact different (regular.same_item member' member own ▸ kind)

end Plan

end NumberPattern
