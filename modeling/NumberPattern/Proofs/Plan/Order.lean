import Mathlib.Data.List.Forall2
import Mathlib.Data.List.Sort
import NumberPattern.Plan

/-! The order of a plan: the claims sorted by weight, the steps with their cells as one program, and the
first cell of each key as an index into the claims. -/

namespace NumberPattern

namespace Plan

/-- Of two claims the first is as light as the second. -/
def Lighter (item other : Claim × Nat) : Prop := item.1.step.weight ≤ other.1.step.weight

instance : DecidableRel Lighter := fun item other => Int.decLe item.1.step.weight other.1.step.weight

instance : Std.Total Lighter := ⟨fun item other => Int.le_total item.1.step.weight other.1.step.weight⟩

instance : IsTrans (Claim × Nat) Lighter := ⟨fun _ _ _ => Int.le_trans⟩

theorem insertByWeight_eq (item : Claim × Nat) (items : List (Claim × Nat)) :
    insertByWeight item items = items.orderedInsert Lighter item := by
  induction items with
  | nil => rfl
  | cons other items ih => simp only [insertByWeight, List.orderedInsert_cons, Lighter, ih]

theorem arrange_eq (items : List (Claim × Nat)) : arrange items = items.insertionSort Lighter := by
  induction items with
  | nil => rfl
  | cons item items ih =>
    rw [List.insertionSort_cons, ← ih, ← insertByWeight_eq]
    rfl

theorem arrange_perm (items : List (Claim × Nat)) : (arrange items).Perm items := by
  rw [arrange_eq]
  exact List.perm_insertionSort Lighter items

theorem arrange_sorted (items : List (Claim × Nat)) : (arrange items).Pairwise Lighter := by
  rw [arrange_eq]
  exact List.pairwise_insertionSort Lighter items

theorem arrange_cons (item : Claim × Nat) (items : List (Claim × Nat)) :
    arrange (item :: items) = insertByWeight item (arrange items) := rfl

variable {item : Claim × Nat} {items others front back : List (Claim × Nat)}

theorem insertByWeight_append_left (light : ∀ other ∈ back, Lighter item other) :
    insertByWeight item (front ++ back) = insertByWeight item front ++ back := by
  induction front with
  | nil =>
    cases back with
    | nil => rfl
    | cons other back =>
      have first : item.1.step.weight ≤ other.1.step.weight := light other List.mem_cons_self
      simp [insertByWeight, first]
  | cons other front ih =>
    simp only [List.cons_append, insertByWeight]
    split
    · rfl
    · rw [ih, List.cons_append]

theorem insertByWeight_append_right (heavy : ∀ other ∈ front, ¬ Lighter item other) :
    insertByWeight item (front ++ back) = front ++ insertByWeight item back := by
  induction front with
  | nil => rfl
  | cons other front ih =>
    obtain ⟨first, rest⟩ := List.forall_mem_cons.mp heavy
    have first : ¬ item.1.step.weight ≤ other.1.step.weight := first
    simp only [List.cons_append, insertByWeight, first, if_false, ih rest]

/-- Claims that are all lighter than the other ones are arranged before these, each kind by itself. -/
theorem arrange_split (light : Claim × Nat → Bool)
    (apart : ∀ item ∈ items, ∀ other ∈ items, light item = true → light other = false →
      item.1.step.weight < other.1.step.weight) :
    arrange items = arrange (items.filter light) ++ arrange (items.filter (!light ·)) := by
  induction items with
  | nil => rfl
  | cons item items ih =>
    have rest := ih fun item member other member' =>
      apart item (List.mem_cons_of_mem _ member) other (List.mem_cons_of_mem _ member')
    rw [arrange_cons, rest]
    cases kind : light item with
    | true =>
      have lighter : ∀ other ∈ arrange (items.filter (!light ·)), Lighter item other := by
        intro other member
        obtain ⟨member, heavy⟩ := List.mem_filter.mp ((arrange_perm _).mem_iff.mp member)
        exact Int.le_of_lt (apart item List.mem_cons_self other (List.mem_cons_of_mem _ member) kind
          (by simpa using heavy))
      rw [insertByWeight_append_left lighter]
      simp [kind, arrange_cons]
    | false =>
      have heavier : ∀ other ∈ arrange (items.filter light), ¬ Lighter item other := by
        intro other member
        obtain ⟨member, light⟩ := List.mem_filter.mp ((arrange_perm _).mem_iff.mp member)
        exact Int.not_le.mpr (apart other (List.mem_cons_of_mem _ member) item List.mem_cons_self light kind)
      rw [insertByWeight_append_right heavier]
      simp [kind, arrange_cons]

/-- The lighter kind by itself is arranged as it is among the others. -/
theorem filter_arrange (light : Claim × Nat → Bool)
    (apart : ∀ item ∈ items, ∀ other ∈ items, light item = true → light other = false →
      item.1.step.weight < other.1.step.weight) :
    (arrange items).filter light = arrange (items.filter light) := by
  have front : ∀ item ∈ arrange (items.filter light), light item = true := by
    intro item member
    exact (List.mem_filter.mp ((arrange_perm _).mem_iff.mp member)).2
  have back : ∀ item ∈ arrange (items.filter (!light ·)), ¬ light item = true := by
    intro item member
    have heavy := (List.mem_filter.mp ((arrange_perm _).mem_iff.mp member)).2
    simpa using heavy
  rw [arrange_split light apart, List.filter_append, List.filter_eq_self.mpr front,
    List.filter_eq_nil_iff.mpr back, List.append_nil]

/-- Claims of one weight keep their order. -/
theorem arrange_level {weight : Int} (level : ∀ item ∈ items, item.1.step.weight = weight) :
    arrange items = items := by
  induction items with
  | nil => rfl
  | cons item items ih =>
    obtain ⟨first, rest⟩ := List.forall_mem_cons.mp level
    rw [arrange_cons, ih rest]
    have light : ∀ other ∈ items, Lighter item other := by
      intro other member
      rw [Lighter, first, rest other member]
    exact @insertByWeight_append_left item [] items light

section Related

variable {related : Claim × Nat → Claim × Nat → Prop}
  (weights : ∀ {item other}, related item other → item.1.step.weight = other.1.step.weight)
include weights

theorem insertByWeight_forall₂ {item other : Claim × Nat} (first : related item other)
    (rest : List.Forall₂ related items others) :
    List.Forall₂ related (insertByWeight item items) (insertByWeight other others) := by
  induction rest with
  | nil => exact .cons first .nil
  | cons next rest ih =>
    simp only [insertByWeight, weights first, weights next]
    split
    · exact .cons first (.cons next rest)
    · exact .cons next ih

/-- The weights alone decide how claims are arranged. -/
theorem arrange_forall₂ (all : List.Forall₂ related items others) :
    List.Forall₂ related (arrange items) (arrange others) := by
  induction all with
  | nil => exact .nil
  | cons first rest ih => exact insertByWeight_forall₂ weights first ih

end Related

/-- The steps in the order in which they run, each with its cell. -/
def program (plan : Plan) : List (PlannedStep × Nat) := plan.steps.zip plan.layout.cells

theorem compile_eq_ok_iff {lexicon : Lexicon} {serial : Nat} {pattern : String} {plan : Plan} :
    compile lexicon serial pattern = .ok plan ↔
      ∃ claims, scan lexicon pattern = .ok claims ∧ plan = ofClaims lexicon serial pattern claims := by
  unfold compile
  cases scan lexicon pattern with
  | error error => simp [Except.map]
  | ok claims => simp [Except.map, eq_comm]

variable (lexicon : Lexicon) (serial : Nat) (pattern : String) (claims : List Claim)

theorem zipIdx_increasing : claims.zipIdx.Pairwise fun item other => item.2 < other.2 := by
  rw [← List.pairwise_map (f := Prod.snd), List.zipIdx_map_snd]
  exact List.pairwise_lt_range'

theorem program_ofClaims :
    (ofClaims lexicon serial pattern claims).program =
      (arrange claims.zipIdx).map fun item => (plannedStep serial item, item.2) := by
  simp only [program, ofClaims, layoutOf, List.zip_map']

theorem size_ofClaims : (ofClaims lexicon serial pattern claims).layout.size = claims.length := by
  simp only [Layout.size, ofClaims, layoutOf, List.length_map, (arrange_perm _).length_eq,
    List.length_zipIdx]

theorem mem_program_ofClaims {item : PlannedStep × Nat} :
    item ∈ (ofClaims lexicon serial pattern claims).program ↔
      ∃ claim, (claim, item.2) ∈ claims.zipIdx ∧ item.1 = plannedStep serial (claim, item.2) := by
  rw [program_ofClaims, List.mem_map]
  constructor
  · rintro ⟨⟨claim, cell⟩, member, rfl⟩
    exact ⟨claim, (arrange_perm _).mem_iff.mp member, rfl⟩
  · rintro ⟨claim, member, same⟩
    exact ⟨(claim, item.2), (arrange_perm _).mem_iff.mpr member, Prod.ext same.symm rfl⟩

end Plan

namespace Layout
variable {κ : Type} [DecidableEq κ]

theorem lookup_note (table : List (κ × Nat)) (entry : Option κ) (cell : Nat) (key : κ) :
    (note table entry cell).lookup key =
      (table.lookup key).or (if entry = some key then some cell else none) := by
  cases entry with
  | none => simp [note]
  | some found =>
    by_cases known : table.any (·.1 = found)
    · by_cases same : found = key
      · subst same
        obtain ⟨entry, member, same⟩ := List.any_eq_true.mp known
        have seen : (table.lookup found).isSome := by
          rw [List.lookup_isSome_iff]
          exact ⟨entry, member, by simpa using (of_decide_eq_true same).symm⟩
        obtain ⟨first, found⟩ := Option.isSome_iff_exists.mp seen
        simp [note, known, found]
      · simp [note, known, same]
    · simp only [note, known, Bool.false_eq_true, if_false, List.lookup_append, Option.some.injEq]
      by_cases same : found = key
      · simp [same]
      · simp [same, List.lookup_cons, beq_false_of_ne (Ne.symm same)]

theorem lookup_firstCells_from (keys : List (Option κ)) (first : Nat) (table : List (κ × Nat)) (key : κ) :
    ((keys.zipIdx first).foldl (fun table entry => note table entry.1 entry.2) table).lookup key =
      (table.lookup key).or ((keys.findIdx? (· = some key)).map (first + ·)) := by
  induction keys generalizing first table with
  | nil => simp
  | cons entry keys ih =>
    rw [List.zipIdx_cons, List.foldl_cons, ih, lookup_note, List.findIdx?_cons, Option.or_assoc]
    by_cases same : entry = some key
    · simp [same]
    · simp [same, Option.map_map, Function.comp_def, Nat.add_comm, Nat.add_left_comm]

/-- The first cell of a key is the index of its first claim. -/
theorem lookup_firstCells (keys : List (Option κ)) (key : κ) :
    (firstCells keys).lookup key = keys.findIdx? (· = some key) := by
  rw [firstCells, lookup_firstCells_from]
  simp

end Layout

end NumberPattern
