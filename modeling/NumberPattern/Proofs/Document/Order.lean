import NumberPattern.Document.Settled
import NumberPattern.Proofs.Text.Order

/-! The fields of a document stand in ascending order of their keys, and so does whatever is put among
fields one by one. -/

namespace NumberPattern.Document

variable {α : Type} {key other : String} {value : α} {entries : List (String × α)}

/-- The keys are in strictly ascending order. -/
def Ascending (entries : List (String × α)) : Prop :=
  entries.Pairwise fun entry other => entry.1 < other.1

theorem lookup_eq_none_iff : entries.lookup key = none ↔ key ∉ entries.map Prod.fst := by
  rw [List.lookup_eq_none_iff, List.mem_map]
  constructor
  · rintro absent ⟨entry, member, rfl⟩
    simpa using absent entry member
  · intro absent entry member
    rw [bne_iff_ne]
    rintro rfl
    exact absent ⟨entry, member, rfl⟩

theorem lookup_cons_ite (first other : String) (value : α) (entries : List (String × α)) :
    ((first, value) :: entries).lookup other = if other = first then some value else entries.lookup other := by
  by_cases same : other = first
  · simp [same]
  · simp [same, List.lookup_cons, beq_false_of_ne same]

theorem lookup_put (key other : String) (value : α) (entries : List (String × α)) :
    (put key value entries).lookup other = if other = key then some value else entries.lookup other := by
  induction entries with
  | nil => rw [put, lookup_cons_ite]
  | cons entry entries ih =>
    obtain ⟨first, kept⟩ := entry
    rw [put]
    split
    · rw [lookup_cons_ite]
    · split
      next found =>
        rw [lookup_cons_ite, lookup_cons_ite, found]
        split <;> rfl
      next different =>
        rw [lookup_cons_ite, lookup_cons_ite, ih]
        by_cases head : other = first
        · rw [if_pos head, if_pos head, if_neg (head ▸ Ne.symm different)]
        · rw [if_neg head, if_neg head]

theorem Ascending.bytes (ascending : Ascending entries) :
    entries.Pairwise fun entry other => Text.bytes entry.1 < Text.bytes other.1 :=
  ascending.imp Text.bytes_lt_iff.mpr

theorem mem_keys_put (key : String) (value : α) (entries : List (String × α)) :
    other ∈ (put key value entries).map Prod.fst ↔ other = key ∨ other ∈ entries.map Prod.fst := by
  induction entries with
  | nil => simp [put]
  | cons entry entries ih =>
    obtain ⟨first, kept⟩ := entry
    rw [put]
    split
    · simp
    · split
      next found => simp [found]
      next => rw [List.map_cons, List.map_cons, List.mem_cons, List.mem_cons, ih, or_left_comm]

theorem Ascending.put (ascending : Ascending entries) (key : String) (value : α) :
    Ascending (put key value entries) := by
  induction entries with
  | nil => exact List.pairwise_singleton _ _
  | cons entry entries ih =>
    obtain ⟨first, kept⟩ := entry
    obtain ⟨least, rest⟩ := List.pairwise_cons.mp ascending
    rw [Document.put]
    split
    next before =>
      exact List.pairwise_cons.mpr ⟨List.forall_mem_cons.mpr
        ⟨before, fun other member => before.trans (least other member)⟩, ascending⟩
    next notBefore =>
      split
      next found =>
        rw [found]
        exact List.pairwise_cons.mpr ⟨least, rest⟩
      next different =>
        refine List.pairwise_cons.mpr ⟨fun other member => ?_, ih rest⟩
        rcases (mem_keys_put key value entries).mp (List.mem_map_of_mem member) with own | old
        · rw [own]
          exact lt_of_le_of_ne (not_lt.mp notBefore) (Ne.symm different)
        · obtain ⟨entry, member, same⟩ := List.mem_map.mp old
          exact same ▸ least entry member

theorem Ascending.nodup (ascending : Ascending entries) : (entries.map Prod.fst).Nodup :=
  List.pairwise_map.mpr (ascending.imp ne_of_lt)

/-- A key has one value. -/
theorem Ascending.lookup_eq_some_iff (ascending : Ascending entries) :
    entries.lookup key = some value ↔ (key, value) ∈ entries := by
  induction entries with
  | nil => simp
  | cons entry entries ih =>
    obtain ⟨first, kept⟩ := entry
    obtain ⟨least, rest⟩ := List.pairwise_cons.mp ascending
    rw [List.mem_cons, Prod.mk.injEq, ← ih rest]
    by_cases same : key = first
    · subst same
      have absent : entries.lookup key ≠ some value := by
        rw [Ne, ih rest]
        exact fun member => lt_irrefl key (least (key, value) member)
      simp [absent, eq_comm]
    · simp [List.lookup_cons, beq_false_of_ne same, same]

theorem ascending_settleFields {fields settled : List (String × Value)}
    (found : settleFields? fields = some settled) : Ascending settled := by
  induction fields generalizing settled with
  | nil =>
    cases found
    exact List.Pairwise.nil
  | cons field fields ih =>
    obtain ⟨key, value⟩ := field
    simp only [settleFields?, Option.bind_eq_bind, Option.bind_eq_some_iff] at found
    obtain ⟨value, _, rest, tail, same⟩ := found
    cases same
    exact (ih tail).put key value

/-- What is relied on of a reader of documents: the fields of the root come in order. -/
def OrdersFields (document? : String → Option Value) : Prop :=
  ∀ text fields, document? text = some (.table fields) → Ascending fields

theorem ordersFields_value : OrdersFields Document.value := by
  intro text fields parsed
  simp only [Document.value, Option.bind_eq_bind, Option.bind_eq_some_iff] at parsed
  obtain ⟨written, _, settled⟩ := parsed
  cases written with
  | nil =>
    cases settled
    exact List.Pairwise.nil
  | cons field written =>
    obtain ⟨key, first⟩ := field
    rw [Value.settle?] at settled
    split at settled
    · unfold momentOf? at settled
      split at settled
      · split at settled <;> cases settled
      · cases settled
    · obtain ⟨settled, found, same⟩ := Option.map_eq_some_iff.mp settled
      cases same
      exact ascending_settleFields found

end NumberPattern.Document
