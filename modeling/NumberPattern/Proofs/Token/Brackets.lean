import NumberPattern.Token.Claim

/-! The written forms of the point and of the decimals, stated without the readers that accept them:
zero runs, closed and open brackets. -/

namespace NumberPattern.Token

/-- The text does not go on with the character. -/
def NotAt (c : Char) (text : List Char) : Prop := text.head? ≠ some c

@[simp] theorem notAt_nil (c : Char) : NotAt c [] := by simp [NotAt]

@[simp] theorem notAt_cons (c d : Char) (text : List Char) : NotAt c (d :: text) ↔ d ≠ c := by
  simp [NotAt]

theorem notAt_iff {c : Char} {text : List Char} : NotAt c text ↔ ∀ after, text ≠ c :: after := by
  cases text <;> simp

theorem zeros_replicate_append (count : Nat) {after : List Char} (ends : NotAt '0' after) :
    zeros (List.replicate count '0' ++ after) = count := by
  induction count with
  | zero =>
    cases after with
    | nil => rfl
    | cons d after => simp only [notAt_cons] at ends; simp [zeros, ends]
  | succ count ih =>
    simp only [zeros, List.replicate_succ, List.cons_append, decide_true, List.takeWhile_cons_of_pos,
      List.length_cons] at ih ⊢
    rw [ih]

theorem replicate_zeros (text : List Char) :
    List.replicate (zeros text) '0' ++ text.drop (zeros text) = text := by
  induction text with
  | nil => rfl
  | cons c text ih =>
    by_cases zero : c = '0'
    · subst c
      simpa [zeros, List.replicate_succ] using ih
    · simp [zeros, zero]

theorem notAt_drop_zeros (text : List Char) : NotAt '0' (text.drop (zeros text)) := by
  induction text with
  | nil => simp
  | cons c text ih =>
    by_cases zero : c = '0'
    · subst c
      simpa [zeros] using ih
    · simp [zeros, zero]

theorem drop_replicate_append (count : Nat) (after : List Char) :
    (List.replicate count '0' ++ after).drop count = after := by
  simp

/-- What may follow the mandatory decimals, by its written form. -/
inductive TailForm : List Char → Tail → Prop where
  | noBracket {text} (bare : NotAt '[' text) : TailForm text .absent
  | foreign {after} (further : after ≠ []) (ends : NotAt '0' after) : TailForm ('[' :: after) .absent
  | closed {count after} (positive : 0 < count) :
      TailForm ('[' :: (List.replicate count '0' ++ ']' :: after)) (.closed count)
  | atEnd : TailForm ['['] .unclosed
  | unclosed {count after} (positive : 0 < count) (ends : NotAt '0' after) (opened : NotAt ']' after) :
      TailForm ('[' :: (List.replicate count '0' ++ after)) .unclosed

theorem tail_of_zeros {count : Nat} (positive : 0 < count) {after : List Char} (ends : NotAt '0' after) :
    tail ('[' :: (List.replicate count '0' ++ after)) =
      if after.head? = some ']' then .closed count else .unclosed := by
  cases count with
  | zero => exact absurd positive (Nat.lt_irrefl 0)
  | succ count =>
    simp only [tail, zeros_replicate_append _ ends, drop_replicate_append]
    cases after with
    | nil => rfl
    | cons d after => by_cases shut : d = ']' <;> simp [shut]

theorem tail_form (text : List Char) : TailForm text (tail text) := by
  cases text with
  | nil => exact .noBracket (notAt_nil _)
  | cons c inner =>
    by_cases bracket : c = '['
    · subst c
      have ends := notAt_drop_zeros inner
      rw [← replicate_zeros inner]
      generalize inner.drop (zeros inner) = after at ends
      rcases Nat.eq_zero_or_pos (zeros inner) with none | positive
      · rw [none]
        cases after with
        | nil => exact .atEnd
        | cons d after =>
          simp only [notAt_cons] at ends
          have absent : tail ('[' :: d :: after) = .absent := by simp [tail, zeros, ends]
          exact absent ▸ .foreign (List.cons_ne_nil _ _) (by simpa using ends)
      · rw [tail_of_zeros positive ends]
        by_cases shut : after.head? = some ']'
        · rw [if_pos shut]
          obtain ⟨rest, rfl⟩ := List.head?_eq_some_iff.mp shut
          exact .closed positive
        · rw [if_neg shut]
          exact .unclosed positive ends shut
    · have absent : tail (c :: inner) = .absent := by simp [tail, bracket]
      exact absent ▸ .noBracket (by simpa using bracket)

theorem TailForm.tail_eq {text : List Char} {answer : Tail} (form : TailForm text answer) :
    tail text = answer := by
  cases form with
  | noBracket bare =>
    cases text with
    | nil => rfl
    | cons c inner => simp only [notAt_cons] at bare; simp [tail, bare]
  | @foreign after further ends =>
    cases after with
    | nil => exact absurd rfl further
    | cons d after => simp only [notAt_cons] at ends; simp [tail, zeros, ends]
  | closed positive => rw [tail_of_zeros positive (by simp), List.head?_cons, if_pos rfl]
  | atEnd => rfl
  | @unclosed count after positive ends opened =>
    rw [tail_of_zeros positive ends, if_neg opened]

theorem tail_eq_iff {text : List Char} {answer : Tail} : tail text = answer ↔ TailForm text answer :=
  ⟨fun same => same ▸ tail_form text, TailForm.tail_eq⟩

/-- Zeros, then a bracket that is not closed after its own zeros, or that ends the text. -/
def OpenDecimals (mandatory : Nat) (text : List Char) : Prop :=
  ∃ count after, text = List.replicate mandatory '0' ++ '[' :: (List.replicate count '0' ++ after) ∧
    (count = 0 ∧ after = [] ∨ 0 < count ∧ NotAt '0' after ∧ NotAt ']' after)

theorem tail_eq_closed {count : Nat} {text : List Char} :
    tail text = .closed count ↔
      0 < count ∧ ∃ after, text = '[' :: (List.replicate count '0' ++ ']' :: after) := by
  rw [tail_eq_iff]
  constructor
  · intro form
    cases form with
    | closed positive => exact ⟨positive, _, rfl⟩
  · rintro ⟨positive, after, rfl⟩
    exact .closed positive

theorem tail_eq_unclosed {text : List Char} :
    tail text = .unclosed ↔ ∃ count after, text = '[' :: (List.replicate count '0' ++ after) ∧
      (count = 0 ∧ after = [] ∨ 0 < count ∧ NotAt '0' after ∧ NotAt ']' after) := by
  rw [tail_eq_iff]
  constructor
  · intro form
    cases form with
    | atEnd => exact ⟨0, [], rfl, Or.inl ⟨rfl, rfl⟩⟩
    | unclosed positive ends opened => exact ⟨_, _, rfl, Or.inr ⟨positive, ends, opened⟩⟩
  · rintro ⟨count, after, rfl, ⟨rfl, rfl⟩ | ⟨positive, ends, opened⟩⟩
    · exact .atEnd
    · exact .unclosed positive ends opened

theorem openDecimals_iff {mandatory : Nat} {text : List Char} :
    OpenDecimals mandatory text ↔ mandatory = zeros text ∧ tail (text.drop mandatory) = .unclosed := by
  constructor
  · rintro ⟨count, after, rfl, shape⟩
    rw [zeros_replicate_append _ (by simp), drop_replicate_append, tail_eq_unclosed]
    exact ⟨rfl, count, after, rfl, shape⟩
  · rintro ⟨rfl, unclosed⟩
    obtain ⟨count, after, bracket, shape⟩ := tail_eq_unclosed.mp unclosed
    refine ⟨count, after, ?_, shape⟩
    rw [← bracket, replicate_zeros]

theorem claimDecimals_eq_error {site : Site} {error : Failure} :
    claimDecimals site = .error error ↔
      ∃ mandatory, OpenDecimals mandatory site.rest ∧ error = site.malformed .openDecimals mandatory := by
  constructor
  · intro refused
    simp only [claimDecimals] at refused
    split at refused
    · cases refused
    next unclosed =>
      cases refused
      exact ⟨_, openDecimals_iff.mpr ⟨rfl, unclosed⟩, rfl⟩
    · cases refused
  · rintro ⟨mandatory, opened, rfl⟩
    obtain ⟨rfl, unclosed⟩ := openDecimals_iff.mp opened
    simp only [claimDecimals, unclosed]

/-- Decimals are zeros with a closed tail, or zeros alone. -/
theorem claimDecimals_eq_some {site : Site} {step : Step} (taken : claimDecimals site = .ok (some step)) :
    (∃ mandatory optional after, 0 < optional ∧
      site.rest = List.replicate mandatory '0' ++ '[' :: (List.replicate optional '0' ++ ']' :: after) ∧
      step = decimalsStep mandatory optional (mandatory + optional + 1)) ∨
    (∃ mandatory after, 0 < mandatory ∧ NotAt '0' after ∧ tail after = .absent ∧
      site.rest = List.replicate mandatory '0' ++ after ∧
      step = decimalsStep mandatory 0 (mandatory - 1)) := by
  simp only [claimDecimals] at taken
  split at taken
  next optional closed =>
    cases taken
    obtain ⟨positive, after, bracket⟩ := tail_eq_closed.mp closed
    refine Or.inl ⟨zeros site.rest, optional, after, positive, ?_, rfl⟩
    rw [← bracket, replicate_zeros]
  · cases taken
  next absent =>
    by_cases none : zeros site.rest = 0
    · simp [none] at taken
    · rw [if_neg none] at taken
      cases taken
      exact Or.inr ⟨zeros site.rest, _, Nat.pos_of_ne_zero none, notAt_drop_zeros _, absent,
        (replicate_zeros _).symm, rfl⟩

theorem claimPoint_eq_error {site : Site} {error : Failure} :
    claimPoint site = .error error ↔
      ∃ after, site.rest = '[' :: '.' :: after ∧ NotAt ']' after ∧ error = site.malformed .openPoint := by
  constructor
  · intro refused
    simp only [claimPoint] at refused
    split at refused
    · cases refused
    · cases refused
    next after opened rest =>
      cases refused
      exact ⟨after, rest, notAt_iff.mpr opened, rfl⟩
    · cases refused
  · rintro ⟨after, rest, opened, rfl⟩
    rw [notAt_iff] at opened
    simp only [claimPoint, rest]

theorem claimPoint_eq_some {site : Site} {step : Step} (taken : claimPoint site = .ok (some step)) :
    (∃ after, site.rest = '.' :: after ∧ step = { action := .point false, weight := Weight.delimiter }) ∨
    (∃ after, site.rest = '[' :: '.' :: ']' :: after ∧
      step = { action := .point true, weight := Weight.delimiter, consumed := 2 }) := by
  simp only [claimPoint] at taken
  split at taken
  next after rest =>
    cases taken
    exact Or.inl ⟨after, rest, rfl⟩
  next after rest =>
    cases taken
    exact Or.inr ⟨after, rest, rfl⟩
  · cases taken
  · cases taken

end NumberPattern.Token
