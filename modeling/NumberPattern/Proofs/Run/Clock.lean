import Mathlib.Data.List.Basic
import NumberPattern.Proofs.Double.Sign
import NumberPattern.Proofs.Run.Digits
import NumberPattern.Proofs.Run.Effect

/-! What a clock shows. A total is divided by a library of time spans as far as that goes, and by the clock
itself beyond; both ways give the same parts, and the digits of the parts add up to the total. -/

namespace NumberPattern.Clock

/-- A library that cuts off what is less than a minute or an hour. -/
structure Spans.Truncates (spans : Spans) : Prop where
  hours : ∀ seconds span, spans.ofSeconds? seconds = some span →
    (spans.hours span).toInt = seconds.toInt.tdiv 3600
  minutes : ∀ seconds span, spans.ofSeconds? seconds = some span →
    (spans.minutes span).toInt = seconds.toInt.tdiv 60
  seconds : ∀ seconds span, spans.ofSeconds? seconds = some span → (spans.seconds span).toInt = seconds.toInt

theorem truncates_standard : Spans.standard.Truncates := by
  have whole {seconds span : Int64} (made : Spans.standard.ofSeconds? seconds = some span) :
      span = seconds := by
    simp only [Spans.standard] at made
    split at made
    · exact (Option.some.inj made).symm
    · cases made
  refine ⟨fun seconds span made => ?_, fun seconds span made => ?_, fun seconds span made => ?_⟩
  · obtain rfl := whole made
    exact Int64.toInt_div_of_ne_right _ _ (by decide)
  · obtain rfl := whole made
    exact Int64.toInt_div_of_ne_right _ _ (by decide)
  · obtain rfl := whole made
    rfl

/-- Sixtieths fit 64 bits. -/
theorem toInt_ofInt_tmod (n : Int) : (Int64.ofInt (n.tmod 60)).toInt = n.tmod 60 := by
  have less := Int.tmod_lt_of_pos n (by decide : (0 : Int) < 60)
  have least := Int.lt_tmod_of_pos n (by decide : (0 : Int) < 60)
  exact Int64.toInt_ofInt_of_le (by omega) (by omega)

section Split

variable {spans : Spans} (truncates : spans.Truncates)
include truncates

/-- The library and the clock divide alike. -/
theorem ofSpan_eq {seconds : Int64} {span : spans.Span} (made : spans.ofSeconds? seconds = some span) :
    Time.ofSpan spans span = Time.ofSeconds seconds.toInt := by
  have minutes : spans.minutes span % 60 = Int64.ofInt ((seconds.toInt.tdiv 60).tmod 60) := by
    apply Int64.toInt_inj.mp
    rw [toInt_ofInt_tmod, Int64.toInt_mod, truncates.minutes seconds span made]
    rfl
  have rest : spans.seconds span % 60 = Int64.ofInt (seconds.toInt.tmod 60) := by
    apply Int64.toInt_inj.mp
    rw [toInt_ofInt_tmod, Int64.toInt_mod, truncates.seconds seconds span made]
    rfl
  rw [Time.ofSpan, Time.ofSeconds, truncates.hours seconds span made, minutes, rest]

/-- Wherever the range of spans ends, the parts of a total are the same. -/
theorem split_eq (total : Float) : Time.split spans total = Time.ofSeconds (wholeSeconds total) := by
  unfold Time.split
  cases made : (int64? (wholeSeconds total)).bind spans.ofSeconds? with
  | none => rfl
  | some span =>
    obtain ⟨seconds, narrow, made⟩ := Option.bind_eq_some_iff.mp made
    have same : seconds.toInt = wholeSeconds total := by
      unfold int64? at narrow
      split at narrow
      next bounds =>
        obtain rfl := Option.some.inj narrow
        exact Int64.toInt_ofInt_of_le bounds.1 (by omega)
      next => cases narrow
    exact same ▸ ofSpan_eq truncates made

end Split

/-! The digits of the parts. -/

/-- The number that decimal digits stand for. -/
def numberOf (text : List Char) : Nat := Nat.ofDigitChars 10 text 0

theorem numberOf_padded (width n : Nat) : numberOf (Decimal.padded width n) = n := by
  rw [numberOf, Decimal.padded, Nat.ofDigitChars_append, Nat.ofDigitChars_replicate_zero, Nat.mul_zero]
  exact Nat.ofDigitChars_ten_toDigits

theorem padded_one (n : Nat) : Decimal.padded 1 n = Decimal.digits n := by
  have filled : 0 < (Decimal.digits n).length := Nat.length_toDigits_pos
  have none : 1 - (Decimal.digits n).length = 0 := by omega
  rw [Decimal.padded, none, List.replicate_zero, List.nil_append]

theorem length_padded_two {n : Nat} (small : n < 100) : (Decimal.padded 2 n).length = 2 := by
  have few : (Decimal.digits n).length ≤ 2 := (Nat.length_toDigits_le_iff (by decide) (by decide)).mpr small
  rw [Decimal.length_padded]
  omega

/-- Only zero is written with a zero at its start. -/
theorem eq_zero_of_head_digits (n : Nat) (first : (Decimal.digits n).head? = some '0') : n = 0 := by
  induction n using Nat.strongRecOn with
  | ind n ih =>
    by_cases small : n < 10
    · rw [Decimal.digits, Nat.toDigits_of_lt_base small] at first
      have digits : ∀ n < 10, some n.digitChar = some '0' → n = 0 := by decide
      exact digits n small first
    · rw [Decimal.digits, Nat.toDigits_of_base_le (by decide) (by omega),
        List.head?_append_of_ne_nil _ Nat.toDigits_ne_nil] at first
      have none := ih (n / 10) (by omega) first
      omega

/-- The text gives a number of seconds as hours, minutes and seconds. -/
structure Face (total : Int) (text : String) (hours minutes seconds : List Char) : Prop where
  text : text = String.ofList (hours ++ ':' :: (minutes ++ ':' :: seconds))
  digits : ∀ c ∈ hours ++ (minutes ++ seconds), c.isDigit = true
  /-- The hours are not empty and have no further digits behind a zero. -/
  leading : hours ≠ [] ∧ (hours.head? = some '0' → hours = ['0'])
  minute : minutes.length = 2 ∧ numberOf minutes < 60
  second : seconds.length = 2 ∧ numberOf seconds < 60
  sum : ((3600 * numberOf hours + 60 * numberOf minutes + numberOf seconds : Nat) : Int) = total

theorem text_ofSeconds (total : Nat) : (Time.ofSeconds total).text =
    String.ofList (Decimal.digits (total / 3600) ++ ':' ::
      (Decimal.padded 2 (total / 60 % 60) ++ ':' :: Decimal.padded 2 (total % 60))) := by
  have natural (width n : Nat) : integerText width n = String.ofList (Decimal.padded width n) :=
    if_neg (Int.not_lt.mpr (Int.natCast_nonneg n))
  have hours : (total : Int).tdiv 3600 = (total / 3600 : Nat) := rfl
  have minutes : ((total : Int).tdiv 60).tmod 60 = (total / 60 % 60 : Nat) := rfl
  have seconds : (total : Int).tmod 60 = (total % 60 : Nat) := rfl
  simp only [Time.text, Time.ofSeconds, toInt_ofInt_tmod]
  rw [hours, minutes, seconds, natural, natural, natural, padded_one, ← String.toList_inj]
  simp [String.toList_append]

theorem exists_face (total : Nat) :
    ∃ hours minutes seconds, Face total (Time.ofSeconds total).text hours minutes seconds := by
  have minutes := Nat.mod_lt (total / 60) (by decide : 0 < 60)
  have seconds := Nat.mod_lt total (by decide : 0 < 60)
  have hours : numberOf (Decimal.digits (total / 3600)) = total / 3600 := by
    rw [← padded_one, numberOf_padded]
  refine ⟨_, _, _, text_ofSeconds total, ?_, ⟨Nat.toDigits_ne_nil, fun first => ?_⟩, ?_, ?_, ?_⟩
  · simp only [List.mem_append]
    rintro c (hour | minute | second)
    · exact isDigit_of_mem_digits hour
    · exact isDigit_of_mem_padded minute
    · exact isDigit_of_mem_padded second
  · rw [eq_zero_of_head_digits _ first]
    rfl
  · exact ⟨length_padded_two (by omega), by rwa [numberOf_padded]⟩
  · exact ⟨length_padded_two (by omega), by rwa [numberOf_padded]⟩
  · rw [hours, numberOf_padded, numberOf_padded]
    omega

/-- Whether a clock shows a minus sign: of a value below zero that is not rounded to zero. -/
def showsMinus (rounding : Float → Float) (value : Float) : Prop := value < 0.0 ∧ 0.0 < rounding value.abs

instance (rounding : Float → Float) (value : Float) : Decidable (showsMinus rounding value) :=
  inferInstanceAs (Decidable (_ ∧ _))

theorem elapsedBy_eq (spans : Spans) (setting : Setting) (cell : Nat) (run : Run) :
    elapsedBy spans setting cell run =
      run.write cell (signed (decide (showsMinus setting.rounding run.value))
        (Time.split spans (setting.rounding run.value.abs)).text) := by
  have sign : (run.isNegative && decide (0.0 < setting.rounding run.value.abs)) =
      decide (showsMinus setting.rounding run.value) := (Bool.decide_and _ _).symm
  unfold elapsedBy signed
  dsimp only
  rw [sign]
  split
  · rfl
  · rw [String.empty_append]

/-- What a clock shows of any value, whatever library of spans it uses. -/
structure Shows (spans : Spans) : Prop where
  /-- The library and the clock divide alike. -/
  branches : ∀ seconds span, spans.ofSeconds? seconds = some span →
    Time.ofSpan spans span = Time.ofSeconds seconds.toInt
  parts : ∀ total, (Time.split spans total).hours = (wholeSeconds total).tdiv 3600 ∧
    (Time.split spans total).minutes.toInt = ((wholeSeconds total).tdiv 60).tmod 60 ∧
    (Time.split spans total).seconds.toInt = (wholeSeconds total).tmod 60
  face : ∀ setting cell run, ¬ setting.rounding run.value.abs < 0.0 →
    ∃ text, elapsedBy spans setting cell run =
        run.write cell (signed (decide (showsMinus setting.rounding run.value)) text) ∧
      ∃ hours minutes seconds, Face (wholeSeconds (setting.rounding run.value.abs)) text hours minutes seconds

/-- A clock shows the whole seconds of the rounded value, behind a minus sign where the value is below zero
and the total above. -/
theorem clock_shows_seconds (spans : Spans) (truncates : spans.Truncates) : Shows spans := by
  refine ⟨fun seconds span made => ofSpan_eq truncates made, fun total => ?_, ?_⟩
  · rw [split_eq truncates]
    exact ⟨rfl, toInt_ofInt_tmod _, toInt_ofInt_tmod _⟩
  · intro setting cell run enough
    have natural : 0 ≤ wholeSeconds (setting.rounding run.value.abs) :=
      Double.clampedInt_nonneg enough (by decide)
    obtain ⟨total, whole⟩ := Int.eq_ofNat_of_zero_le natural
    refine ⟨_, elapsedBy_eq spans setting cell run, ?_⟩
    rw [split_eq truncates, whole]
    exact exists_face total

/-- A value below zero, and a total that is too large for a span. -/
theorem clock_shows_seconds_standard :
    Spans.standard.Truncates ∧ (Time.split .standard 1e19).hours = 2777777777777777 ∧
    ∃ text, elapsed ⟨⟨id, {}, {}⟩, ⟨[0], [], []⟩⟩ 0 (Run.start (-3661.0) 1) =
        (Run.start (-3661.0) 1).write 0 ("-" ++ text) ∧
      ∃ hours minutes seconds, Face 3661 text hours minutes seconds := by
  have shows := clock_shows_seconds .standard truncates_standard
  have large : wholeSeconds 1e19 = 10000000000000000000 := by decide +kernel
  have hours := (shows.parts 1e19).1
  rw [large] at hours
  have enough : ¬ (-3661.0 : Float).abs < 0.0 := by decide +kernel
  have minus : showsMinus id (-3661.0) := by decide +kernel
  have whole : wholeSeconds (-3661.0 : Float).abs = 3661 := by decide +kernel
  obtain ⟨text, written, face⟩ := shows.face ⟨⟨id, {}, {}⟩, ⟨[0], [], []⟩⟩ 0 (Run.start (-3661.0) 1) enough
  refine ⟨truncates_standard, hours, text, ?_, whole ▸ face⟩
  rw [elapsed, written]
  exact congrArg (fun shown => (Run.start (-3661.0) 1).write 0 (signed shown text)) (decide_eq_true minus)

end NumberPattern.Clock
