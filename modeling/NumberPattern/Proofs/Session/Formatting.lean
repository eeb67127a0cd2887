import NumberPattern.Proofs.Double.Roundings
import NumberPattern.Proofs.Session.Selection

/-! Formatting in one request and in two. A session formats a value just as one has the pattern compiled and
the artifact rendered: on either way a missing locale is reported before all else, and then a zero is
answered with the zero text. -/

namespace NumberPattern

namespace Session

/-- The pattern is compiled as it stands, and its artifact is rendered. -/
def compileAndRender (session : Session) (value : Float) (pattern : String) (rounding : Float → Float)
    (key : String) : Except Failure String × Session :=
  match session.compile pattern with
  | (.error failure, session) => (.error failure, session)
  | (.ok artifact, session) => (session.render artifact value rounding key, session)

variable {session : Session} {value : Float} {rounding : Float → Float} {key text : String} {locale : Locale}

/-- The zero text stands for either zero and for no other value. -/
theorem zeroOverride_eq_some_iff : session.zeroOverride value = some text ↔
    session.zeroText = some text ∧ ∃ sign, Double.parts value = .zero sign := by
  rw [zeroOverride, ← Double.beq_zero_iff]
  split
  next zero => simp [zero]
  next other => simp [other]

theorem zeroOverride_eq_none_iff : session.zeroOverride value = none ↔
    session.zeroText = none ∨ ∀ sign, Double.parts value ≠ .zero sign := by
  rw [Option.eq_none_iff_forall_ne_some]
  simp only [ne_eq, zeroOverride_eq_some_iff, not_and, not_exists]
  cases session.zeroText with
  | none => simp
  | some text => simp

theorem render_of_unknown (unknown : session.locales.find? key = none) (artifact : Artifact) (value : Float)
    (rounding : Float → Float) :
    session.render artifact value rounding key = .error (.unknownLocale key) := by
  rw [render, localeSettings, unknown]

theorem formatWith_of_unknown (unknown : session.locales.find? key = none) (value : Float) (pattern : String)
    (rounding : Float → Float) :
    session.formatWith value pattern rounding key = (.error (.unknownLocale key), session) := by
  rw [formatWith, localeSettings, unknown]

theorem render_of_known (known : session.locales.find? key = some locale) (artifact : Artifact) (value : Float)
    (rounding : Float → Float) :
    session.render artifact value rounding key =
      .ok ((session.zeroOverride value).getD (artifact.plan.render value rounding locale)) := by
  rw [render, localeSettings, known]
  dsimp only
  cases session.zeroOverride value with
  | none => rfl
  | some text => rfl

/-- An artifact is rendered as before when a further pattern has been compiled. -/
theorem render_compile (session : Session) (pattern : String) (artifact : Artifact) (value : Float)
    (rounding : Float → Float) (key : String) :
    (session.compile pattern).2.render artifact value rounding key =
      session.render artifact value rounding key := by
  rw [compile_keeps]
  rfl

theorem compileAndRender_eq (known : session.locales.find? key = some locale)
    (other : session.zeroOverride value = none) (pattern : String) (rounding : Float → Float) :
    session.compileAndRender value pattern rounding key =
      match session.compile pattern with
      | (.error failure, session) => (.error failure, session)
      | (.ok artifact, session) => (.ok (artifact.plan.render value rounding locale), session) := by
  rw [compileAndRender]
  split
  next => rfl
  next artifact after compiled =>
    have rendered := session.render_compile pattern artifact value rounding key
    rw [compiled, render_of_known known, other] at rendered
    rw [rendered]
    rfl

/-- How a session formats a value under a locale. -/
structure Formats (session : Session) (value : Float) (rounding : Float → Float) (key : String) : Prop where
  /-- Without the locale nothing is compiled. -/
  unknown : Text.lowerCase key ∉ session.locales.keys →
    (∀ pattern, session.formatWith value pattern rounding key = (.error (.unknownLocale key), session)) ∧
      ∀ artifact, session.render artifact value rounding key = .error (.unknownLocale key)
  /-- The zero text is written for either zero, whatever the pattern, and nothing is compiled. -/
  zero : ∀ text sign, Text.lowerCase key ∈ session.locales.keys → session.zeroText = some text →
    Double.parts value = .zero sign →
    (∀ pattern, session.formatWith value pattern rounding key = (.ok text, session)) ∧
      ∀ artifact, session.render artifact value rounding key = .ok text
  /-- In all other cases a pattern is compiled and its artifact is rendered. An empty pattern is compiled
  as it stands only where the default pattern is empty, too. -/
  other : ∀ pattern, Text.lowerCase key ∈ session.locales.keys →
    (session.zeroText = none ∨ ∀ sign, Double.parts value ≠ .zero sign) →
    (pattern ≠ "" ∨ session.defaultPattern = "") →
    session.formatWith value pattern rounding key = session.compileAndRender value pattern rounding key
  empty : session.formatWith value "" rounding key =
    session.formatWith value session.defaultPattern rounding key

theorem patternOrDefault_of_ne {pattern : String} (kept : pattern ≠ "" ∨ session.defaultPattern = "") :
    session.patternOrDefault pattern = pattern := by
  rw [patternOrDefault]
  split
  next blank =>
    rw [String.isEmpty_iff] at blank
    rw [kept.resolve_left (absurd blank), blank]
  next => rfl

theorem patternOrDefault_default (session : Session) :
    session.patternOrDefault session.defaultPattern = session.patternOrDefault "" := by
  have blank : session.patternOrDefault "" = session.defaultPattern := rfl
  rw [blank]
  by_cases unset : session.defaultPattern = ""
  · exact patternOrDefault_of_ne (Or.inr unset)
  · exact patternOrDefault_of_ne (Or.inl unset)

/-- A session formats a value as it compiles the pattern and renders the artifact, with the same errors and
the same exceptions in the same order. -/
theorem formatting_in_two (session : Session) (value : Float) (rounding : Float → Float) (key : String) :
    session.Formats value rounding key := by
  refine ⟨fun absent => ?_, fun text sign present zeroText zero => ?_, fun pattern present other kept => ?_, ?_⟩
  · have unknown := LocaleBook.find?_eq_none_iff.mpr absent
    exact ⟨fun pattern => formatWith_of_unknown unknown value pattern rounding,
      fun artifact => render_of_unknown unknown artifact value rounding⟩
  · obtain ⟨locale, known⟩ := LocaleBook.exists_find?_iff.mpr present
    have override : session.zeroOverride value = some text :=
      zeroOverride_eq_some_iff.mpr ⟨zeroText, sign, zero⟩
    refine ⟨fun pattern => ?_, fun artifact => ?_⟩
    · rw [formatWith_eq known, formatIn, override]
    · rw [render_of_known known, override, Option.getD_some]
  · obtain ⟨locale, known⟩ := LocaleBook.exists_find?_iff.mpr present
    have override : session.zeroOverride value = none := zeroOverride_eq_none_iff.mpr other
    rw [formatWith_eq known, formatIn, override, patternOrDefault_of_ne kept]
    exact (compileAndRender_eq known override pattern rounding).symm
  · unfold formatWith
    rw [patternOrDefault_default]

/-- A missing locale comes before the zero text, and the zero text before a malformed default pattern. -/
theorem formatting_in_two_zero :
    let session := (Session.new.setZeroText (some "nil")).setDefaultPattern (some "0.[0")
    session.formatWith 0.0 "" id "xx" = (.error (.unknownLocale "xx"), session) ∧
      session.formatWith (-0.0) "" id "EN" = (.ok "nil", session) ∧
      session.formatWith 1.5 "" id "EN" = session.compileAndRender 1.5 "0.[0" id "EN" := by
  intro session
  have absent : Text.lowerCase "xx" ∉ session.locales.keys := by decide +kernel
  have present : Text.lowerCase "EN" ∈ session.locales.keys := by decide +kernel
  have minusZero : Double.parts (-0.0) = .zero .negative := rfl
  have nonzero : ∀ sign, Double.parts 1.5 ≠ .zero sign := by
    intro sign zero
    have different : ¬ ((1.5 : Float) == 0.0) = true := by decide +kernel
    exact different (Double.beq_zero_iff.mpr ⟨sign, zero⟩)
  refine ⟨((formatting_in_two session 0.0 id "xx").unknown absent).1 "",
    ((formatting_in_two session (-0.0) id "EN").zero "nil" .negative present rfl minusZero).1 "", ?_⟩
  have formats := formatting_in_two session 1.5 id "EN"
  have named : ("0.[0" : String) ≠ "" := by decide
  rw [formats.empty]
  exact formats.other "0.[0" present (Or.inr nonzero) (Or.inl named)

end Session

end NumberPattern
