import NumberPattern.Proofs.Plan.Marks
import NumberPattern.Session.Request

/-! A session beside one that never caches. Each cached artifact is the one that compiling its pattern
anew would give, under the lexicon of the moment: an operation that changes the lexicon drops the cache,
and no other operation changes what a pattern compiles to. -/

namespace NumberPattern

namespace Session

/-- What the cache holds for a pattern is what the pattern compiles to. -/
def Current (session : Session) : Prop :=
  ∀ pattern artifact, session.cache.lookup pattern = some artifact →
    Plan.compile session.lexicon artifact.serial pattern = .ok artifact.plan

variable {session other : Session}

theorem current_of_empty (empty : session.cache = []) : session.Current := by
  intro pattern artifact found
  rw [empty] at found
  cases found

theorem lookup_append_new {cache : List (String × Artifact)} {pattern key : String}
    {artifact found : Artifact} (known : (cache ++ [(pattern, artifact)]).lookup key = some found) :
    cache.lookup key = some found ∨ key = pattern ∧ found = artifact := by
  rw [List.lookup_append, Option.or_eq_some_iff] at known
  rcases known with cached | ⟨_, new⟩
  · exact Or.inl cached
  · by_cases same : key = pattern
    · subst key
      rw [List.lookup_cons_self, Option.some.injEq] at new
      exact Or.inr ⟨rfl, new.symm⟩
    · rw [List.lookup_cons, beq_false_of_ne same] at new
      cases new

/-- Compiling answers with a cached artifact and leaves the session, or compiles the pattern anew. -/
theorem compile_cases (session : Session) (pattern : String) :
    (∃ artifact, session.caching = true ∧ session.cache.lookup pattern = some artifact ∧
      session.compile pattern = (.ok artifact, session)) ∨
    (∃ error, Plan.compile session.lexicon session.compiled pattern = .error error ∧
      session.compile pattern = (.error error, session)) ∨
    (∃ plan, Plan.compile session.lexicon session.compiled pattern = .ok plan ∧
      session.compile pattern = (.ok ⟨session.compiled, plan⟩,
        { session with
          cache := if session.caching then session.cache ++ [(pattern, ⟨session.compiled, plan⟩)]
            else session.cache
          compiled := session.compiled + 1 })) := by
  unfold compile
  split
  next artifact hit =>
    split at hit
    next caching => exact Or.inl ⟨artifact, caching, hit, rfl⟩
    · cases hit
  next =>
    split
    next error refused => exact Or.inr (Or.inl ⟨error, refused, rfl⟩)
    next plan compiled => exact Or.inr (Or.inr ⟨plan, compiled, rfl⟩)

/-- Whatever a session answers, from the cache or not, is what the pattern compiles to at this moment. -/
theorem Current.compile_eq (current : session.Current) {pattern : String} {artifact : Artifact}
    (answer : (session.compile pattern).1 = .ok artifact) :
    Plan.compile session.lexicon artifact.serial pattern = .ok artifact.plan := by
  rcases session.compile_cases pattern with
    ⟨cached, _, hit, same⟩ | ⟨error, _, same⟩ | ⟨plan, compiled, same⟩
  · rw [same] at answer
    cases answer
    exact current pattern artifact hit
  · rw [same] at answer
    cases answer
  · rw [same] at answer
    cases answer
    exact compiled

theorem Current.compile (current : session.Current) (pattern : String) :
    (session.compile pattern).2.Current := by
  rcases session.compile_cases pattern with ⟨_, _, _, same⟩ | ⟨_, _, same⟩ | ⟨plan, compiled, same⟩
  · rw [same]
    exact current
  · rw [same]
    exact current
  · rw [same]
    intro key found known
    simp only at known ⊢
    split at known
    · rcases lookup_append_new known with cached | ⟨rfl, rfl⟩
      · exact current key found cached
      · exact compiled
    · exact current key found known

/-- The plan of an answer without its marks: what can be told of an artifact, its identity apart. -/
def content (answer : Except Failure Artifact) : Except Failure Plan :=
  answer.map fun artifact => artifact.plan.unmarked

/-- The answer depends on the lexicon and the pattern only. -/
theorem Current.content_compile (current : session.Current) (pattern : String) :
    content (session.compile pattern).1 = (Plan.compile session.lexicon 0 pattern).map Plan.unmarked := by
  rcases session.compile_cases pattern with
    ⟨artifact, _, hit, same⟩ | ⟨error, refused, same⟩ | ⟨plan, compiled, same⟩
  · rw [same, Plan.unmarked_compile 0 artifact.serial, current pattern artifact hit]
    rfl
  · rw [same, Plan.unmarked_compile 0 session.compiled, refused]
    rfl
  · rw [same, Plan.unmarked_compile 0 session.compiled, compiled]
    rfl

theorem compile_keeps (session : Session) (pattern : String) :
    (session.compile pattern).2 =
      { session with
        cache := (session.compile pattern).2.cache, compiled := (session.compile pattern).2.compiled } := by
  rcases session.compile_cases pattern with ⟨_, _, _, same⟩ | ⟨_, _, same⟩ | ⟨_, _, same⟩ <;> rw [same]

/-- The pattern that formatting compiles, unless the locale is unknown or the zero text is the answer. -/
def asked? (session : Session) (value : Float) (pattern key : String) : Option String :=
  match session.localeSettings key, session.zeroOverride value with
  | .ok _, none => some (session.patternOrDefault pattern)
  | _, _ => none

/-- Formatting leaves what compiling leaves. -/
theorem snd_formatWith (session : Session) (value : Float) (pattern : String) (rounding : Float → Float)
    (key : String) : (session.formatWith value pattern rounding key).2 =
      match session.asked? value pattern key with
      | some asked => (session.compile asked).2
      | none => session := by
  rw [asked?, formatWith]
  cases session.localeSettings key with
  | error failure => rfl
  | ok locale =>
    cases session.zeroOverride value with
    | some text => rfl
    | none =>
      dsimp only
      cases session.compile (session.patternOrDefault pattern) with
      | mk answer after => cases answer <;> rfl

/-- The other session is set up like this one and never caches. -/
structure Mirrors (session other : Session) : Prop where
  lexicon : session.lexicon = other.lexicon
  locales : session.locales = other.locales
  locale : session.locale = other.locale
  defaultPattern : session.defaultPattern = other.defaultPattern
  zeroText : session.zeroText = other.zeroText
  uncached : other.caching = false
  empty : other.cache = []
  current : session.Current

namespace Mirrors

variable (mirrors : session.Mirrors other)
include mirrors

theorem compile (pattern : String) :
    content (session.compile pattern).1 = content (other.compile pattern).1 ∧
      (session.compile pattern).2.Mirrors (other.compile pattern).2 := by
  have answers : content (session.compile pattern).1 = content (other.compile pattern).1 := by
    rw [mirrors.current.content_compile, (current_of_empty mirrors.empty).content_compile, mirrors.lexicon]
  have empty : (other.compile pattern).2.cache = [] := by
    rcases other.compile_cases pattern with ⟨_, caching, _⟩ | ⟨_, _, same⟩ | ⟨_, _, same⟩
    · cases caching.symm.trans mirrors.uncached
    · rw [same, mirrors.empty]
    · simp [same, mirrors.uncached, mirrors.empty]
  have current := mirrors.current.compile pattern
  refine ⟨answers, ?_⟩
  rw [compile_keeps] at current ⊢
  rw [compile_keeps other]
  exact ⟨mirrors.lexicon, mirrors.locales, mirrors.locale, mirrors.defaultPattern, mirrors.zeroText,
    mirrors.uncached, empty, current⟩

theorem localeSettings (key : String) : session.localeSettings key = other.localeSettings key := by
  rw [Session.localeSettings, Session.localeSettings, mirrors.locales]

theorem zeroOverride (value : Float) : session.zeroOverride value = other.zeroOverride value := by
  rw [Session.zeroOverride, Session.zeroOverride, mirrors.zeroText]

theorem patternOrDefault (pattern : String) :
    session.patternOrDefault pattern = other.patternOrDefault pattern := by
  rw [Session.patternOrDefault, Session.patternOrDefault, mirrors.defaultPattern]

/-- Artifacts with the same content are rendered alike. -/
theorem render {artifact artifact' : Artifact} (same : artifact.plan.unmarked = artifact'.plan.unmarked)
    (value : Float) (rounding : Float → Float) (key : String) :
    session.render artifact value rounding key = other.render artifact' value rounding key := by
  rw [Session.render, Session.render, mirrors.localeSettings, mirrors.zeroOverride, Plan.render_congr same]

theorem formatWith (value : Float) (pattern : String) (rounding : Float → Float) (key : String) :
    (session.formatWith value pattern rounding key).1 = (other.formatWith value pattern rounding key).1 ∧
      (session.formatWith value pattern rounding key).2.Mirrors
        (other.formatWith value pattern rounding key).2 := by
  simp only [Session.formatWith, mirrors.localeSettings, mirrors.zeroOverride, mirrors.patternOrDefault]
  cases other.localeSettings key with
  | error failure => exact ⟨rfl, mirrors⟩
  | ok locale =>
    cases other.zeroOverride value with
    | some text => exact ⟨rfl, mirrors⟩
    | none =>
      obtain ⟨answers, kept⟩ := mirrors.compile (other.patternOrDefault pattern)
      cases compiled : session.compile (other.patternOrDefault pattern) with
      | mk answer after =>
        cases compiled' : other.compile (other.patternOrDefault pattern) with
        | mk answer' after' =>
          rw [compiled, compiled'] at answers kept
          rcases answers_cases answers with ⟨error, rfl, rfl⟩ | ⟨artifact, artifact', rfl, rfl, same⟩
          · exact ⟨rfl, kept⟩
          · exact ⟨by simp only [Plan.render_congr same], kept⟩

theorem format (value : Float) (pattern : String) :
    (session.format value pattern).1 = (other.format value pattern).1 ∧
      (session.format value pattern).2.Mirrors (other.format value pattern).2 := by
  rw [Session.format, Session.format, mirrors.locale]
  exact mirrors.formatWith value pattern roundHalfUp other.locale

theorem setLocale (key : String) :
    (session.setLocale key).1 = (other.setLocale key).1 ∧
      (session.setLocale key).2.Mirrors (other.setLocale key).2 := by
  have selected : ({ session with locale := Text.lowerCase key } : Session).Mirrors
      { other with locale := Text.lowerCase key } :=
    { mirrors with locale := rfl, current := mirrors.current }
  simp only [Session.setLocale, mirrors.locales] at selected ⊢
  split
  · exact ⟨rfl, selected⟩
  · exact ⟨rfl, mirrors⟩

theorem clearCache : session.clearCache.Mirrors other.clearCache :=
  { mirrors with empty := rfl, current := current_of_empty rfl }

theorem register (claimant : Claimant) : (session.register claimant).Mirrors (other.register claimant) :=
  { mirrors.clearCache with
    lexicon := congrArg (·.register claimant) mirrors.lexicon, current := current_of_empty rfl }

theorem setUnclaimed (unclaimed : Unclaimed) :
    (session.setUnclaimed unclaimed).Mirrors (other.setUnclaimed unclaimed) :=
  { mirrors.clearCache with
    lexicon := congrArg (fun lexicon : Lexicon => { lexicon with unclaimed := unclaimed }) mirrors.lexicon
    current := current_of_empty rfl }

/-- However this session is told to cache, the other one is told not to. -/
theorem setCaching (caching : Bool) : (session.setCaching caching).Mirrors (other.setCaching false) := by
  cases caching with
  | true => exact { mirrors with uncached := rfl, empty := rfl, current := mirrors.current }
  | false => exact { mirrors.clearCache with uncached := rfl }

theorem loadLocale (key : String) (locale : Locale) :
    (session.loadLocale key locale).Mirrors (other.loadLocale key locale) :=
  { mirrors with
    locales := congrArg (·.insert key locale) mirrors.locales, current := mirrors.current }

theorem setZeroText (text : Option String) :
    (session.setZeroText text).Mirrors (other.setZeroText text) :=
  { mirrors with zeroText := rfl, current := mirrors.current }

theorem setDefaultPattern (pattern : Option String) :
    (session.setDefaultPattern pattern).Mirrors (other.setDefaultPattern pattern) :=
  { mirrors with defaultPattern := rfl, current := mirrors.current }

theorem figureAnswer (figure : Figure) (call : FigureCall) :
    (figure.answer session call).1 = (figure.answer other call).1 ∧
      (figure.answer session call).2.1 = (figure.answer other call).2.1 ∧
      (figure.answer session call).2.2.Mirrors (figure.answer other call).2.2 := by
  cases call with
  | set value => exact ⟨rfl, rfl, mirrors⟩
  | format pattern =>
    simp only [Figure.answer, Figure.format, Figure.formatRounded, mirrors.locale]
    have kept := mirrors.formatWith figure.value pattern roundHalfUp (figure.locale.getD other.locale)
    exact ⟨congrArg _ kept.1, trivial, kept.2⟩
  | formatRounded pattern rounding =>
    simp only [Figure.answer, Figure.formatRounded, mirrors.locale]
    have kept := mirrors.formatWith figure.value pattern rounding (figure.locale.getD other.locale)
    exact ⟨congrArg _ kept.1, trivial, kept.2⟩

omit mirrors in
theorem figureAnswerAll (mirrors : session.Mirrors other) (figure : Figure) (calls : List FigureCall) :
    (figure.answerAll session calls).1 = (figure.answerAll other calls).1 ∧
      (figure.answerAll session calls).2.Mirrors (figure.answerAll other calls).2 := by
  induction calls generalizing figure session other with
  | nil => exact ⟨rfl, mirrors⟩
  | cons call calls ih =>
    obtain ⟨reply, later, kept⟩ := mirrors.figureAnswer figure call
    obtain ⟨replies, kept⟩ := ih kept (figure.answer session call).2.1
    simp only [Figure.answerAll]
    rw [← later, ← reply, ← replies]
    exact ⟨rfl, kept⟩

end Mirrors

end Session

end NumberPattern
