import NumberPattern.Proofs.Locale.Book
import NumberPattern.Proofs.Session.Failures
import NumberPattern.Proofs.Session.Setup

/-! The selected locale of a session is always at hand. Keys are put in lower case when a locale is loaded,
looked up or selected, and doing it again changes nothing, so whatever is asked of a session, the selected
key stays one under which a locale was loaded, and the last one loaded is used. -/

namespace NumberPattern

/-- The locale that a request loads. -/
def Request.load? : Request → Option (String × Locale)
  | loadLocale key locale => some (key, locale)
  | _ => none

namespace Session

/-- A session that was made and not yet used, with the locales that were loaded for it, in order. -/
inductive MadeWith : Session → List (String × Locale) → Prop
  | new : MadeWith .new Locale.standard.entries
  | ofLexicon (lexicon : Lexicon) : MadeWith (.ofLexicon lexicon) Locale.standard.entries
  | ofSetup {setup : Setup} {session : Session} (made : ofSetup setup = .ok session) :
      MadeWith session (Locale.standard.entries ++ setup.loads)

/-- What formatting answers with the texts of the locale. -/
def formatIn (session : Session) (value : Float) (pattern : String) (rounding : Float → Float)
    (locale : Locale) : Except Failure String × Session :=
  match session.zeroOverride value with
  | some text => (.ok text, session)
  | none =>
      match session.compile (session.patternOrDefault pattern) with
      | (.error failure, session) => (.error failure, session)
      | (.ok artifact, session) => (.ok (artifact.plan.render value rounding locale), session)

/-- The other session has the same locales, and the same one of them is selected. -/
structure SameLocales (session other : Session) : Prop where
  locales : other.locales = session.locales
  locale : other.locale = session.locale

/-- The session has the loaded locales, and the selected one is among them. -/
structure Stocked (session : Session) (loads : List (String × Locale)) : Prop where
  locales : session.locales.Keeps loads
  lower : Text.lowerCase session.locale = session.locale
  selected : ∃ locale, session.locales.find? session.locale = some locale

variable {session other third : Session} {loads : List (String × Locale)} {key : String} {locale : Locale}

namespace SameLocales

theorem refl (session : Session) : session.SameLocales session := ⟨rfl, rfl⟩

theorem trans (same : session.SameLocales other) (same' : other.SameLocales third) :
    session.SameLocales third :=
  ⟨same'.locales.trans same.locales, same'.locale.trans same.locale⟩

theorem of_served (served : session.Served other) : session.SameLocales other := by
  obtain ⟨_, _, rfl⟩ := served
  exact ⟨rfl, rfl⟩

theorem setCaching (session : Session) (caching : Bool) : session.SameLocales (session.setCaching caching) := by
  cases caching <;> exact ⟨rfl, rfl⟩

end SameLocales

theorem formatWith_eq (found : session.locales.find? key = some locale) (value : Float) (pattern : String)
    (rounding : Float → Float) :
    session.formatWith value pattern rounding key = session.formatIn value pattern rounding locale := by
  rw [formatWith, localeSettings, found]
  rfl

/-- With a locale at hand, only a claimant can report one as unknown. -/
theorem raises_of_formatIn {value : Float} {pattern : String} {rounding : Float → Float} {failure : Failure}
    (refused : (session.formatIn value pattern rounding locale).1 = .error failure) :
    session.lexicon.Raises failure := by
  rw [formatIn] at refused
  split at refused
  · cases refused
  · split at refused
    next same =>
      cases refused
      exact raises_of_compile (congrArg Prod.fst same)
    · cases refused

/-- A locale is selected under its key in lower case, if there is one. -/
theorem setLocale_cases (session : Session) (key : String) :
    ((∃ locale, session.locales.find? key = some locale) ∧
      session.setLocale key = (.ok (), { session with locale := Text.lowerCase key })) ∨
    (session.locales.find? key = none ∧
      session.setLocale key = (.error (.unknownLocale (Text.lowerCase key)), session)) := by
  rw [setLocale, LocaleBook.contains, LocaleBook.find?_lowerCase]
  cases found : session.locales.find? key with
  | none => exact Or.inr ⟨rfl, rfl⟩
  | some locale => exact Or.inl ⟨⟨locale, rfl⟩, rfl⟩

theorem keeps_loadAll (keeps : session.locales.Keeps loads) (more : List (String × Locale)) :
    (session.loadAll more).locales.Keeps (loads ++ more) :=
  keeps.insertAll more

theorem Stocked.of_same (stocked : session.Stocked loads) (same : session.SameLocales other) :
    other.Stocked loads := by
  obtain ⟨locales, lower, selected⟩ := stocked
  rw [← same.locales, ← same.locale] at *
  exact ⟨locales, lower, selected⟩

theorem stocked_setLocale (keeps : session.locales.Keeps loads)
    (chosen : session.setLocale key = (.ok (), other)) : other.Stocked loads := by
  rcases session.setLocale_cases key with ⟨⟨locale, found⟩, same⟩ | ⟨_, same⟩
  · cases same.symm.trans chosen
    exact ⟨keeps, Text.lowerCase_lowerCase key, locale, (LocaleBook.find?_lowerCase ..).trans found⟩
  · cases same.symm.trans chosen

theorem setLocale_eq_ok_iff :
    (session.setLocale key).1 = .ok () ↔ ∃ locale, session.localeSettings key = .ok locale := by
  rw [localeSettings]
  rcases session.setLocale_cases key with ⟨⟨locale, found⟩, same⟩ | ⟨absent, same⟩
  · simp [same, found]
  · simp [same, absent]

end Session

namespace Desk
open Session (SameLocales)

/-- Requests leave the locales of a session alone, except that one loads a locale and one selects a locale
that is there. -/
theorem handle_cases (desk : Desk) (request : Request) :
    (request.load? = none ∧ (desk.handle request).1 ≠ .selected (.ok ()) ∧
      desk.session.SameLocales (desk.handle request).2.session) ∨
    (∃ key locale, request = .loadLocale key locale ∧
      (desk.handle request).2.session = desk.session.loadLocale key locale) ∨
    (∃ key, request = .setLocale key ∧ (desk.handle request).1 = .selected (.ok ()) ∧
      desk.session.setLocale key = (.ok (), (desk.handle request).2.session)) := by
  have used (use : request.isUse = true) : desk.session.SameLocales (desk.handle request).2.session :=
    .of_served (served_handle use)
  cases request with
  | format | formatWith | figure => exact Or.inl ⟨rfl, by simp [handle], used rfl⟩
  | compile pattern name =>
    refine Or.inl ⟨rfl, ?_, used rfl⟩
    rw [handle]
    split <;> simp
  | compare pattern name =>
    refine Or.inl ⟨rfl, ?_, used rfl⟩
    simp only [handle]
    cases desk.session.compile pattern with
    | mk answer after =>
      cases answer with
      | error error => simp
      | ok artifact => cases desk.held.lookup name <;> simp
  | render name value rounding key =>
    refine Or.inl ⟨rfl, ?_, used rfl⟩
    rw [handle]
    split <;> simp
  | setCaching caching => exact Or.inl ⟨rfl, by simp [handle], SameLocales.setCaching ..⟩
  | loadLocale key locale => exact Or.inr (Or.inl ⟨key, locale, rfl, rfl⟩)
  | setLocale key =>
    rcases desk.session.setLocale_cases key with ⟨_, same⟩ | ⟨_, same⟩
    · refine Or.inr (Or.inr ⟨key, rfl, ?_⟩)
      rw [handle, same]
      exact ⟨rfl, rfl⟩
    · refine Or.inl ⟨rfl, ?_⟩
      rw [handle, same]
      exact ⟨by simp, SameLocales.refl _⟩
  | setZeroText | setDefaultPattern | setUnclaimed | clearCache | localeSettings | localeKeys | register
  | candidates | describe =>
    exact Or.inl ⟨rfl, by simp [handle], rfl, rfl⟩

variable {desk : Desk} {loads : List (String × Locale)}

theorem handleAll_cons (desk : Desk) (request : Request) (requests : List Request) :
    desk.handleAll (request :: requests) =
      desk.handle request :: (desk.handle request).2.handleAll requests := rfl

theorem stocked_handle (stocked : desk.session.Stocked loads) (request : Request) :
    (desk.handle request).2.session.Stocked (loads ++ request.load?.toList) := by
  rcases desk.handle_cases request with ⟨free, _, same⟩ | ⟨key, locale, rfl, loaded⟩ | ⟨key, rfl, _, chosen⟩
  · rw [free, Option.toList_none, List.append_nil]
    exact stocked.of_same same
  · obtain ⟨locales, lower, selected⟩ := stocked
    rw [loaded]
    refine ⟨locales.insert (key, locale), lower, ?_⟩
    simp only [Session.loadLocale, LocaleBook.find?_insert]
    split
    · exact ⟨locale, rfl⟩
    · exact selected
  · have free : (Request.setLocale key).load? = none := rfl
    rw [free, Option.toList_none, List.append_nil]
    exact Session.stocked_setLocale stocked.locales chosen

theorem stocked_after (stocked : desk.session.Stocked loads) (requests : List Request) :
    (desk.after requests).session.Stocked (loads ++ requests.filterMap Request.load?) := by
  induction requests generalizing desk loads with
  | nil =>
    rw [List.filterMap_nil, List.append_nil]
    exact stocked
  | cons request requests ih =>
    have further := ih (stocked_handle stocked request)
    rw [after_cons]
    cases loaded : request.load? with
    | none => simpa [loaded] using further
    | some load => simpa [loaded] using further

/-- The selected locale stays while no other one is selected. -/
theorem locale_after (requests : List Request)
    (unselected : ∀ step ∈ desk.handleAll requests, step.1 ≠ .selected (.ok ())) :
    (desk.after requests).session.locale = desk.session.locale := by
  induction requests generalizing desk with
  | nil => rfl
  | cons request requests ih =>
    rw [handleAll_cons] at unselected
    obtain ⟨first, rest⟩ := List.forall_mem_cons.mp unselected
    rw [after_cons, ih rest]
    rcases desk.handle_cases request with ⟨_, _, same⟩ | ⟨key, locale, rfl, loaded⟩ |
      ⟨key, rfl, answer, _⟩
    · exact same.locale
    · rw [loaded]
      rfl
    · exact absurd answer first

end Desk

namespace Session

variable {session : Session} {loads : List (String × Locale)} {key : String}

/-- What holds of the locales of a session at any moment. -/
structure Usable (session : Session) (loads : List (String × Locale)) : Prop where
  settings : ∀ key locale, session.localeSettings key = .ok locale ↔ lastLoaded loads key = some locale
  selected : ∃ locale, session.localeSettings session.locale = .ok locale
  /-- A failure of formatting is that of a claimant: the session itself has none to report. -/
  format : ∀ value pattern failure, (session.format value pattern).1 = .error failure →
    session.lexicon.Raises failure
  figure : ∀ figure : Figure, figure.locale = none → ∀ pattern rounding failure,
    (figure.format session pattern).1 = .error failure ∨
      (figure.formatRounded session pattern rounding).1 = .error failure → session.lexicon.Raises failure
  setLocale : ∀ key, (session.setLocale key).1 = .ok () ↔ ∃ locale, session.localeSettings key = .ok locale
  refused : ∀ key failure, (session.setLocale key).1 = .error failure → (session.setLocale key).2 = session

/-- No pattern is answered with an unknown locale. -/
structure Knows (session : Session) : Prop where
  format : ∀ value pattern key, (session.format value pattern).1 ≠ .error (.unknownLocale key)
  figure : ∀ figure : Figure, figure.locale = none → ∀ pattern rounding key,
    (figure.format session pattern).1 ≠ .error (.unknownLocale key) ∧
      (figure.formatRounded session pattern rounding).1 ≠ .error (.unknownLocale key)

/-- The session formats with the locale that was loaded last under the key. -/
structure FormatsBy (session : Session) (loads : List (String × Locale)) (key : String) : Prop where
  format : ∀ value pattern,
    session.format value pattern = session.formatWith value pattern roundHalfUp key
  table : ∃ locale, lastLoaded loads key = some locale ∧ ∀ value pattern,
    session.format value pattern = session.formatIn value pattern roundHalfUp locale

theorem Stocked.usable (stocked : session.Stocked loads) : session.Usable loads := by
  obtain ⟨locales, _, locale, selected⟩ := stocked
  have raises {value : Float} {pattern : String} {rounding : Float → Float} {failure : Failure}
      (refused : (session.formatWith value pattern rounding session.locale).1 = .error failure) :
      session.lexicon.Raises failure :=
    raises_of_formatIn (formatWith_eq selected value pattern rounding ▸ refused)
  refine ⟨fun key locale => ?_, ⟨locale, ?_⟩, fun value pattern failure => raises, ?_,
    fun key => setLocale_eq_ok_iff, fun key failure refused => ?_⟩
  · rw [← locales key, localeSettings]
    cases session.locales.find? key <;> simp
  · rw [localeSettings, selected]
  · intro figure own pattern rounding failure refused
    rw [Figure.format, Figure.formatRounded, Figure.formatRounded, own, Option.getD_none] at refused
    exact refused.elim raises raises
  · rcases session.setLocale_cases key with ⟨_, same⟩ | ⟨_, same⟩
    · rw [same] at refused
      cases refused
    · rw [same]

theorem Usable.knows (usable : session.Usable loads) (faithful : session.lexicon.Faithful) : session.Knows := by
  have never (key : String) : ¬ session.lexicon.Raises (.unknownLocale key) := fun raises => by
    obtain ⟨error, same⟩ := faithful _ raises
    cases same
  refine ⟨fun value pattern key refused => never key (usable.format value pattern _ refused),
    fun figure own pattern rounding key => ⟨fun refused => ?_, fun refused => ?_⟩⟩
  · exact never key (usable.figure figure own pattern rounding _ (Or.inl refused))
  · exact never key (usable.figure figure own pattern rounding _ (Or.inr refused))

theorem Stocked.formatsBy (stocked : session.Stocked loads) (own : session.locale = Text.lowerCase key) :
    session.FormatsBy loads key := by
  obtain ⟨locales, _, locale, selected⟩ := stocked
  have found : session.locales.find? key = some locale := by
    rw [← LocaleBook.find?_lowerCase, ← own, selected]
  have table (value : Float) (pattern : String) :
      session.format value pattern = session.formatIn value pattern roundHalfUp locale :=
    formatWith_eq selected value pattern roundHalfUp
  refine ⟨fun value pattern => ?_, locale, ?_, table⟩
  · rw [table, formatWith_eq found]
  · rw [← locales key, found]

theorem MadeWith.stocked (made : session.MadeWith loads) : session.Stocked loads := by
  have english : Text.lowerCase "en" = "en" := by decide +kernel
  have present : ∃ locale, Locale.standard.find? "en" = some locale := ⟨Locale.english, by decide +kernel⟩
  cases made with
  | new => exact ⟨LocaleBook.standsFor_standard.keeps, english, present⟩
  | ofLexicon lexicon => exact ⟨LocaleBook.standsFor_standard.keeps, english, present⟩
  | @ofSetup setup _ made =>
    obtain ⟨start, selected, rfl, chosen, rfl⟩ := ofSetup_eq_ok made
    have keeps : (Session.ofLexicon (.standard setup.unclaimed)).locales.Keeps Locale.standard.entries :=
      LocaleBook.standsFor_standard.keeps
    have defaults : selected.SameLocales
        ((selected.setDefaultPattern (some setup.defaultPattern)).setZeroText setup.zeroText) := ⟨rfl, rfl⟩
    exact (stocked_setLocale (keeps_loadAll keeps setup.loads) chosen).of_same
      (defaults.trans (.setCaching _ setup.caching))

theorem lexicon_ofSetup {setup : Setup} (made : ofSetup setup = .ok session) :
    session.lexicon = Lexicon.standard setup.unclaimed := by
  obtain ⟨start, selected, rfl, chosen, rfl⟩ := ofSetup_eq_ok made
  have kept : selected.lexicon = Lexicon.standard setup.unclaimed := by
    rcases setLocale_cases _ setup.locale with ⟨_, same⟩ | ⟨_, same⟩ <;> cases same.symm.trans chosen
    rfl
  rw [← kept, setCaching]
  cases setup.caching <;> rfl

/-- A session has the claimants of the lexicon that it was made with, or the standard tokens. -/
theorem MadeWith.faithful (made : session.MadeWith loads)
    (given : ∀ lexicon, session = .ofLexicon lexicon → lexicon.Faithful) : session.lexicon.Faithful := by
  cases made with
  | new => exact Lexicon.faithful_standard .echo
  | ofLexicon lexicon => exact given lexicon rfl
  | ofSetup made => exact lexicon_ofSetup made ▸ Lexicon.faithful_standard _

/-- Whatever is asked of a session, its selected locale is at hand. So formatting never reports it as unknown,
unless a claimant does what none should, and fails with an unknown locale itself. A locale can be selected
when it has settings, and from then on, until another one is selected, the session formats with what was
loaded last under its key. -/
theorem selected_locale_usable (session : Session) (loads : List (String × Locale))
    (made : session.MadeWith loads) (requests : List Request) :
    let desk := Desk.after ⟨session, []⟩ requests
    let loaded := loads ++ requests.filterMap Request.load?
    desk.session.Usable loaded ∧
      ((∀ lexicon, session = .ofLexicon lexicon → lexicon.Faithful) →
        (∀ claimant, .register claimant ∈ requests → claimant.Faithful) → desk.session.Knows) ∧
      ∀ key, (desk.session.setLocale key).1 = .ok () → ∀ later : List Request,
        let chosen := (desk.handle (.setLocale key)).2
        (∀ step ∈ chosen.handleAll later, step.1 ≠ .selected (.ok ())) →
          (chosen.after later).session.FormatsBy (loaded ++ later.filterMap Request.load?) key := by
  intro desk loaded
  have stocked : desk.session.Stocked loaded := Desk.stocked_after made.stocked requests
  refine ⟨stocked.usable, fun given registered => stocked.usable.knows fun failure raises => ?_, ?_⟩
  · rcases Desk.raises_of_after raises with start | ⟨claimant, member, own⟩
    · exact made.faithful given failure start
    · exact registered claimant member failure own
  intro key accepted later chosen unselected
  have kept : chosen.session.Stocked loaded := by
    simpa [Request.load?] using Desk.stocked_handle stocked (.setLocale key)
  have own : chosen.session.locale = Text.lowerCase key := by
    rcases desk.session.setLocale_cases key with ⟨_, same⟩ | ⟨_, same⟩
    · simp only [chosen, Desk.handle, same, Desk.withSession]
    · rw [same] at accepted
      cases accepted
  exact (Desk.stocked_after kept later).formatsBy ((Desk.locale_after later unselected).trans own)

/-- A claimant that finds every pattern malformed. -/
def refusing : Claimant where
  triggers := "!"
  claim := fun _ _ site => .error (site.malformed (.custom "no"))

theorem faithful_refusing : refusing.Faithful := by
  rintro failure ⟨_, _, site, ⟨⟩⟩
  exact ⟨_, rfl⟩

/-- A locale that is loaded again while it is selected, its key in another letter case each time, beside a
claimant that refuses patterns. -/
theorem selected_locale_replaced :
    let old : Locale := { point := ":" }
    let new : Locale := { point := ";" }
    let desk := Desk.after ⟨.new, []⟩ [.register refusing, .loadLocale "XX" old]
    let later : List Request := [.loadLocale "Xx" new, .format 1.5 "0.0"]
    let loaded := Locale.standard.entries ++ [("XX", old)] ++ [("Xx", new)]
    desk.session.Knows ∧ (desk.session.setLocale "xX").1 = .ok () ∧ lastLoaded loaded "xX" = some new ∧
      ((desk.handle (.setLocale "xX")).2.after later).session.FormatsBy loaded "xX" := by
  intro old new desk later loaded
  obtain ⟨usable, knows, formats⟩ :=
    selected_locale_usable .new Locale.standard.entries .new [.register refusing, .loadLocale "XX" old]
  have accepted : (desk.session.setLocale "xX").1 = .ok () :=
    (usable.setLocale "xX").mpr ⟨old, (usable.settings "xX" old).mpr (by decide +kernel)⟩
  have unselected : ∀ step ∈ (desk.handle (.setLocale "xX")).2.handleAll later,
      step.1 ≠ .selected (.ok ()) := by
    simp [later, Desk.handleAll, Desk.handle]
  refine ⟨knows ?_ ?_, accepted, by decide +kernel, formats "xX" accepted later unselected⟩
  · intro lexicon same
    have own : Lexicon.standard .echo = lexicon := congrArg Session.lexicon same
    exact own ▸ Lexicon.faithful_standard .echo
  · intro claimant member
    obtain rfl : claimant = refusing := by simpa using member
    exact faithful_refusing

/-- The failure of a claimant is passed on as it is, also one that no claimant should have. -/
example (key : String) :
    let straying : Claimant := { triggers := "!", claim := fun _ _ _ => .error (.unknownLocale key) }
    ((Session.new.register straying).compile "0!").1 = .error (.unknownLocale key) := by
  cbv

end Session

end NumberPattern
