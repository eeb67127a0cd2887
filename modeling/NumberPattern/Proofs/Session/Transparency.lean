import Mathlib.Data.List.Forall2
import NumberPattern.Proofs.Session.Mirror
import NumberPattern.Proofs.Session.Setup

/-! Caching is transparent: whatever a session is asked, one request after the other, it replies as a
session does that never caches. -/

namespace NumberPattern

/-- A session that was made and not yet used. -/
inductive Session.Fresh : Session → Prop
  | new : Fresh .new
  | ofLexicon (lexicon : Lexicon) : Fresh (.ofLexicon lexicon)
  | ofSetup {setup : Setup} {session : Session} (made : ofSetup setup = .ok session) : Fresh session

namespace Session

theorem Fresh.cache_eq_nil {session : Session} (fresh : session.Fresh) : session.cache = [] := by
  cases fresh with
  | new => rfl
  | ofLexicon lexicon => rfl
  | @ofSetup setup _ made =>
    obtain ⟨start, selected, rfl, chosen, rfl⟩ := ofSetup_eq_ok made
    have empty : selected.cache = [] := by
      simp only [setLocale] at chosen
      split at chosen
      · cases chosen
        rfl
      · cases chosen
    cases setup.caching with
    | true => exact empty
    | false => rfl

theorem Fresh.mirrors {session : Session} (fresh : session.Fresh) :
    session.Mirrors (session.setCaching false) :=
  ⟨rfl, rfl, rfl, rfl, rfl, rfl, rfl, current_of_empty fresh.cache_eq_nil⟩

end Session

/-- The request to a session that never caches. -/
def Request.uncached : Request → Request
  | setCaching _ => setCaching false
  | request => request

/-- The replies are the same as far as caching must not show: artifacts count by their content, and of
a comparison only whether there is anything to compare. The description tells of the cache itself. -/
def Reply.Agrees : Reply → Reply → Prop
  | compiled answer, compiled other => Session.content answer = Session.content other
  | compared result, compared other => result.map (fun _ => ()) = other.map fun _ => ()
  | description _, description _ => True
  | reply, other => reply = other

namespace Desk

variable {desk other : Desk}

/-- The sessions mirror each other, and what lies aside has the same content. -/
structure Mirrors (desk other : Desk) : Prop where
  session : desk.session.Mirrors other.session
  held : ∀ name, (desk.held.lookup name).map (·.plan.unmarked) =
    (other.held.lookup name).map (·.plan.unmarked)

namespace Mirrors

variable (mirrors : desk.Mirrors other)
include mirrors

theorem withSession {session session' : Session} (kept : session.Mirrors session') :
    (desk.withSession session).Mirrors (other.withSession session') :=
  ⟨kept, mirrors.held⟩

theorem hold (name : Option String) {artifact artifact' : Artifact}
    (same : artifact.plan.unmarked = artifact'.plan.unmarked) :
    (desk.hold name artifact).Mirrors (other.hold name artifact') := by
  cases name with
  | none => exact mirrors
  | some name =>
    refine ⟨mirrors.session, fun key => ?_⟩
    by_cases asked : key = name
    · simp [Desk.hold, asked, same]
    · simpa [Desk.hold, List.lookup_cons, beq_false_of_ne asked] using mirrors.held key

/-- Under a name both desks hold artifacts of one content, or none. -/
theorem held_cases (name : String) :
    (desk.held.lookup name = none ∧ other.held.lookup name = none) ∨
      ∃ artifact artifact', desk.held.lookup name = some artifact ∧
        other.held.lookup name = some artifact' ∧ artifact.plan.unmarked = artifact'.plan.unmarked := by
  have same := mirrors.held name
  cases held : desk.held.lookup name with
  | none =>
    rw [held] at same
    exact Or.inl ⟨rfl, Option.map_eq_none_iff.mp same.symm⟩
  | some artifact =>
    rw [held] at same
    obtain ⟨artifact', held', same⟩ := Option.map_eq_some_iff.mp same.symm
    exact Or.inr ⟨artifact, artifact', rfl, held', same.symm⟩

theorem handle_compile (pattern : String) (name : Option String) :
    (desk.handle (.compile pattern name)).1.Agrees (other.handle (.compile pattern name)).1 ∧
      (desk.handle (.compile pattern name)).2.Mirrors (other.handle (.compile pattern name)).2 := by
  obtain ⟨answers, kept⟩ := mirrors.session.compile pattern
  simp only [Desk.handle]
  cases compiled : desk.session.compile pattern with
  | mk answer after =>
    cases compiled' : other.session.compile pattern with
    | mk answer' after' =>
      rw [compiled, compiled'] at answers kept
      rcases answers_cases answers with ⟨error, rfl, rfl⟩ | ⟨artifact, artifact', rfl, rfl, same⟩
      · exact ⟨answers, mirrors.withSession kept⟩
      · exact ⟨answers, (mirrors.withSession kept).hold name same⟩

theorem handle_compare (pattern name : String) :
    (desk.handle (.compare pattern name)).1.Agrees (other.handle (.compare pattern name)).1 ∧
      (desk.handle (.compare pattern name)).2.Mirrors (other.handle (.compare pattern name)).2 := by
  obtain ⟨answers, kept⟩ := mirrors.session.compile pattern
  simp only [Desk.handle]
  cases compiled : desk.session.compile pattern with
  | mk answer after =>
    cases compiled' : other.session.compile pattern with
    | mk answer' after' =>
      rw [compiled, compiled'] at answers kept
      have kept := mirrors.withSession kept
      rcases answers_cases answers with ⟨error, rfl, rfl⟩ | ⟨artifact, artifact', rfl, rfl, _⟩
      · exact ⟨rfl, kept⟩
      · rcases mirrors.held_cases name with ⟨held, held'⟩ | ⟨artifact, artifact', held, held', _⟩
        · rw [held, held']
          exact ⟨rfl, kept⟩
        · rw [held, held']
          exact ⟨rfl, kept⟩

theorem handle_render (name : String) (value : Float) (rounding : Float → Float) (locale : String) :
    (desk.handle (.render name value rounding locale)).1.Agrees
        (other.handle (.render name value rounding locale)).1 ∧
      (desk.handle (.render name value rounding locale)).2.Mirrors
        (other.handle (.render name value rounding locale)).2 := by
  simp only [Desk.handle]
  rcases mirrors.held_cases name with ⟨held, held'⟩ | ⟨artifact, artifact', held, held', same⟩
  · rw [held, held']
    exact ⟨rfl, mirrors⟩
  · rw [held, held']
    exact ⟨congrArg Reply.rendered (mirrors.session.render same value rounding locale), mirrors⟩

/-- One request keeps the desks alike and is answered alike. -/
theorem handle (request : Request) :
    (desk.handle request).1.Agrees (other.handle request.uncached).1 ∧
      (desk.handle request).2.Mirrors (other.handle request.uncached).2 := by
  have sessions := mirrors.session
  cases request with
  | format value pattern =>
    obtain ⟨same, kept⟩ := sessions.format value pattern
    exact ⟨congrArg Reply.rendered same, mirrors.withSession kept⟩
  | formatWith value pattern rounding locale =>
    obtain ⟨same, kept⟩ := sessions.formatWith value pattern rounding locale
    exact ⟨congrArg Reply.rendered same, mirrors.withSession kept⟩
  | compile pattern name => exact mirrors.handle_compile pattern name
  | render name value rounding locale => exact mirrors.handle_render name value rounding locale
  | compare pattern name => exact mirrors.handle_compare pattern name
  | figure figure calls =>
    obtain ⟨same, kept⟩ := Session.Mirrors.figureAnswerAll sessions figure calls
    exact ⟨congrArg Reply.figure same, mirrors.withSession kept⟩
  | setZeroText text => exact ⟨rfl, mirrors.withSession (sessions.setZeroText text)⟩
  | setDefaultPattern pattern => exact ⟨rfl, mirrors.withSession (sessions.setDefaultPattern pattern)⟩
  | setUnclaimed unclaimed => exact ⟨rfl, mirrors.withSession (sessions.setUnclaimed unclaimed)⟩
  | setCaching caching => exact ⟨rfl, mirrors.withSession (sessions.setCaching caching)⟩
  | clearCache => exact ⟨rfl, mirrors.withSession sessions.clearCache⟩
  | loadLocale key locale => exact ⟨rfl, mirrors.withSession (sessions.loadLocale key locale)⟩
  | setLocale key =>
    obtain ⟨same, kept⟩ := sessions.setLocale key
    exact ⟨congrArg Reply.selected same, mirrors.withSession kept⟩
  | localeSettings key => exact ⟨congrArg Reply.settings (sessions.localeSettings key), mirrors⟩
  | localeKeys => exact ⟨congrArg (fun book : LocaleBook => Reply.keys book.keys) sessions.locales, mirrors⟩
  | register claimant =>
    exact ⟨congrArg (fun lexicon : Lexicon => Reply.registered lexicon.nextId) sessions.lexicon,
      mirrors.withSession (sessions.register claimant)⟩
  | candidates characters =>
    simp only [Desk.handle, Request.uncached, sessions.lexicon]
    exact ⟨rfl, mirrors⟩
  | describe => exact ⟨trivial, mirrors⟩

omit mirrors in
theorem handleAll (mirrors : desk.Mirrors other) (requests : List Request) :
    List.Forall₂ (fun cached plain => cached.1.Agrees plain.1 ∧ cached.2.Mirrors plain.2)
      (desk.handleAll requests) (other.handleAll (requests.map Request.uncached)) := by
  induction requests generalizing desk other with
  | nil => exact .nil
  | cons request requests ih =>
    have first := mirrors.handle request
    exact .cons first (ih first.2)

end Mirrors

end Desk

namespace Session

/-- Any artifact that the session answers with, cached or not, is what the pattern compiles to with the
lexicon of the moment. -/
def CompilesAnew (session : Session) : Prop :=
  ∀ pattern artifact, (session.compile pattern).1 = .ok artifact →
    Plan.compile session.lexicon artifact.serial pattern = .ok artifact.plan

/-- Whatever is asked of a session, it replies as a session does on which caching is off for good, and
at no moment is there an artifact in its cache that compiling would not give again. -/
theorem caching_transparent (session : Session) (fresh : session.Fresh) (requests : List Request) :
    session.CompilesAnew ∧
    List.Forall₂
      (fun cached plain =>
        cached.1.Agrees plain.1 ∧ cached.2.Mirrors plain.2 ∧ cached.2.session.CompilesAnew)
      (Desk.handleAll ⟨session, []⟩ requests)
      (Desk.handleAll ⟨session.setCaching false, []⟩ (requests.map Request.uncached)) := by
  have start : Desk.Mirrors ⟨session, []⟩ ⟨session.setCaching false, []⟩ := ⟨fresh.mirrors, fun _ => rfl⟩
  have anew {desk other : Desk} (mirrors : desk.Mirrors other) : desk.session.CompilesAnew :=
    fun pattern artifact answer => mirrors.session.current.compile_eq answer
  refine ⟨anew start, (start.handleAll requests).imp ?_⟩
  rintro cached plain ⟨agrees, mirrors⟩
  exact ⟨agrees, mirrors, anew mirrors⟩

/-- A pattern that was cached is compiled anew when a claimant of its character is registered. -/
theorem caching_transparent_register :
    let claimant : Claimant :=
      { triggers := "x", claim := fun _ _ _ => .ok (some { action := .plus, weight := 0 }) }
    let requests : List Request :=
      [.compile "0x" (some "before"), .register claimant, .compile "0x" none, .format 5.0 "0x",
        .render "before" 5.0 roundHalfUp "en"]
    List.Forall₂ (fun cached plain => cached.1.Agrees plain.1)
      (Desk.handleAll ⟨.new, []⟩ requests)
      (Desk.handleAll ⟨Session.new.setCaching false, []⟩ (requests.map Request.uncached)) :=
  (caching_transparent .new .new _).2.imp fun _ _ agreement => agreement.1

end Session

end NumberPattern
