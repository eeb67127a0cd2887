import NumberPattern.Proofs.Lexicon.Registration
import NumberPattern.Proofs.Scan.Progress
import NumberPattern.Proofs.Session.Mirror
import NumberPattern.Proofs.Token.Step

/-! Which failures come from claimants. What a claimant fails with ends the compilation and is passed on as it
is, so a failure of a compilation is always that of a claimant that the lexicon calls. The lexicon of a
session grows by the claimants that are registered and by no others. -/

namespace NumberPattern

namespace Claimant

/-- The claimant fails in this way at some place in some pattern. -/
def Raises (claimant : Claimant) (failure : Failure) : Prop :=
  ∃ id tally site, claimant.claim id tally site = .error failure

/-- The claimant fails on malformed patterns only, as claimants are asked to. -/
def Faithful (claimant : Claimant) : Prop :=
  ∀ failure, claimant.Raises failure → ∃ error, failure = .malformed error

end Claimant

theorem Token.faithful (token : Token) : token.claimant.Faithful := by
  rintro failure ⟨id, tally, site, refused⟩
  rcases (claim_eq_error refused).2 with ⟨_, refused⟩ | ⟨_, _, refused⟩
  · obtain ⟨_, _, _, rfl⟩ := claimPoint_eq_error.mp refused
    exact ⟨_, rfl⟩
  · obtain ⟨_, _, rfl⟩ := claimDecimals_eq_error.mp refused
    exact ⟨_, rfl⟩

namespace Lexicon

variable {lexicon : Lexicon} {claimant : Claimant} {failure : Failure}

/-- A claimant that the lexicon calls fails in this way at some place in some pattern. -/
def Raises (lexicon : Lexicon) (failure : Failure) : Prop :=
  ∃ c, ∃ entry ∈ lexicon.called c, entry.claimant.Raises failure

/-- The claimants of the lexicon fail on malformed patterns only. -/
def Faithful (lexicon : Lexicon) : Prop := ∀ failure, lexicon.Raises failure → ∃ error, failure = .malformed error

theorem raises_of_register (raises : (lexicon.register claimant).Raises failure) :
    lexicon.Raises failure ∨ claimant.Raises failure := by
  obtain ⟨c, entry, called, raises⟩ := raises
  rw [called_register] at called
  split at called
  · rcases mem_place.mp called with rfl | called
    · exact Or.inr raises
    · exact Or.inl ⟨c, entry, called, raises⟩
  · exact Or.inl ⟨c, entry, called, raises⟩

theorem Faithful.register (faithful : lexicon.Faithful) (own : claimant.Faithful) :
    (lexicon.register claimant).Faithful := fun failure raises =>
  (raises_of_register raises).elim (faithful failure) (own failure)

theorem faithful_standard (unclaimed : Unclaimed) : (standard unclaimed).Faithful := by
  rintro failure ⟨c, entry, called, raises⟩
  have filed := Filed.standard unclaimed
  have member := ((filed.called c entry).mp called).1
  rw [filed.entries] at member
  obtain ⟨item, listed, rfl⟩ := List.mem_map.mp member
  obtain ⟨token, _, own⟩ := List.mem_map.mp (List.fst_mem_of_mem_zipIdx listed)
  exact token.faithful failure (own ▸ raises)

end Lexicon

/-- A pattern is refused by a claimant. -/
theorem Plan.raises_of_compile {lexicon : Lexicon} {serial : Nat} {pattern : String} {failure : Failure}
    (refused : compile lexicon serial pattern = .error failure) : lexicon.Raises failure := by
  cases scanned : scan lexicon pattern with
  | ok claims =>
    rw [compile, scanned] at refused
    cases refused
  | error error =>
    rw [compile, scanned] at refused
    cases refused
    obtain ⟨claims, tally, _, inside, stuck⟩ := Scan.scan_eq_error_iff.mp scanned
    rw [Scan.siteAt, List.drop_eq_getElem_cons inside] at stuck
    obtain ⟨entry, called, own⟩ := Lexicon.dispatch_eq_error stuck
    exact ⟨_, entry, called, _, _, _, own⟩

namespace Session

/-- The other session differs in its cache and in the number of its compilations at most. -/
def Served (session other : Session) : Prop :=
  ∃ cache compiled, other = { session with cache := cache, compiled := compiled }

variable {session other third : Session}

namespace Served

theorem refl (session : Session) : session.Served session := ⟨_, _, rfl⟩

theorem trans (served : session.Served other) (further : other.Served third) : session.Served third := by
  obtain ⟨_, _, rfl⟩ := served
  obtain ⟨cache, compiled, rfl⟩ := further
  exact ⟨cache, compiled, rfl⟩

theorem lexicon_eq (served : session.Served other) : other.lexicon = session.lexicon := by
  obtain ⟨_, _, rfl⟩ := served
  rfl

theorem compile (session : Session) (pattern : String) : session.Served (session.compile pattern).2 :=
  ⟨_, _, session.compile_keeps pattern⟩

theorem formatWith (session : Session) (value : Float) (pattern : String) (rounding : Float → Float)
    (key : String) : session.Served (session.formatWith value pattern rounding key).2 := by
  rw [snd_formatWith]
  cases session.asked? value pattern key with
  | none => exact refl session
  | some asked => exact compile session asked

theorem figureAnswerAll (figure : Figure) (session : Session) (calls : List FigureCall) :
    session.Served (figure.answerAll session calls).2 := by
  induction calls generalizing figure session with
  | nil => exact refl session
  | cons call calls ih =>
    have first : session.Served (figure.answer session call).2.2 := by
      cases call with
      | set value => exact refl session
      | format pattern => exact formatWith ..
      | formatRounded pattern rounding => exact formatWith ..
    exact first.trans (ih _ _)

end Served

theorem raises_of_compile {pattern : String} {failure : Failure}
    (refused : (session.compile pattern).1 = .error failure) : session.lexicon.Raises failure := by
  rcases session.compile_cases pattern with ⟨_, _, _, same⟩ | ⟨_, failed, same⟩ | ⟨_, _, same⟩
  · rw [same] at refused
    cases refused
  · rw [same] at refused
    cases refused
    exact Plan.raises_of_compile failed
  · rw [same] at refused
    cases refused

end Session

/-- Requests that set nothing. -/
def Request.isUse : Request → Bool
  | format .. | formatWith .. | compile .. | render .. | compare .. | figure .. => true
  | localeSettings _ | localeKeys | candidates _ | describe => true
  | _ => false

namespace Desk
open Session (Served)

/-- The desk after all requests. -/
def after (desk : Desk) (requests : List Request) : Desk :=
  requests.foldl (fun desk request => (desk.handle request).2) desk

variable {desk : Desk} {request : Request} {failure : Failure}

theorem after_cons (desk : Desk) (request : Request) (requests : List Request) :
    desk.after (request :: requests) = (desk.handle request).2.after requests := rfl

theorem session_compile (desk : Desk) (pattern : String) (name : Option String) :
    (desk.handle (.compile pattern name)).2.session = (desk.session.compile pattern).2 := by
  rw [handle]
  split
  next compiled =>
    rw [compiled]
    cases name <;> rfl
  next compiled => rw [compiled]; rfl

theorem session_compare (desk : Desk) (pattern name : String) :
    (desk.handle (.compare pattern name)).2.session = (desk.session.compile pattern).2 := by
  simp only [handle]
  cases desk.session.compile pattern with
  | mk answer after =>
    cases answer with
    | error error => rfl
    | ok artifact => cases desk.held.lookup name <;> rfl

theorem session_render (desk : Desk) (name : String) (value : Float) (rounding : Float → Float) (key : String) :
    (desk.handle (.render name value rounding key)).2.session = desk.session := by
  rw [handle]
  split <;> rfl

theorem served_handle (use : request.isUse = true) : desk.session.Served (desk.handle request).2.session := by
  cases request with
  | format | formatWith => exact .formatWith ..
  | figure figure calls => exact .figureAnswerAll ..
  | compile pattern name => exact session_compile desk pattern name ▸ .compile ..
  | compare pattern name => exact session_compare desk pattern name ▸ .compile ..
  | render name value rounding key => exact session_render desk name value rounding key ▸ .refl _
  | localeSettings | localeKeys | candidates | describe => exact .refl _
  | _ => cases use

/-- No request but a registration brings claimants in. -/
theorem raises_of_handle (raises : (desk.handle request).2.session.lexicon.Raises failure) :
    desk.session.lexicon.Raises failure ∨ ∃ claimant, request = .register claimant ∧ claimant.Raises failure := by
  cases use : request.isUse with
  | true => exact Or.inl ((served_handle use).lexicon_eq ▸ raises)
  | false =>
    cases request with
    | register claimant => exact (Lexicon.raises_of_register raises).imp_right fun own => ⟨claimant, rfl, own⟩
    | setLocale key =>
      simp only [handle, Session.setLocale] at raises
      split at raises <;> exact Or.inl raises
    | setCaching caching => cases caching <;> exact Or.inl raises
    | setZeroText | setDefaultPattern | setUnclaimed | clearCache | loadLocale => exact Or.inl raises
    | _ => cases use

theorem raises_of_after {requests : List Request} (raises : (desk.after requests).session.lexicon.Raises failure) :
    desk.session.lexicon.Raises failure ∨
      ∃ claimant, .register claimant ∈ requests ∧ claimant.Raises failure := by
  induction requests generalizing desk with
  | nil => exact Or.inl raises
  | cons request requests ih =>
    rcases ih raises with earlier | ⟨claimant, member, own⟩
    · rcases raises_of_handle earlier with start | ⟨claimant, rfl, own⟩
      · exact Or.inl start
      · exact Or.inr ⟨claimant, List.mem_cons_self, own⟩
    · exact Or.inr ⟨claimant, List.mem_cons_of_mem _ member, own⟩

end Desk

end NumberPattern
