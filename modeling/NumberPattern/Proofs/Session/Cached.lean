import Mathlib.Data.List.Induction
import Mathlib.Data.Set.Card
import NumberPattern.Proofs.Session.Selection
import NumberPattern.Proofs.Session.Transparency

/-! What the cache of a session holds: the patterns that were compiled since the cache was last emptied,
each of them once. Requests that do not empty the cache only add to its end, so the artifact of a pattern
stays the same one until then. -/

namespace NumberPattern

namespace Session

def compiles (session : Session) (pattern : String) : Bool :=
  (Plan.compile session.lexicon 0 pattern).isOk

def cachedPatterns (session : Session) : List String := session.cache.map (·.1)

end Session

/-- The patterns that the calls ask a session to compile, in order. -/
def Figure.asks (figure : Figure) (session : Session) : List FigureCall → List String
  | [] => []
  | .set value :: calls => { figure with value := value }.asks session calls
  | .format pattern :: calls | .formatRounded pattern _ :: calls =>
      (session.asked? figure.value pattern (figure.locale.getD session.locale)).toList ++
        figure.asks session calls

namespace Request

/-- The patterns that a request asks a session to compile, in order. -/
def asks (session : Session) : Request → List String
  | format value pattern => (session.asked? value pattern session.locale).toList
  | formatWith value pattern _ key => (session.asked? value pattern key).toList
  | compile pattern _ | compare pattern _ => [pattern]
  | .figure number calls => number.asks session calls
  | _ => []

/-- The patterns that a request compiles successfully. -/
def compiles (session : Session) (request : Request) : List String :=
  (request.asks session).filter session.compiles

/-- Requests that empty the cache. -/
def resets : Request → Bool
  | register _ | setUnclaimed _ | clearCache | setCaching false => true
  | _ => false

theorem asks_of_resets {request : Request} (resets : request.resets = true) (session : Session) :
    request.asks session = [] := by
  cases request with
  | register | setUnclaimed | clearCache | setCaching => rfl
  | _ => cases resets

/-- Requests that set something else than the cache or what patterns compile to. -/
def isSetting : Request → Bool
  | loadLocale _ _ | setLocale _ | setZeroText _ | setDefaultPattern _ | setCaching true => true
  | _ => false

end Request

namespace Session

variable {session other third : Session} {pattern : String} {patterns more : List String}

theorem compiles_iff (serial : Nat) :
    session.compiles pattern = true ↔ ∃ plan, Plan.compile session.lexicon serial pattern = .ok plan := by
  rw [compiles, Plan.compile, Plan.compile]
  cases Plan.scan session.lexicon pattern with
  | error error =>
    apply iff_of_false
    · exact Bool.false_ne_true
    · intro found
      cases found.choose_spec
  | ok claims => exact iff_of_true rfl ⟨_, rfl⟩

theorem mem_cachedPatterns :
    pattern ∈ session.cachedPatterns ↔ ∃ artifact, session.cache.lookup pattern = some artifact := by
  rw [← Option.isSome_iff_exists, List.lookup_isSome_iff, cachedPatterns, List.mem_map]
  constructor
  · rintro ⟨entry, member, rfl⟩
    exact ⟨entry, member, beq_self_eq_true _⟩
  · rintro ⟨entry, member, same⟩
    exact ⟨entry, member, (eq_of_beq same).symm⟩

/-- A cached pattern is not compiled again. -/
theorem compile_of_cached {artifact : Artifact} (caching : session.caching = true)
    (cached : session.cache.lookup pattern = some artifact) :
    session.compile pattern = (.ok artifact, session) := by
  rw [compile, if_pos caching, cached]

/-- The artifact that is cached after compiling is the answer. -/
theorem compile_answer {artifact : Artifact} (caching : session.caching = true)
    (cached : (session.compile pattern).2.cache.lookup pattern = some artifact) :
    (session.compile pattern).1 = .ok artifact := by
  cases before : session.cache.lookup pattern with
  | some earlier =>
    rw [compile_of_cached caching before] at cached ⊢
    exact congrArg Except.ok (Option.some.inj (before.symm.trans cached))
  | none =>
    simp only [compile, caching, if_true, before] at cached ⊢
    split at cached
    · cases before.symm.trans cached
    · rw [List.lookup_append, before, Option.none_or, List.lookup_cons_self] at cached
      exact congrArg Except.ok (Option.some.inj cached)

theorem compile_of_error {error : Failure} (refused : (session.compile pattern).1 = .error error) :
    (session.compile pattern).2 = session := by
  rcases session.compile_cases pattern with ⟨_, _, _, same⟩ | ⟨_, _, same⟩ | ⟨_, _, same⟩
  · rw [same]
  · rw [same]
  · rw [same] at refused
    cases refused

theorem asked?_congr (locales : other.locales = session.locales) (zeroText : other.zeroText = session.zeroText)
    (default : other.defaultPattern = session.defaultPattern) : other.asked? = session.asked? := by
  funext value pattern key
  simp only [asked?, localeSettings, zeroOverride, patternOrDefault, locales, zeroText, default]

/-- The other session is this one after it was asked to compile the patterns. -/
structure Fills (session : Session) (patterns : List String) (other : Session) : Prop where
  kept : other = { session with cache := other.cache, compiled := other.compiled }
  grows : session.cache <+: other.cache
  member : ∀ pattern, pattern ∈ other.cachedPatterns ↔
    pattern ∈ session.cachedPatterns ∨
      session.caching = true ∧ pattern ∈ patterns.filter session.compiles
  distinct : session.cachedPatterns.Nodup → other.cachedPatterns.Nodup
  /-- Nothing is cached without a compilation, nor while caching is off. -/
  still : patterns.filter session.compiles = [] ∨ session.caching = false → other.cache = session.cache

namespace Fills

theorem caching (fills : session.Fills patterns other) : other.caching = session.caching := by rw [fills.kept]

theorem compiles (fills : session.Fills patterns other) : other.compiles = session.compiles := by
  funext pattern
  rw [Session.compiles, Session.compiles, fills.kept]

theorem refl (session : Session) : session.Fills [] session :=
  ⟨rfl, List.prefix_rfl, by simp, id, fun _ => rfl⟩

theorem trans (fills : session.Fills patterns other) (further : other.Fills more third) :
    session.Fills (patterns ++ more) third := by
  refine ⟨?_, fills.grows.trans further.grows, fun pattern => ?_, further.distinct ∘ fills.distinct,
    fun idle => ?_⟩
  · rw [further.kept, fills.kept]
  · rw [further.member, fills.member, fills.caching, fills.compiles, List.filter_append, List.mem_append,
      and_or_left, or_assoc]
  · rw [List.filter_append, List.append_eq_nil_iff] at idle
    rw [further.still (by rw [fills.caching, fills.compiles]; exact idle.imp And.right id),
      fills.still (idle.imp And.left id)]

theorem compile (session : Session) (pattern : String) : session.Fills [pattern] (session.compile pattern).2 := by
  have kept := session.compile_keeps pattern
  rcases session.compile_cases pattern with
    ⟨artifact, caching, hit, same⟩ | ⟨error, refused, same⟩ | ⟨plan, compiled, same⟩
  · -- a hit: the pattern is cached already
    have known : pattern ∈ session.cachedPatterns := mem_cachedPatterns.mpr ⟨artifact, hit⟩
    rw [same] at kept ⊢
    refine ⟨kept, List.prefix_rfl, fun other => ⟨Or.inl, ?_⟩, id, fun _ => rfl⟩
    rintro (before | ⟨_, asked⟩)
    · exact before
    · rw [List.mem_singleton.mp (List.mem_of_mem_filter asked)]
      exact known
  · have refuses : session.compiles pattern = false := by
      rw [← Bool.not_eq_true, compiles_iff session.compiled, refused]
      simp
    rw [same] at kept ⊢
    exact ⟨kept, List.prefix_rfl, by simp [refuses], id, fun _ => rfl⟩
  · have compiles : session.compiles pattern = true := (compiles_iff session.compiled).mpr ⟨plan, compiled⟩
    cases caching : session.caching with
    | false =>
      simp only [caching, Bool.false_eq_true, if_false] at same
      rw [same] at kept ⊢
      exact ⟨kept, List.prefix_rfl, by simp [cachedPatterns, caching], id, fun _ => rfl⟩
    | true =>
      simp only [caching, if_true] at same
      rw [same] at kept ⊢
      refine ⟨kept, List.prefix_append _ _, fun other => ?_, fun distinct => ?_, ?_⟩
      · simp [cachedPatterns, caching, compiles]
      · have missed : pattern ∉ session.cachedPatterns := by
          intro known
          obtain ⟨artifact, cached⟩ := mem_cachedPatterns.mp known
          have later := congrArg (fun answer => answer.2.compiled) same
          simp [compile_of_cached caching cached] at later
        rw [cachedPatterns, List.map_append, List.map_singleton, ← List.concat_eq_append]
        exact distinct.concat missed
      · simp [compiles, caching]

theorem asked? (fills : session.Fills patterns other) : other.asked? = session.asked? :=
  asked?_congr (by rw [fills.kept]) (by rw [fills.kept]) (by rw [fills.kept])

theorem formatWith (session : Session) (value : Float) (pattern : String) (rounding : Float → Float)
    (key : String) :
    session.Fills (session.asked? value pattern key).toList
      (session.formatWith value pattern rounding key).2 := by
  rw [snd_formatWith]
  cases session.asked? value pattern key with
  | none => exact refl session
  | some asked => exact compile session asked

theorem asks (fills : session.Fills patterns other) (figure : Figure) (calls : List FigureCall) :
    figure.asks other calls = figure.asks session calls := by
  have locale : other.locale = session.locale := by rw [fills.kept]
  induction calls generalizing figure with
  | nil => rfl
  | cons call calls ih =>
    cases call with
    | set value => exact ih { figure with value := value }
    | format pattern | formatRounded pattern => simp only [Figure.asks, fills.asked?, locale, ih figure]

theorem figureAnswerAll (figure : Figure) (session : Session) (calls : List FigureCall) :
    session.Fills (figure.asks session calls) (figure.answerAll session calls).2 := by
  induction calls generalizing figure session with
  | nil => exact refl session
  | cons call calls ih =>
    have formatted (pattern : String) (rounding : Float → Float) :
        session.Fills
          ((session.asked? figure.value pattern (figure.locale.getD session.locale)).toList ++
            figure.asks session calls)
          (figure.answerAll (figure.formatRounded session pattern rounding).2 calls).2 := by
      have first : session.Fills _ (figure.formatRounded session pattern rounding).2 := formatWith ..
      have rest := ih figure (figure.formatRounded session pattern rounding).2
      rw [first.asks] at rest
      exact first.trans rest
    cases call with
    | set value => exact ih { figure with value := value } session
    | format pattern => exact formatted pattern roundHalfUp
    | formatRounded pattern rounding => exact formatted pattern rounding

end Fills

end Session

namespace Desk
open Session (Fills)

variable {desk : Desk} {request : Request} {requests : List Request} {pattern : String}

/-- A request that does not empty the cache changes it as compiling does. -/
theorem handle_fills (desk : Desk) (plain : request.resets = false) :
    ∃ filled, desk.session.Fills (request.asks desk.session) filled ∧
      (desk.handle request).2.session.cache = filled.cache ∧
      (desk.session.caching = true → (desk.handle request).2.session.caching = true) := by
  have through {filled : Session} (fills : desk.session.Fills (request.asks desk.session) filled)
      (same : (desk.handle request).2.session = filled) :
      ∃ filled, desk.session.Fills (request.asks desk.session) filled ∧
        (desk.handle request).2.session.cache = filled.cache ∧
        (desk.session.caching = true → (desk.handle request).2.session.caching = true) := by
    rw [same]
    exact ⟨filled, fills, rfl, fun caching => fills.caching.trans caching⟩
  cases request with
  | format value pattern => exact through (.formatWith ..) rfl
  | formatWith value pattern rounding key => exact through (.formatWith ..) rfl
  | compile pattern name => exact through (.compile desk.session pattern) (desk.session_compile pattern name)
  | compare pattern name => exact through (.compile desk.session pattern) (desk.session_compare pattern name)
  | figure figure calls => exact through (.figureAnswerAll ..) rfl
  | render name value rounding key => exact through (.refl _) (desk.session_render name value rounding key)
  | setCaching caching =>
    cases caching with
    | false => cases plain
    | true => exact ⟨desk.session, .refl _, rfl, fun _ => rfl⟩
  | setLocale key =>
    rcases desk.session.setLocale_cases key with ⟨_, same⟩ | ⟨_, same⟩
    · refine ⟨desk.session, .refl _, ?_⟩
      rw [handle, same]
      exact ⟨rfl, id⟩
    · apply through (.refl _)
      rw [handle, same]
      rfl
  | setUnclaimed | clearCache | register => cases plain
  | setZeroText | setDefaultPattern | loadLocale => exact ⟨desk.session, .refl _, rfl, id⟩
  | localeSettings | localeKeys | candidates | describe => exact through (.refl _) rfl

theorem cache_of_resets (desk : Desk) (resets : request.resets = true) :
    (desk.handle request).2.session.cache = [] := by
  cases request with
  | setCaching caching =>
    cases caching with
    | false => rfl
    | true => cases resets
  | setUnclaimed | clearCache | register => rfl
  | _ => cases resets

theorem cache_of_setting (desk : Desk) (setting : request.isSetting = true) :
    (desk.handle request).2.session.cache = desk.session.cache := by
  cases request with
  | setCaching caching =>
    cases caching with
    | false => cases setting
    | true => rfl
  | setLocale key =>
    rcases desk.session.setLocale_cases key with ⟨_, same⟩ | ⟨_, same⟩
    · rw [handle, same]
      rfl
    · rw [handle, same]
      rfl
  | loadLocale | setZeroText | setDefaultPattern => rfl
  | _ => cases setting

theorem after_append (desk : Desk) (requests more : List Request) :
    desk.after (requests ++ more) = (desk.after requests).after more :=
  List.foldl_append

theorem after_concat (desk : Desk) (requests : List Request) (request : Request) :
    desk.after (requests ++ [request]) = ((desk.after requests).handle request).2 := by
  simp [after]

/-- While the cache is not emptied, caching stays on and the cache grows at its end. -/
theorem after_grows (desk : Desk) (plain : ∀ request ∈ requests, request.resets = false)
    (caching : desk.session.caching = true) :
    (desk.after requests).session.caching = true ∧
      desk.session.cache <+: (desk.after requests).session.cache := by
  induction requests generalizing desk with
  | nil => exact ⟨caching, List.prefix_rfl⟩
  | cons request requests ih =>
    rw [List.forall_mem_cons] at plain
    obtain ⟨filled, fills, cache, stays⟩ := desk.handle_fills plain.1
    obtain ⟨still, grows⟩ := ih (desk.handle request).2 plain.2 (stays caching)
    refine ⟨still, ?_⟩
    rw [cache] at grows
    exact fills.grows.trans grows

/-- The pattern was compiled by one of the requests, with caching on, and none behind it emptied the
cache. -/
def CompiledSinceReset (desk : Desk) (requests : List Request) (pattern : String) : Prop :=
  ∃ before request later, requests = before ++ request :: later ∧
    (desk.after before).session.caching = true ∧
    pattern ∈ request.compiles (desk.after before).session ∧ ∀ next ∈ later, next.resets = false

theorem compiledSinceReset_concat :
    desk.CompiledSinceReset (requests ++ [request]) pattern ↔
      request.resets = false ∧ desk.CompiledSinceReset requests pattern ∨
      (desk.after requests).session.caching = true ∧
        pattern ∈ request.compiles (desk.after requests).session := by
  constructor
  · rintro ⟨before, compiling, later, order, caching, compiled, plain⟩
    rcases List.eq_nil_or_concat' later with rfl | ⟨later, last, rfl⟩
    · obtain ⟨rfl, rfl⟩ := List.append_singleton_inj.mp order
      exact Or.inr ⟨caching, compiled⟩
    · rw [← List.cons_append, ← List.append_assoc] at order
      obtain ⟨rfl, rfl⟩ := List.append_singleton_inj.mp order
      obtain ⟨plain, last⟩ := List.forall_mem_append.mp plain
      exact Or.inl ⟨last request (List.mem_singleton_self request), before, compiling, later, rfl, caching, compiled, plain⟩
  · rintro (⟨plain, before, compiling, later, rfl, caching, compiled, kept⟩ | ⟨caching, compiled⟩)
    · refine ⟨before, compiling, later ++ [request], by simp, caching, compiled, ?_⟩
      rw [List.forall_mem_append, List.forall_mem_singleton]
      exact ⟨kept, plain⟩
    · exact ⟨requests, request, [], rfl, caching, compiled, by simp⟩

/-- A session that does not cache holds nothing. -/
theorem off_after (desk : Desk) (start : desk.session.cache = []) (requests : List Request)
    (off : (desk.after requests).session.caching = false) : (desk.after requests).session.cache = [] := by
  induction requests using List.reverseRecOn with
  | nil => exact start
  | append_singleton requests request ih =>
    rw [after_concat] at off ⊢
    cases resets : request.resets with
    | true => exact cache_of_resets _ resets
    | false =>
      obtain ⟨filled, fills, cache, stays⟩ := (desk.after requests).handle_fills resets
      have before : (desk.after requests).session.caching = false := by
        rw [← Bool.not_eq_true]
        intro caching
        cases off.symm.trans (stays caching)
      rw [cache, fills.still (Or.inr before), ih before]

theorem mem_cached_after (desk : Desk) (start : desk.session.cache = []) (requests : List Request)
    (pattern : String) :
    pattern ∈ (desk.after requests).session.cachedPatterns ↔ desk.CompiledSinceReset requests pattern := by
  induction requests using List.reverseRecOn with
  | nil => simp [after, Session.cachedPatterns, start, CompiledSinceReset]
  | append_singleton requests request ih =>
    rw [after_concat, compiledSinceReset_concat, ← ih]
    cases resets : request.resets with
    | true =>
      have nothing : request.compiles (desk.after requests).session = [] := by
        rw [Request.compiles, Request.asks_of_resets resets, List.filter_nil]
      simp [Session.cachedPatterns, cache_of_resets _ resets, nothing]
    | false =>
      obtain ⟨filled, fills, cache, _⟩ := (desk.after requests).handle_fills resets
      rw [Session.cachedPatterns, cache, ← Session.cachedPatterns, fills.member, Request.compiles]
      simp

theorem nodup_cached_after (desk : Desk) (start : desk.session.cache = []) (requests : List Request) :
    (desk.after requests).session.cachedPatterns.Nodup := by
  induction requests using List.reverseRecOn with
  | nil => simp [after, Session.cachedPatterns, start]
  | append_singleton requests request ih =>
    rw [after_concat]
    cases resets : request.resets with
    | true => simp [Session.cachedPatterns, cache_of_resets _ resets]
    | false =>
      obtain ⟨filled, fills, cache, _⟩ := (desk.after requests).handle_fills resets
      rw [Session.cachedPatterns, cache]
      exact fills.distinct ih

/-- What the cache of a session holds after the requests to a desk. -/
structure CacheHistory (desk : Desk) (requests : List Request) : Prop where
  off : (desk.after requests).session.caching = false → (desk.after requests).session.cache = []
  held : ∀ pattern, pattern ∈ (desk.after requests).session.cachedPatterns ↔
    desk.CompiledSinceReset requests pattern
  /-- Each pattern counts once, however often it was compiled. -/
  count : (desk.after requests).session.cache.length =
    {pattern | desk.CompiledSinceReset requests pattern}.ncard
  /-- Until the cache is emptied a pattern keeps the artifact of its first compilation. -/
  same : ∀ before request later pattern, requests = before ++ request :: later →
    (desk.after before).session.caching = true →
    pattern ∈ request.compiles (desk.after before).session → (∀ next ∈ later, next.resets = false) →
    ∃ artifact,
      ((desk.after before).handle request).2.session.cache.lookup pattern = some artifact ∧
      (∀ name, request = .compile pattern name →
        ((desk.after before).handle request).1 = .compiled (.ok artifact)) ∧
      (desk.after requests).session.compile pattern = (.ok artifact, (desk.after requests).session)
  /-- What compiles nothing and does not empty the cache leaves it as it was. -/
  idle : ∀ request, request.resets = false → request.compiles (desk.after requests).session = [] →
    ((desk.after requests).handle request).2.session.cache = (desk.after requests).session.cache
  failed : ∀ pattern error, ((desk.after requests).session.compile pattern).1 = .error error →
    ((desk.after requests).session.compile pattern).2 = (desk.after requests).session
  unknown : ∀ value pattern rounding key failure,
    (desk.after requests).session.localeSettings key = .error failure →
    ((desk.after requests).session.formatWith value pattern rounding key).2 = (desk.after requests).session
  setting : ∀ request, request.isSetting = true →
    ((desk.after requests).handle request).2.session.cache = (desk.after requests).session.cache

section History

variable (desk : Desk) (start : desk.session.cache = []) (requests : List Request)
include start

theorem count_after :
    (desk.after requests).session.cache.length =
      {pattern | desk.CompiledSinceReset requests pattern}.ncard := by
  have held : {pattern | desk.CompiledSinceReset requests pattern} =
      ((desk.after requests).session.cachedPatterns.toFinset : Set String) := by
    ext pattern
    rw [List.coe_toFinset, Set.mem_ofPred_eq, Set.mem_ofPred_eq, desk.mem_cached_after start]
  rw [held, Set.ncard_coe_finset, List.toFinset_card_of_nodup (desk.nodup_cached_after start requests),
    Session.cachedPatterns, List.length_map]

end History

/-- The artifact of a compiled pattern is answered again until the cache is emptied. -/
theorem compile_after (desk : Desk) (caching : desk.session.caching = true)
    (compiled : pattern ∈ request.compiles desk.session) (later : List Request)
    (kept : ∀ next ∈ later, next.resets = false) :
    ∃ artifact, (desk.handle request).2.session.cache.lookup pattern = some artifact ∧
      ((desk.handle request).2.after later).session.compile pattern =
        (.ok artifact, ((desk.handle request).2.after later).session) := by
  have plain : request.resets = false := by
    rw [← Bool.not_eq_true]
    intro resets
    rw [Request.compiles, Request.asks_of_resets resets] at compiled
    cases compiled
  obtain ⟨filled, fills, cache, stays⟩ := desk.handle_fills plain
  have known : pattern ∈ filled.cachedPatterns := (fills.member pattern).mpr (Or.inr ⟨caching, compiled⟩)
  obtain ⟨artifact, held⟩ := Session.mem_cachedPatterns.mp known
  rw [← cache] at held
  obtain ⟨still, grows⟩ := (desk.handle request).2.after_grows kept (stays caching)
  exact ⟨artifact, held, Session.compile_of_cached still (grows.lookup_eq_some held)⟩

theorem reply_compile (desk : Desk) (pattern : String) (name : Option String) :
    (desk.handle (.compile pattern name)).1 = .compiled (desk.session.compile pattern).1 := by
  rw [handle]
  split
  next compiled => rw [compiled]
  next compiled => rw [compiled]

end Desk

namespace Session

/-- The cache of a session holds just what was compiled since it was last emptied while caching was on, one
artifact for each pattern. -/
theorem cache_contents (session : Session) (fresh : session.Fresh) (requests : List Request) :
    Desk.CacheHistory ⟨session, []⟩ requests := by
  have start := fresh.cache_eq_nil
  refine ⟨Desk.off_after _ start requests, Desk.mem_cached_after _ start requests,
    Desk.count_after _ start requests, ?_, ?_, ?_, ?_, ?_⟩
  · rintro before request later pattern rfl caching compiled kept
    obtain ⟨artifact, held, again⟩ := Desk.compile_after _ caching compiled later kept
    refine ⟨artifact, held, ?_, ?_⟩
    · rintro name rfl
      rw [Desk.session_compile] at held
      rw [Desk.reply_compile, compile_answer caching held]
    · rw [Desk.after_append, Desk.after_cons]
      exact again
  · intro request plain nothing
    obtain ⟨filled, fills, cache, _⟩ := Desk.handle_fills (Desk.after ⟨session, []⟩ requests) plain
    exact cache.trans (fills.still (Or.inl nothing))
  · intro pattern error refused
    exact compile_of_error refused
  · intro value pattern rounding key failure unknown
    rw [formatWith, unknown]
  · intro request setting
    exact Desk.cache_of_setting _ setting

/-- A pattern compiled twice, a default pattern, a pattern that is refused and an emptied cache. -/
theorem cache_contents_emptied :
    let requests : List Request :=
      [.compile "0,0" none, .clearCache, .compile "0.0" none, .compile "0.[0" none, .format 1.5 ""]
    Desk.CacheHistory ⟨.new, []⟩ requests ∧
      {pattern | Desk.CompiledSinceReset ⟨.new, []⟩ requests pattern}.ncard = 1 := by
  intro requests
  have history := cache_contents .new .new requests
  refine ⟨history, history.count.symm.trans ?_⟩
  decide +kernel

end Session

end NumberPattern
