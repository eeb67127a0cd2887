import NumberPattern.Session.Setup

/-! A session made from a setup: it loads the further locales, then selects its locale, and takes over the
rest of the setup. -/

namespace NumberPattern

/-- The further locales of a setup that can be decoded. -/
def Setup.loads (setup : Setup) : List (String × Locale) :=
  setup.locales.filterMap fun entry => (Locale.decode entry.2).toOption.map (entry.1, ·)

namespace Session

def loadAll (session : Session) (loads : List (String × Locale)) : Session :=
  { session with locales := loads.foldl (fun book load => book.insert load.1 load.2) session.locales }

theorem loadEntries_eq_ok {entries : List (String × Document.Value)} {session loaded : Session}
    (made : entries.foldlM loadEntry session = .ok loaded) :
    loaded = session.loadAll
      (entries.filterMap fun entry => (Locale.decode entry.2).toOption.map (entry.1, ·)) := by
  induction entries generalizing session with
  | nil =>
    cases made
    rfl
  | cons entry entries ih =>
    rw [List.foldlM_cons, loadEntry] at made
    rw [List.filterMap_cons]
    cases decoded : Locale.decode entry.2 with
    | error fault =>
      rw [decoded] at made
      cases made
    | ok locale =>
      rw [decoded] at made
      exact ih made

theorem ofSetup_eq_ok {setup : Setup} {session : Session} (made : ofSetup setup = .ok session) :
    ∃ start selected, start = (ofLexicon (Lexicon.standard setup.unclaimed)).loadAll setup.loads ∧
      start.setLocale setup.locale = (.ok (), selected) ∧
      session = ((selected.setDefaultPattern (some setup.defaultPattern)).setZeroText
        setup.zeroText).setCaching setup.caching := by
  simp only [ofSetup] at made
  cases loaded : setup.locales.foldlM loadEntry (ofLexicon (Lexicon.standard setup.unclaimed)) with
  | error fault =>
    rw [loaded] at made
    cases made
  | ok start =>
    rw [loaded] at made
    simp only [Bind.bind, Except.bind] at made
    split at made
    · cases made
    next selected chosen =>
      cases made
      exact ⟨start, selected, loadEntries_eq_ok loaded, chosen, rfl⟩

end Session

end NumberPattern
