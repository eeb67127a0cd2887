import NumberPattern.Figure

/-! Requests to a session, one after the other. A desk is a session together with the artifacts that
were put aside under a name. -/

namespace NumberPattern

structure Desk where
  session : Session
  held : List (String × Artifact) := []

inductive FigureCall where
  | set (value : Float)
  | format (pattern : String)
  | formatRounded (pattern : String) (rounding : Float → Float)

inductive FigureReply where
  | value (value : Float)
  | rendered (result : Except Failure String)

inductive Request where
  | format (value : Float) (pattern : String)
  | formatWith (value : Float) (pattern : String) (rounding : Float → Float) (locale : String)
  /-- The artifact is put aside when a name is given. -/
  | compile (pattern : String) (name : Option String)
  | render (name : String) (value : Float) (rounding : Float → Float) (locale : String)
  /-- Compile a pattern and compare the result with an artifact put aside. -/
  | compare (pattern name : String)
  | figure (figure : Figure) (calls : List FigureCall)
  | setZeroText (text : Option String)
  | setDefaultPattern (pattern : Option String)
  | setUnclaimed (unclaimed : Unclaimed)
  | setCaching (caching : Bool)
  | clearCache
  | loadLocale (key : String) (locale : Locale)
  | setLocale (key : String)
  | localeSettings (key : String)
  | localeKeys
  | register (claimant : Claimant)
  | candidates (characters : List Char)
  | describe

structure Comparison where
  /-- The very same artifact. -/
  same : Bool
  /-- Equal plans. -/
  equal : Bool
deriving DecidableEq, Repr

inductive Reply where
  | done
  | rendered (result : Except Failure String)
  | compiled (result : Except Failure Artifact)
  | compared (result : Except Failure Comparison)
  | figure (replies : List FigureReply)
  | selected (result : Except Failure Unit)
  | settings (result : Except Failure Locale)
  | keys (keys : List String)
  | registered (id : ClaimantId)
  | candidates (answers : List (Bool × List ClaimantId))
  | description (text : String)
  /-- No artifact was put aside under the name. -/
  | notHeld (name : String)

def Artifact.compareWith (artifact held : Artifact) : Comparison where
  same := artifact.serial == held.serial
  equal := artifact.plan == held.plan

def Figure.answer (figure : Figure) (session : Session) :
    FigureCall → FigureReply × Figure × Session
  | .set value => (.value value, { figure with value := value }, session)
  | .format pattern =>
      let (result, session) := figure.format session pattern
      (.rendered result, figure, session)
  | .formatRounded pattern rounding =>
      let (result, session) := figure.formatRounded session pattern rounding
      (.rendered result, figure, session)

def Figure.answerAll (figure : Figure) (session : Session) :
    List FigureCall → List FigureReply × Session
  | [] => ([], session)
  | call :: calls =>
      let (reply, figure, session) := figure.answer session call
      let (replies, session) := figure.answerAll session calls
      (reply :: replies, session)

namespace Desk

def withSession (desk : Desk) (session : Session) : Desk := { desk with session := session }

/-- A name given again stands for the new artifact. -/
def hold (desk : Desk) (name : Option String) (artifact : Artifact) : Desk :=
  match name with
  | some name => { desk with held := (name, artifact) :: desk.held }
  | none => desk

def handle (desk : Desk) : Request → Reply × Desk
  | .format value pattern =>
      let (result, session) := desk.session.format value pattern
      (.rendered result, desk.withSession session)
  | .formatWith value pattern rounding locale =>
      let (result, session) := desk.session.formatWith value pattern rounding locale
      (.rendered result, desk.withSession session)
  | .compile pattern name =>
      match desk.session.compile pattern with
      | (.ok artifact, session) =>
          (.compiled (.ok artifact), (desk.withSession session).hold name artifact)
      | (.error error, session) => (.compiled (.error error), desk.withSession session)
  | .render name value rounding locale =>
      match desk.held.lookup name with
      | some artifact => (.rendered (desk.session.render artifact value rounding locale), desk)
      | none => (.notHeld name, desk)
  | .compare pattern name =>
      match desk.session.compile pattern, desk.held.lookup name with
      | (.error error, session), _ => (.compared (.error error), desk.withSession session)
      | (.ok artifact, session), some held =>
          (.compared (.ok (artifact.compareWith held)), desk.withSession session)
      | (.ok _, session), none => (.notHeld name, desk.withSession session)
  | .figure figure calls =>
      let (replies, session) := figure.answerAll desk.session calls
      (.figure replies, desk.withSession session)
  | .setZeroText text => (.done, desk.withSession (desk.session.setZeroText text))
  | .setDefaultPattern pattern => (.done, desk.withSession (desk.session.setDefaultPattern pattern))
  | .setUnclaimed unclaimed => (.done, desk.withSession (desk.session.setUnclaimed unclaimed))
  | .setCaching caching => (.done, desk.withSession (desk.session.setCaching caching))
  | .clearCache => (.done, desk.withSession desk.session.clearCache)
  | .loadLocale key locale => (.done, desk.withSession (desk.session.loadLocale key locale))
  | .setLocale key =>
      let (result, session) := desk.session.setLocale key
      (.selected result, desk.withSession session)
  | .localeSettings key => (.settings (desk.session.localeSettings key), desk)
  | .localeKeys => (.keys desk.session.locales.keys, desk)
  | .register claimant =>
      (.registered desk.session.lexicon.nextId, desk.withSession (desk.session.register claimant))
  | .candidates characters =>
      let lexicon := desk.session.lexicon
      (.candidates (characters.map fun c => (lexicon.isTrigger c, lexicon.candidates c)), desk)
  | .describe => (.description desk.session.describe, desk)

/-- The replies in order, each with the desk after it. -/
def handleAll (desk : Desk) : List Request → List (Reply × Desk)
  | [] => []
  | request :: requests =>
      let (reply, desk) := desk.handle request
      (reply, desk) :: desk.handleAll requests

end Desk

end NumberPattern
