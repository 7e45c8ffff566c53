import Uumi.Contracts.Browser
import Uumi.Foundations.Documents

/-! The browser repository: the documents of sessions, and the actions and captures under them. -/
namespace Uumi.Browser
open Uumi.Contracts Uumi.Core Uumi.Foundations

/-- Sessions under organisation and id, actions and captures under those of their session and their own. -/
structure BrowserStore where
  sessions : Collection (Identifier × Identifier) SessionFields
  actions : Collection (Identifier × Identifier × Identifier) BrowserActionRecord
  captures : Collection (Identifier × Identifier × Identifier) SecureCaptureResult

namespace Repository
variable (store : BrowserStore)

def get (o id : Identifier) : Except Error BrowserSession := do
  let document ← required (store.sessions (o, id)) (.resourceNotFound s!"browser session {id.text} was not found")
  BrowserSession.modelValidate document

def create (session : BrowserSession) : Except Error (SessionFields × BrowserStore) :=
  match store.sessions (session.organisationId, session.id) with
  | some document => do
    let current ← BrowserSession.modelValidate document
    raiseIf (current ≠ session) (.resourceConflict s!"browser session {session.id.text} already exists")
    return (current.toSessionFields, store)
  | none =>
    .ok (session.toSessionFields, { store with
      sessions := store.sessions.set (session.organisationId, session.id) session.toSessionFields })

def update (o id : Identifier) (expectedRevision : Nat) (changed : SessionFields) :
    Except Error (SessionFields × BrowserStore) := do
  let current ← get store o id
  raiseIf (current.revision ≠ expectedRevision)
    (.resourceConflict s!"browser expected revision {expectedRevision}, found {current.revision}")
  raiseIf (changed.revision ≠ expectedRevision + 1)
    (.storageIntegrity "browser update did not advance revision once")
  raiseIf (changed.id ≠ current.id ∨ changed.organisationId ≠ current.organisationId)
    (.storageIntegrity "browser update changed session identity")
  return (changed, { store with sessions := store.sessions.set (o, id) changed })

/-- The result and the session are written at once. A result that exists is an error, whether it is the same or not. -/
def completeCapture (current : BrowserSession) (changed : SessionFields) (result : SecureCaptureResult) :
    Except Error (SessionFields × BrowserStore) := do
  let stored ← get store current.organisationId current.id
  raiseIf (stored ≠ current) (.resourceConflict "browser changed before capture completion")
  raiseIf (changed.revision ≠ current.revision + 1)
    (.storageIntegrity "capture completion did not advance revision once")
  match store.captures (result.organisationId, result.sessionId, result.id) with
  | some previous =>
    raiseIf (previous ≠ result) (.resourceConflict "secure capture result changed")
    .error (.resourceConflict "secure capture session transition was not recorded")
  | none =>
    return (changed, { store with
      captures := store.captures.set (result.organisationId, result.sessionId, result.id) result
      sessions := store.sessions.set (current.organisationId, current.id) changed })

def authorised (current : BrowserSession) (action : RecordedAction) (now : AwareDatetime) : BrowserActionRecord where
  id := action.id
  organisationId := current.organisationId
  sessionId := current.id
  action := action
  status := .authorized
  authorisedAt := now

def beginAction (current : BrowserSession) (changed : SessionFields) (action : RecordedAction) (now : AwareDatetime) :
    Except Error (SessionFields × BrowserStore) := do
  let record := authorised current action now
  let stored ← get store current.organisationId current.id
  raiseIf (stored ≠ current) (.resourceConflict "browser changed before action authorisation")
  match store.actions (current.organisationId, current.id, action.id) with
  | some previous =>
    raiseIf (previous = record)
      (.resourceConflict "browser action was authorised but has no execution outcome")
    .error (.resourceConflict s!"browser action {action.id.text} already exists")
  | none =>
    return (changed, { store with
      actions := store.actions.set (current.organisationId, current.id, action.id) record
      sessions := store.sessions.set (current.organisationId, current.id) changed })

variable {store}

/-- A session is read from its document, with its texts stripped. -/
theorem get_ok {o id : Identifier} {session : BrowserSession} :
    get store o id = .ok session ↔
      ∃ document, store.sessions (o, id) = some document ∧ session.toSessionFields = document.stripped := by
  simp only [get, required_bind_ok, BrowserSession.modelValidate_ok]

/-- A session that is read was valid. -/
theorem get_returns {o id : Identifier} : (∃ session, get store o id = .ok session) ↔
    ∃ document, store.sessions (o, id) = some document ∧ document.stripped.Valid := by
  constructor
  · rintro ⟨session, h⟩
    obtain ⟨document, hread, heq⟩ := get_ok.mp h
    refine ⟨document, hread, ?_⟩
    rw [← heq]
    exact session.valid
  · rintro ⟨document, hread, hvalid⟩
    obtain ⟨session, h⟩ := (BrowserSession.readable_iff document).mpr hvalid
    exact ⟨session, get_ok.mpr ⟨document, hread, BrowserSession.modelValidate_ok.mp h⟩⟩

end Repository
end Uumi.Browser
