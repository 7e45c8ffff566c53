import Uumi.Browser.Service

/-! What an operation that returns did to the session that it names, and that it left every other session alone. -/
namespace Uumi.Browser
open Uumi.Contracts Uumi.Core Uumi.Foundations

/-- Every session is stored under its own organisation and id. -/
def Placed (store : BrowserStore) : Prop :=
  ∀ key session, store.sessions key = some session → (session.organisationId, session.id) = key

namespace Operation

def target : Operation → Identifier × Identifier
  | create session => (session.organisationId, session.id)
  | completeCapture result _ => (result.organisationId, result.sessionId)
  | attach o id .. | start o id .. | rebindFence o id .. | armCapture o id .. | armHumanCapture o id .. | freeze o id ..
  | takeover o id .. | releaseTakeover o id .. | authorizeAction o id .. | reprovision o id .. | terminate o id .. => (o, id)

def expected : Operation → Nat
  | create _ => 0
  | completeCapture _ revision => revision
  | attach _ _ revision .. | start _ _ revision | rebindFence _ _ revision _ | armCapture _ _ revision
  | armHumanCapture _ _ revision | freeze _ _ revision | takeover _ _ revision _ | releaseTakeover _ _ revision _
  | authorizeAction _ _ revision _ | reprovision _ _ revision _ | terminate _ _ revision => revision

def check (operation : Operation) (current : BrowserSession) : Except Error Unit :=
  match operation with
  | create _ => .error (.resourceConflict "a session that exists is not created")
  | attach .. => Service.checkStatus [.provisioning] "only a provisioning browser can attach a VM" current
  | start .. => Service.checkStatus [.ready, .paused] "browser is not ready to start" current
  | rebindFence _ _ _ fencingToken => do
    Service.checkStatus [.ready, .paused] "only an inactive browser can accept a renewed run fence" current
    raiseIf (fencingToken ≤ current.fencingToken) (.resourceConflict "browser fence must advance monotonically")
  | armCapture .. => Service.checkStatus [.running] "secure capture can only arm a running browser" current
  | armHumanCapture .. =>
    Service.checkStatus [.takeover, .paused] "human secure input requires takeover or a paused session" current
  | completeCapture .. => Service.checkStatus [.capturing] "secure capture barrier is not armed" current
  | takeover .. =>
    Service.checkStatus [.running, .paused] "browser cannot enter takeover from its current state" current
  | releaseTakeover _ _ _ subject => raiseIf (current.status ≠ .takeover ∨ current.takeoverSubject ≠ some subject)
      (.resourceConflict "only the takeover owner can release the browser")
  | authorizeAction _ id _ action => Service.checkAction id action current
  | reprovision .. => Service.checkStatus [.terminated] "only a terminated browser can be reprovisioned" current
  | freeze .. | terminate .. => .ok ()

def edit (operation : Operation) (clock : Clock) (session : SessionFields) : SessionFields :=
  match operation with
  | create _ => session
  | attach _ _ _ worker address =>
    { session with status := .ready, workerInstance := some worker, internalAddress := some address }
  | start .. => Service.unbarred session
  | rebindFence _ _ _ fencingToken => { session with fencingToken }
  | armCapture .. | armHumanCapture .. => Service.barred .capturing session
  | completeCapture .. => Service.resumed session
  | freeze .. => Service.barred .paused session
  | takeover _ _ _ subject => { Service.barred .takeover session with takeoverSubject := some subject }
  | releaseTakeover .. => { Service.barred .paused session with takeoverSubject := none }
  | authorizeAction .. => Service.counted session
  | reprovision _ _ _ provision => Service.reprovisioned provision session
  | terminate .. => { Service.barred .terminated session with terminatedAt := some clock.recorded }

def isReprovision : Operation → Bool
  | reprovision .. => true
  | _ => false

/-- The current session passes every guard: the revision, the expiry and the guard of the operation. -/
structure Permitted (operation : Operation) (clock : Clock) (current : BrowserSession) : Prop where
  revision : current.revision = operation.expected
  live : operation.isReprovision = false → clock.checked < current.expiresAt
  checked : operation.check current = .ok ()

end Operation

/-- What an operation does to the document under a key. -/
inductive Change (operation : Operation) (clock : Clock) (key : Identifier × Identifier) :
    Option SessionFields → Option SessionFields → Prop
  | kept (stored : Option SessionFields) : Change operation clock key stored stored
  | created (session : BrowserSession) (is_create : operation = .create session) (is_target : operation.target = key)
      (provisioning : session.status = .provisioning) (model : session.modelPaused = true)
      (recording : session.recordingPaused = true) : Change operation clock key none (some session.toSessionFields)
  | changed (document : SessionFields) (current : BrowserSession) (is_target : operation.target = key)
      (read : current.toSessionFields = document.stripped) (permitted : operation.Permitted clock current) :
      Change operation clock key (some document)
        (some (Service.change clock current.toSessionFields (operation.edit clock)))

namespace Service
variable {store store' : BrowserStore} {clock : Clock} {o id : Identifier} {revision : Nat} {written : SessionFields}

/-- The current session is the stored one, at the expected revision and before its expiry. -/
theorem current_ok {session : BrowserSession} : current store clock o id revision = .ok session ↔
    Repository.get store o id = .ok session ∧ session.revision = revision ∧ clock.checked < session.expiresAt := by
  simp only [current, checkRevision]
  rw [bind_ok]
  constructor
  · rintro ⟨read, hread, h⟩
    simp only [unit_bind_ok, raiseIf_ok, not_not, pure_ok, AwareDatetime.not_le] at h
    obtain ⟨hrev, hlive, rfl⟩ := h
    exact ⟨hread, hrev, hlive⟩
  · rintro ⟨hread, hrev, hlive⟩
    refine ⟨session, hread, ?_⟩
    simp only [unit_bind_ok, raiseIf_ok, not_not, pure_ok, AwareDatetime.not_le]
    exact ⟨hrev, hlive, trivial⟩

/-- An update of the session that was read goes through. -/
theorem update_ok {session : BrowserSession} {edit : SessionFields → SessionFields}
    (hread : Repository.get store o id = .ok session) (hrev : session.revision = revision)
    (hid : (edit session.toSessionFields).id = session.id)
    (ho : (edit session.toSessionFields).organisationId = session.organisationId) :
    Repository.update store o id revision (change clock session.toSessionFields edit) =
      .ok (change clock session.toSessionFields edit,
        { store with sessions := store.sessions.set (o, id) (change clock session.toSessionFields edit) }) := by
  rw [Repository.update, hread]
  simp only [ok_bind, unit_bind_ok, raiseIf_ok, not_not, not_or, pure_ok]
  refine ⟨hrev, ?_, ⟨hid, ho⟩, trivial⟩
  rw [← hrev]
  rfl

/-- An operation of the common shape returns exactly when the session passes the guards. -/
theorem act_ok {check : BrowserSession → Except Error Unit} {edit : SessionFields → SessionFields}
    (hid : ∀ session, (edit session).id = session.id)
    (ho : ∀ session, (edit session).organisationId = session.organisationId) :
    act store clock o id revision check edit = .ok (written, store') ↔
      ∃ session, Repository.get store o id = .ok session ∧ session.revision = revision ∧
        clock.checked < session.expiresAt ∧ check session = .ok () ∧
        written = change clock session.toSessionFields edit ∧
        store' = { store with sessions := store.sessions.set (o, id) written } := by
  rw [act, bind_ok]
  constructor
  · rintro ⟨session, hcurrent, h⟩
    obtain ⟨hread, hrev, hlive⟩ := current_ok.mp hcurrent
    rw [unit_bind_ok, update_ok hread hrev (hid _) (ho _), Except.ok.injEq, Prod.mk.injEq] at h
    obtain ⟨hcheck, rfl, rfl⟩ := h
    exact ⟨session, hread, hrev, hlive, hcheck, rfl, rfl⟩
  · rintro ⟨session, hread, hrev, hlive, hcheck, rfl, rfl⟩
    refine ⟨session, current_ok.mpr ⟨hread, hrev, hlive⟩, ?_⟩
    rw [unit_bind_ok]
    exact ⟨hcheck, update_ok hread hrev (hid _) (ho _)⟩

end Service

section
variable {metadataUrl : String → String} {store store' : BrowserStore} {clock : Clock} {operation : Operation}
  {written : SessionFields}

/-- A session under its own key is written back under it. -/
theorem Placed.key_of_read (placed : Placed store) {o id : Identifier} {session : BrowserSession}
    (hread : Repository.get store o id = .ok session) : (session.organisationId, session.id) = (o, id) := by
  obtain ⟨document, hstored, heq⟩ := Repository.get_ok.mp hread
  rw [heq]
  exact placed (o, id) document hstored

private theorem written_change {o id : Identifier} {session : BrowserSession} (htarget : operation.target = (o, id))
    (hread : Repository.get store o id = .ok session) (hpermitted : operation.Permitted clock session)
    (hsessions : store'.sessions =
      store.sessions.set (o, id) (Service.change clock session.toSessionFields (operation.edit clock)))
    (key : Identifier × Identifier) : Change operation clock key (store.sessions key) (store'.sessions key) := by
  obtain ⟨document, hstored, heq⟩ := Repository.get_ok.mp hread
  rw [hsessions]
  by_cases hkey : key = (o, id)
  · subst hkey
    rw [hstored, Collection.set_same]
    exact .changed document session htarget heq hpermitted
  · rw [Collection.set_of_ne hkey]
    exact .kept _

/-- No operation changes the ids of a session. -/
theorem Operation.edit_ids (operation : Operation) (clock : Clock) (session : SessionFields) :
    (operation.edit clock session).id = session.id ∧
      (operation.edit clock session).organisationId = session.organisationId := by
  cases operation with
  | completeCapture =>
    change (Service.resumed session).id = session.id ∧ (Service.resumed session).organisationId = session.organisationId
    rcases Service.resumed_eq session with h | h
    · rw [h.2]
      exact ⟨rfl, rfl⟩
    · rw [h.2]
      exact ⟨rfl, rfl⟩
  | _ => exact ⟨rfl, rfl⟩

private theorem act_change (operation : Operation) {o id : Identifier} (htarget : operation.target = (o, id))
    (h : Service.act store clock o id operation.expected operation.check (operation.edit clock) = .ok (written, store'))
    (key : Identifier × Identifier) : Change operation clock key (store.sessions key) (store'.sessions key) := by
  obtain ⟨session, hread, hrev, hlive, hchecked, rfl, rfl⟩ := (Service.act_ok
    (fun session => (operation.edit_ids clock session).1) fun session => (operation.edit_ids clock session).2).mp h
  exact written_change htarget hread ⟨hrev, fun _ => hlive, hchecked⟩ rfl key

/-- An operation of the common shape returns when the session passes its guards. -/
theorem act_returns (operation : Operation) {o id : Identifier} {session : BrowserSession}
    (hread : Repository.get store o id = .ok session) (hpermitted : operation.Permitted clock session)
    (hlive : clock.checked < session.expiresAt) :
    Service.act store clock o id operation.expected operation.check (operation.edit clock) =
      .ok (Service.change clock session.toSessionFields (operation.edit clock), { store with
        sessions := store.sessions.set (o, id)
          (Service.change clock session.toSessionFields (operation.edit clock)) }) :=
  (Service.act_ok (fun session => (operation.edit_ids clock session).1)
    fun session => (operation.edit_ids clock session).2).mpr
      ⟨session, hread, hpermitted.revision, hlive, hpermitted.checked, rfl, rfl⟩

private theorem create_change {session : BrowserSession}
    (h : Service.create store session = .ok (written, store')) (key : Identifier × Identifier) :
    Change (.create session) clock key (store.sessions key) (store'.sessions key) := by
  simp only [Service.create, unit_bind_ok, raiseIf_ok, not_not, not_or, Bool.not_eq_false] at h
  obtain ⟨hprovisioning, ⟨hmodel, hrecording⟩, h⟩ := h
  unfold Repository.create at h
  split at h
  · rw [bind_ok] at h
    obtain ⟨current, -, h⟩ := h
    simp only [unit_bind_ok, pure_ok, Prod.mk.injEq] at h
    obtain ⟨-, -, rfl⟩ := h
    exact .kept _
  · rename_i hnone
    cases h
    by_cases hkey : key = (session.organisationId, session.id)
    · subst hkey
      rw [hnone]
      change Change _ _ _ none (Collection.set _ _ _ _)
      rw [Collection.set_same]
      exact .created session rfl rfl hprovisioning hmodel hrecording
    · change Change _ _ _ _ (Collection.set _ _ _ _)
      rw [Collection.set_of_ne hkey]
      exact .kept _

private theorem completeCapture_change (placed : Placed store) {result : SecureCaptureResult} {revision : Nat}
    (h : Service.completeCapture store clock revision result = .ok (written, store')) (key : Identifier × Identifier) :
    Change (.completeCapture result revision) clock key (store.sessions key) (store'.sessions key) := by
  rw [Service.completeCapture, bind_ok] at h
  obtain ⟨session, hcurrent, h⟩ := h
  obtain ⟨hread, hrev, hlive⟩ := Service.current_ok.mp hcurrent
  rw [unit_bind_ok] at h
  obtain ⟨hchecked, h⟩ := h
  rw [Repository.completeCapture, bind_ok] at h
  obtain ⟨stored, -, h⟩ := h
  simp only [unit_bind_ok] at h
  obtain ⟨-, -, h⟩ := h
  split at h
  · rw [unit_bind_ok] at h
    cases h.2
  · cases h
    have hpermitted : (Operation.completeCapture result revision).Permitted clock session :=
      ⟨hrev, fun _ => hlive, hchecked⟩
    refine written_change rfl hread hpermitted ?_ key
    rw [← placed.key_of_read hread]
    rfl

/-- An action that is authorised passed the guards of the session. -/
theorem authorizeAction_ok {o id : Identifier} {revision : Nat} {action : BrowserAction}
    (h : Service.authorizeAction store clock o id revision metadataUrl action = .ok (written, store')) :
    ∃ session, Repository.get store o id = .ok session ∧
      (Operation.authorizeAction o id revision action).Permitted clock session ∧
      store.actions (session.organisationId, session.id, action.id) = none ∧
      store'.sessions = store.sessions.set (session.organisationId, session.id)
        (Service.change clock session.toSessionFields Service.counted) := by
  rw [Service.authorizeAction, bind_ok] at h
  obtain ⟨session, hcurrent, h⟩ := h
  obtain ⟨hread, hrev, hlive⟩ := Service.current_ok.mp hcurrent
  rw [unit_bind_ok] at h
  obtain ⟨hchecked, h⟩ := h
  rw [Repository.beginAction, bind_ok] at h
  obtain ⟨stored, -, h⟩ := h
  simp only [unit_bind_ok] at h
  obtain ⟨-, h⟩ := h
  split at h
  · rw [unit_bind_ok] at h
    cases h.2
  · rename_i hnone
    cases h
    exact ⟨session, hread, ⟨hrev, fun _ => hlive, hchecked⟩, hnone, rfl⟩

private theorem authorizeAction_change (placed : Placed store) {o id : Identifier} {revision : Nat}
    {action : BrowserAction}
    (h : Service.authorizeAction store clock o id revision metadataUrl action = .ok (written, store'))
    (key : Identifier × Identifier) :
    Change (.authorizeAction o id revision action) clock key (store.sessions key) (store'.sessions key) := by
  obtain ⟨session, hread, hpermitted, -, hsessions⟩ := authorizeAction_ok h
  refine written_change rfl hread hpermitted ?_ key
  rw [← placed.key_of_read hread]
  exact hsessions

/-- An action that is not recorded yet is authorised when the session passes the guards. -/
theorem authorizeAction_returns (placed : Placed store) {o id : Identifier} {revision : Nat} {action : BrowserAction}
    {session : BrowserSession} (hread : Repository.get store o id = .ok session)
    (hpermitted : (Operation.authorizeAction o id revision action).Permitted clock session)
    (hnone : store.actions (o, id, action.id) = none) :
    Service.authorizeAction store clock o id revision metadataUrl action =
      .ok (Service.change clock session.toSessionFields Service.counted, { store with
        actions := store.actions.set (o, id, action.id)
          (Repository.authorised session (Service.recorded metadataUrl action) clock.recorded)
        sessions := store.sessions.set (o, id) (Service.change clock session.toSessionFields Service.counted) }) := by
  have hkey := placed.key_of_read hread
  have hcurrent : Service.current store clock o id revision = .ok session :=
    Service.current_ok.mpr ⟨hread, hpermitted.revision, hpermitted.live rfl⟩
  rw [Service.authorizeAction, hcurrent, ok_bind, unit_bind_ok]
  refine ⟨hpermitted.checked, ?_⟩
  rw [Repository.beginAction, show session.organisationId = o from congrArg Prod.fst hkey,
    show session.id = id from congrArg Prod.snd hkey, hread, ok_bind, unit_bind_ok]
  refine ⟨(raiseIf_ok ..).mpr (not_not.mpr rfl), ?_⟩
  rw [show (Service.recorded metadataUrl action).id = action.id from rfl, hnone]
  rfl

/-- A permitted reprovisioning returns what it writes. -/
theorem reprovision_returns {o id : Identifier} {revision : Nat} {provision : Service.Provision}
    {session : BrowserSession} (hread : Repository.get store o id = .ok session)
    (hpermitted : (Operation.reprovision o id revision provision).Permitted clock session) :
    Service.reprovision store clock o id revision provision =
      .ok (Service.change clock session.toSessionFields (Service.reprovisioned provision), { store with
        sessions := store.sessions.set (o, id)
          (Service.change clock session.toSessionFields (Service.reprovisioned provision)) }) := by
  rw [Service.reprovision, hread, ok_bind, unit_bind_ok, unit_bind_ok]
  exact ⟨(raiseIf_ok ..).mpr (not_not.mpr hpermitted.revision), hpermitted.checked,
    Service.update_ok hread hpermitted.revision rfl rfl⟩

private theorem reprovision_change {o id : Identifier} {revision : Nat} {provision : Service.Provision}
    (h : Service.reprovision store clock o id revision provision = .ok (written, store'))
    (key : Identifier × Identifier) :
    Change (.reprovision o id revision provision) clock key (store.sessions key) (store'.sessions key) := by
  rw [Service.reprovision, bind_ok] at h
  obtain ⟨session, hread, h⟩ := h
  simp only [unit_bind_ok, Service.checkRevision, raiseIf_ok, not_not] at h
  obtain ⟨hrev, hchecked, h⟩ := h
  rw [Service.update_ok hread hrev rfl rfl, Except.ok.injEq, Prod.mk.injEq] at h
  obtain ⟨rfl, rfl⟩ := h
  have hpermitted : (Operation.reprovision o id revision provision).Permitted clock session := 
    ⟨hrev, by rintro ⟨⟩, hchecked⟩
  exact written_change rfl hread hpermitted rfl key

/-- Every operation that returns changes the documents in these ways only. -/
theorem perform_change (placed : Placed store)
    (h : perform metadataUrl store clock operation = .ok (written, store')) (key : Identifier × Identifier) :
    Change operation clock key (store.sessions key) (store'.sessions key) := by
  cases operation with
  | create session => exact create_change h key
  | completeCapture result revision => exact completeCapture_change placed h key
  | authorizeAction o id revision action => exact authorizeAction_change placed h key
  | reprovision o id revision provision => exact reprovision_change h key
  | attach o id revision worker address => exact act_change (.attach o id revision worker address) rfl h key
  | start o id revision => exact act_change (.start o id revision) rfl h key
  | rebindFence o id revision fencingToken => exact act_change (.rebindFence o id revision fencingToken) rfl h key
  | armCapture o id revision => exact act_change (.armCapture o id revision) rfl h key
  | armHumanCapture o id revision => exact act_change (.armHumanCapture o id revision) rfl h key
  | freeze o id revision => exact act_change (.freeze o id revision) rfl h key
  | takeover o id revision subject => exact act_change (.takeover o id revision subject) rfl h key
  | releaseTakeover o id revision subject => exact act_change (.releaseTakeover o id revision subject) rfl h key
  | terminate o id revision => exact act_change (.terminate o id revision) rfl h key

/-- What an operation does to one document. -/
theorem after_change (placed : Placed store) (key : Identifier × Identifier) :
    Change operation clock key (store.sessions key) ((after metadataUrl store clock operation).sessions key) := by
  unfold after
  split
  · rename_i hperform
    exact perform_change placed hperform key
  · exact .kept _

/-- Every operation leaves the sessions under their own ids. -/
theorem after_placed (placed : Placed store) : Placed (after metadataUrl store clock operation) := by
  intro key session hsession
  have hchange : Change operation clock key (store.sessions key)
      ((after metadataUrl store clock operation).sessions key) := after_change placed key
  generalize hstored : store.sessions key = stored at hchange
  rw [hsession] at hchange
  cases hchange with
  | kept => exact placed key session hstored
  | created session is_create is_target =>
    rw [is_create] at is_target
    exact is_target
  | changed document current is_target read permitted =>
    have hids := operation.edit_ids clock current.toSessionFields
    change ((operation.edit clock current.toSessionFields).organisationId,
      (operation.edit clock current.toSessionFields).id) = key
    rw [hids.1, hids.2, read]
    exact placed key document hstored

end
end Uumi.Browser
