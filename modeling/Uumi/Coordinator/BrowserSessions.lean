import Uumi.Browser.Budget
import Uumi.Coordinator.Browser
import Uumi.Storage.Inventory

/-! When the coordinator obtains a running session for its run, and when it can release one. -/
namespace Uumi.Coordinator
open Uumi.Browser Uumi.Contracts Uumi.Core Uumi.Foundations

/-- The session is the one of the run, as it is stored up to the blanks around its texts. -/
structure Held (run : RotationRun) (world : BrowserWorld) (session : SessionFields) : Prop where
  stored : ∃ document, world.sessions.sessions (run.organisationId, sessionId run.id) = some document ∧
    document.stripped = session.stripped
  valid : session.stripped.Valid
  organisation : session.organisationId = run.organisationId
  id : session.id = sessionId run.id

/-- A running session with the fence of the run. -/
structure Obtained (run : RotationRun) (result : SessionFields × BrowserWorld) : Prop where
  running : result.1.status = .running
  fenced : result.1.fencingToken = run.fencingToken
  held : Held run result.2 result.1

section
variable {run : RotationRun} {world : BrowserWorld} {session : SessionFields} {clock : Clock}

/-- A held session is read from its document. -/
theorem Held.get (held : Held run world session) : ∃ current : BrowserSession,
    current.toSessionFields = session.stripped ∧
      Repository.get world.sessions session.organisationId session.id = .ok current := by
  obtain ⟨document, hstored, heq⟩ := held.stored
  obtain ⟨current, hread⟩ := (BrowserSession.readable_iff session).mpr held.valid
  have hcurrent := BrowserSession.modelValidate_ok.mp hread
  refine ⟨current, hcurrent, Repository.get_ok.mpr ⟨document, ?_, hcurrent.trans heq.symm⟩⟩
  rw [held.organisation, held.id]
  exact hstored

private theorem Held.act (held : Held run world session) (operation : Operation)
    (hexpected : operation.expected = session.revision) (hlive : clock.checked < session.expiresAt)
    (hcheck : ∀ current : BrowserSession, current.toSessionFields = session.stripped →
      operation.check current = .ok () ∧ operation.Fits current) :
    ∃ (current : BrowserSession) (sessions : BrowserStore), current.toSessionFields = session.stripped ∧
      Service.act world.sessions clock session.organisationId session.id session.revision operation.check
        (operation.edit clock) = .ok (Service.change clock current.toSessionFields (operation.edit clock), sessions) ∧
      ∀ machines, Held run { world with sessions, machines }
        (Service.change clock current.toSessionFields (operation.edit clock)) := by
  obtain ⟨current, hcurrent, hread⟩ := held.get
  obtain ⟨hchecked, hfits⟩ := hcheck current hcurrent
  have hlive' : clock.checked < current.expiresAt := by
    rw [hcurrent]
    exact hlive
  have hrevision : current.revision = operation.expected := by
    rw [hcurrent, hexpected]
    rfl
  have hreturns := act_returns operation hread ⟨hrevision, fun _ => hlive', hchecked⟩ hlive'
  rw [hexpected] at hreturns
  have hids := operation.edit_ids clock current.toSessionFields
  refine ⟨current, _, hcurrent, hreturns, fun machines => ⟨⟨_, ?_, rfl⟩, (edit_valid_iff hchecked).mpr hfits, ?_, ?_⟩⟩
  · rw [← held.organisation, ← held.id]
    exact Collection.set_same _ _ _
  · change (operation.edit clock current.toSessionFields).organisationId = _
    rw [hids.2, hcurrent]
    exact held.organisation
  · change (operation.edit clock current.toSessionFields).id = _
    rw [hids.1, hcurrent]
    exact held.id

private theorem Held.of_act (held : Held run world session) (operation : Operation) {result : SessionFields × BrowserStore}
    (h : Service.act world.sessions clock session.organisationId session.id session.revision operation.check
      (operation.edit clock) = .ok result) :
    clock.checked < session.expiresAt ∧ ∃ current : BrowserSession, current.toSessionFields = session.stripped ∧
      operation.check current = .ok () ∧
      result.1 = Service.change clock current.toSessionFields (operation.edit clock) := by
  obtain ⟨current, hcurrent, hread⟩ := held.get
  obtain ⟨read, hread', -, hlive, hchecked, hwritten, -⟩ := (Service.act_ok
    (fun session => (operation.edit_ids clock session).1) fun session => (operation.edit_ids clock session).2).mp h
  obtain rfl := Except.ok.inj (hread.symm.trans hread')
  rw [hcurrent] at hlive
  exact ⟨hlive, current, hcurrent, hchecked, hwritten⟩

private theorem checkStatus_of {allowed : List BrowserStatus} {message : String} {current : BrowserSession}
    (hcurrent : current.toSessionFields = session.stripped) :
    Service.checkStatus allowed message current = .ok () ↔ session.status ∈ allowed := by
  rw [Service.checkStatus_ok, hcurrent]
  exact Iff.rfl

section
variable {times : SessionTimes}

private theorem activate_iff (held : Held run world session) :
    (∃ result, activate times world session = .ok result ∧ Obtained run result) ↔
      session.fencingToken = run.fencingToken ∧ (session.status = .running ∨
        session.status ∈ [.ready, .paused] ∧ times.starting.checked < session.expiresAt) := by
  unfold activate
  by_cases hinactive : session.status ∈ [.ready, .paused]
  · rw [if_pos hinactive]
    have hrunning : session.status ≠ .running := by
      intro h
      rw [h] at hinactive
      simp at hinactive
    constructor
    · rintro ⟨result, h, hobtained⟩
      rw [bind_ok] at h
      obtain ⟨⟨started, sessions⟩, hstart, h⟩ := h
      rw [pure_ok] at h
      obtain ⟨hlive, current, hcurrent, -, hstarted⟩ :=
        held.of_act (.start session.organisationId session.id session.revision) hstart
      have hfenced := hobtained.fenced
      rw [← h, hstarted] at hfenced
      change current.fencingToken = _ at hfenced
      rw [hcurrent] at hfenced
      exact ⟨hfenced, .inr ⟨hinactive, hlive⟩⟩
    · rintro ⟨hfenced, h⟩
      obtain ⟨-, hlive⟩ := h.resolve_left hrunning
      obtain ⟨current, sessions, hcurrent, hstart, hheld⟩ := held.act
        (.start session.organisationId session.id session.revision) rfl hlive fun current hcurrent =>
          ⟨(checkStatus_of hcurrent).mpr hinactive, trivial⟩
      refine ⟨(_, { world with sessions }), bind_ok _ _ _ |>.mpr ⟨(_, sessions), hstart, rfl⟩, rfl, ?_, hheld _⟩
      change current.fencingToken = _
      rw [hcurrent]
      exact hfenced
  · rw [if_neg hinactive]
    constructor
    · rintro ⟨result, h, hobtained⟩
      rw [pure_ok] at h
      subst h
      exact ⟨hobtained.fenced, .inl hobtained.running⟩
    · rintro ⟨hfenced, h⟩
      exact ⟨(session, world), rfl, h.resolve_right fun h => hinactive h.1, hfenced, held⟩

private theorem rebind_returns (held : Held run world session) (hinactive : session.status ∈ [.ready, .paused])
    (hlt : session.fencingToken < run.fencingToken) (hlive : times.rebinding.checked < session.expiresAt) :
    ∃ result, rebind run times world session = .ok result ∧ Held run result.2 result.1 ∧
      result.1.fencingToken = run.fencingToken ∧ result.1.status = session.status ∧
      result.1.expiresAt = session.expiresAt := by
  obtain ⟨current, sessions, hcurrent, hrebind, hheld⟩ := held.act
    (.rebindFence session.organisationId session.id session.revision run.fencingToken) rfl hlive
    fun current hcurrent => by
      refine ⟨?_, trivial⟩
      simp only [Operation.check, unit_bind_ok, raiseIf_ok, not_le]
      refine ⟨(checkStatus_of hcurrent).mpr hinactive, ?_⟩
      rw [hcurrent]
      exact hlt
  refine ⟨(_, { world with sessions }), ?_, hheld _, rfl, ?_, ?_⟩
  · rw [rebind, if_pos hlt.ne]
    exact (bind_ok _ _ _).mpr ⟨(_, sessions), hrebind, rfl⟩
  · change current.status = _
    rw [hcurrent]
    rfl
  · change current.expiresAt = _
    rw [hcurrent]
    rfl

private theorem rebind_guards (held : Held run world session) (hfence : session.fencingToken ≠ run.fencingToken)
    {result : SessionFields × BrowserWorld} (h : rebind run times world session = .ok result) :
    session.status ∈ [.ready, .paused] ∧ session.fencingToken < run.fencingToken ∧
      times.rebinding.checked < session.expiresAt := by
  rw [rebind, if_pos hfence, bind_ok] at h
  obtain ⟨⟨rebound, sessions⟩, hrebind, -⟩ := h
  obtain ⟨hlive, current, hcurrent, hcheck, -⟩ := held.of_act
    (.rebindFence session.organisationId session.id session.revision run.fencingToken) hrebind
  simp only [Operation.check, unit_bind_ok, raiseIf_ok, not_le] at hcheck
  obtain ⟨hstatus, hlt⟩ := hcheck
  rw [hcurrent] at hlt
  exact ⟨(checkStatus_of hcurrent).mp hstatus, hlt, hlive⟩

private theorem rebind_activate_iff (held : Held run world session)
    (hordered : times.rebinding.checked ≤ times.starting.checked) :
    (∃ result, (rebind run times world session >>= fun r => activate times r.2 r.1) = .ok result ∧
      Obtained run result) ↔
      (session.status = .running ∧ session.fencingToken = run.fencingToken) ∨
        (session.status ∈ [.ready, .paused] ∧ session.fencingToken ≤ run.fencingToken ∧
          times.starting.checked < session.expiresAt) := by
  by_cases hfence : session.fencingToken = run.fencingToken
  · rw [rebind, if_neg (not_not.mpr hfence)]
    change (∃ result, activate times world session = .ok result ∧ Obtained run result) ↔ _
    rw [activate_iff held]
    constructor
    · rintro ⟨-, h | ⟨hinactive, hlive⟩⟩
      · exact .inl ⟨h, hfence⟩
      · exact .inr ⟨hinactive, hfence.le, hlive⟩
    · rintro (⟨h, -⟩ | ⟨hinactive, -, hlive⟩)
      · exact ⟨hfence, .inl h⟩
      · exact ⟨hfence, .inr ⟨hinactive, hlive⟩⟩
  · constructor
    · rintro ⟨result, h, hobtained⟩
      rw [bind_ok] at h
      obtain ⟨rebound, hrebind, h⟩ := h
      obtain ⟨hinactive, hlt, hlive⟩ := rebind_guards held hfence hrebind
      obtain ⟨rebound', hrebind', hheld, -, hstatus, hexpires⟩ := rebind_returns held hinactive hlt hlive
      obtain rfl := Except.ok.inj (hrebind.symm.trans hrebind')
      obtain ⟨-, hstart⟩ := (activate_iff hheld).mp ⟨result, h, hobtained⟩
      rw [hstatus, hexpires] at hstart
      rcases hstart with hrunning | ⟨-, hstarting⟩
      · rw [hrunning] at hinactive
        simp at hinactive
      · exact .inr ⟨hinactive, hlt.le, hstarting⟩
    · rintro (⟨-, h⟩ | ⟨hinactive, hle, hlive⟩)
      · exact absurd h hfence
      · obtain ⟨rebound, hrebind, hheld, hfenced, hstatus, hexpires⟩ := rebind_returns held hinactive
          (lt_of_le_of_ne hle hfence) (Int.lt_of_le_of_lt hordered hlive)
        obtain ⟨result, h, hobtained⟩ := (activate_iff hheld).mpr ⟨hfenced, .inr (by
          rw [hstatus, hexpires]
          exact ⟨hinactive, hlive⟩)⟩
        exact ⟨result, (bind_ok _ _ _).mpr ⟨rebound, hrebind, h⟩, hobtained⟩

end

/-- The provider's connection is ready with the playbook, and the calls that provision a VM succeed in time. -/
structure Provisionable (run : RotationRun) (connection : Connection) (version : PlaybookVersion) (times : SessionTimes)
    (vm : BrowserVm) : Prop where
  browser : connection.interface = .browser
  provider : .provider ∈ connection.roles
  login : connection.authorization = .browserSession
  playbook : connection.playbookId = some version.playbookId
  version : connection.playbookVersionId = some version.id
  ready : connection.status = .ready
  reference : connection.authorizationReference ≠ none
  current : ∀ expires ∈ connection.authorizationExpiresAt, times.now < expires
  fence : 0 < run.fencingToken
  machine : (strip vm.machine).length ≤ 512
  address : (strip vm.internalAddress).length ≤ 128
  attached : times.attaching.checked < expiryOf times.now
  started : times.starting.checked < expiryOf times.now

section
variable {connection : Connection} {version : PlaybookVersion} {credential : ManagedCredential}
  {protectedTools : Finset String} {times : SessionTimes} {vm : BrowserVm}

private theorem Provisionable.checked (h : Provisionable run connection version times vm) :
    checkConnection run connection version times = .ok () := by
  simp only [checkConnection, unit_bind_ok, raiseIf_ok]
  refine ⟨?_, ?_⟩
  · rintro (h' | h' | h' | h' | h')
    · exact h' h.browser
    · exact h' h.provider
    · exact h' h.login
    · exact h' h.playbook
    · exact h' h.version
  · rintro (h' | h' | ⟨expires, hexpires, hle⟩)
    · exact h' h.ready
    · exact h.reference h'
    · exact AwareDatetime.not_le.mpr (h.current expires hexpires) hle

private theorem attach_returns (h : Provisionable run connection version times vm) (held : Held run world session)
    (hstatus : session.status = .provisioning) (hfence : session.fencingToken = run.fencingToken)
    (hexpires : session.expiresAt = expiryOf times.now) (machines : Finset String) :
    ∃ (attached : SessionFields) (sessions : BrowserStore), Service.attach world.sessions times.attaching
        session.organisationId session.id session.revision vm.machine vm.internalAddress = .ok (attached, sessions) ∧
      Held run { world with sessions, machines } attached ∧ attached.status = .ready ∧
      attached.fencingToken = run.fencingToken ∧ attached.expiresAt = expiryOf times.now := by
  obtain ⟨current, sessions, hcurrent, hattach, hheld⟩ := held.act
    (.attach session.organisationId session.id session.revision vm.machine vm.internalAddress) rfl
    (hexpires ▸ h.attached) fun current hcurrent =>
      ⟨(checkStatus_of hcurrent).mpr (by rw [hstatus]; exact List.mem_singleton_self _), h.machine, h.address⟩
  refine ⟨_, sessions, hattach, hheld machines, rfl, ?_, ?_⟩
  · change current.fencingToken = _
    rw [hcurrent]
    exact hfence
  · change current.expiresAt = _
    rw [hcurrent]
    exact hexpires

private theorem create_returns (credential : ManagedCredential) (protectedTools : Finset String)
    (h : Provisionable run connection version times vm)
    (hnone : world.sessions.sessions (run.organisationId, sessionId run.id) = none) :
    ∃ (session : BrowserSession) (sessions : BrowserStore),
      BrowserSession.modelValidate (newSession run connection version credential protectedTools times) = .ok session ∧
      Service.create world.sessions session = .ok (session.toSessionFields, sessions) ∧
      Held run { world with sessions } session.toSessionFields ∧
      session.toSessionFields = newSession run connection version credential protectedTools times := by
  have hvalid : (newSession run connection version credential protectedTools times).stripped.Valid :=
    ⟨rfl, rfl, h.fence, rfl, Nat.zero_le _, nofun, nofun⟩
  obtain ⟨session, hread⟩ := (BrowserSession.readable_iff _).mpr hvalid
  have hsession : session.toSessionFields = newSession run connection version credential protectedTools times :=
    BrowserSession.modelValidate_ok.mp hread
  have hcreate : Service.create world.sessions session = .ok (session.toSessionFields, { world.sessions with
      sessions := world.sessions.sessions.set (run.organisationId, sessionId run.id) session.toSessionFields }) := by
    simp only [Service.create, unit_bind_ok, raiseIf_ok]
    refine ⟨?_, ?_, ?_⟩
    · rw [hsession]
      exact not_not.mpr rfl
    · rw [hsession]
      rintro (h | h)
      · cases h
      · cases h
    · rw [Repository.create, show (session.organisationId, session.id) = (run.organisationId, sessionId run.id) by
        rw [hsession]
        rfl, hnone]
  refine ⟨session, _, hread, hcreate, ⟨⟨_, Collection.set_same _ _ _, rfl⟩, ?_, ?_, ?_⟩, hsession⟩
  · rw [hsession]
    exact hvalid
  · rw [hsession]
    rfl
  · rw [hsession]
    rfl

private theorem reprovision_held (credential : ManagedCredential) (protectedTools : Finset String)
    (h : Provisionable run connection version times vm) (held : Held run world session)
    (hstatus : session.status = .terminated) :
    ∃ (provisioned : SessionFields) (sessions : BrowserStore), Service.reprovision world.sessions times.reprovisioning
        session.organisationId session.id session.revision
        (provisionOf run connection version credential protectedTools times) = .ok (provisioned, sessions) ∧
      Held run { world with sessions } provisioned ∧ provisioned.status = .provisioning ∧
      provisioned.fencingToken = run.fencingToken ∧ provisioned.expiresAt = expiryOf times.now := by
  obtain ⟨current, hcurrent, hread⟩ := held.get
  have hchecked : (Operation.reprovision session.organisationId session.id session.revision
      (provisionOf run connection version credential protectedTools times)).check current = .ok () :=
    (checkStatus_of hcurrent).mpr (by rw [hstatus]; exact List.mem_singleton_self _)
  have hrevision : current.revision = session.revision := by
    rw [hcurrent]
    rfl
  refine ⟨_, _, reprovision_returns hread ⟨hrevision, nofun, hchecked⟩, ⟨⟨_, ?_, rfl⟩, ?_, ?_, ?_⟩, rfl, rfl, rfl⟩
  · rw [← held.organisation, ← held.id]
    exact Collection.set_same _ _ _
  · exact (edit_valid_iff hchecked).mpr h.fence
  · change current.organisationId = _
    rw [hcurrent]
    exact held.organisation
  · change current.id = _
    rw [hcurrent]
    exact held.id

private theorem started_of_attached {attached : SessionFields} (h : Provisionable run connection version times vm)
    (hordered : times.rebinding.checked ≤ times.starting.checked) (held : Held run world attached)
    (hstatus : attached.status = .ready) (hfence : attached.fencingToken = run.fencingToken)
    (hexpires : attached.expiresAt = expiryOf times.now) :
    ∃ result, (rebind run times world attached >>= fun r => activate times r.2 r.1) = .ok result ∧
      Obtained run result := by
  refine (rebind_activate_iff held hordered).mpr (.inr ⟨?_, hfence.le, ?_⟩)
  · rw [hstatus]
    exact List.mem_cons_self
  · rw [hexpires]
    exact h.started

private theorem provision_returns (credential : ManagedCredential) (protectedTools : Finset String)
    (h : Provisionable run connection version times vm)
    (hordered : times.rebinding.checked ≤ times.starting.checked) {found : Option SessionFields}
    (hfound : (found = none ∧ world.sessions.sessions (run.organisationId, sessionId run.id) = none) ∨
      ∃ session, found = some session ∧ Held run world session ∧ session.status = .terminated) :
    ∃ result, (provision run connection version credential protectedTools times vm world found >>= fun r =>
      rebind run times r.2 r.1 >>= fun r => activate times r.2 r.1) = .ok result ∧ Obtained run result := by
  rcases hfound with ⟨rfl, hnone⟩ | ⟨session, rfl, held, hstatus⟩
  · obtain ⟨session, sessions, hread, hcreate, hheld, hsession⟩ :=
      create_returns credential protectedTools h hnone
    obtain ⟨attached, sessions', hattach, hheld', hready, hfence, hexpires⟩ :=
      attach_returns h hheld (by rw [hsession]; rfl) (by rw [hsession]; rfl) (by rw [hsession]; rfl)
        (insert vm.machine world.machines)
    obtain ⟨result, hresult, hobtained⟩ := started_of_attached h hordered hheld' hready hfence hexpires
    have hprovision : provision run connection version credential protectedTools times vm world none =
        .ok (attached, { world with sessions := sessions', machines := insert vm.machine world.machines }) := by
      simp only [provision, h.checked, ok_bind, hread, hcreate]
      exact (bind_ok _ _ _).mpr ⟨_, hattach, rfl⟩
    exact ⟨result, (bind_ok _ _ _).mpr ⟨_, hprovision, hresult⟩, hobtained⟩
  · obtain ⟨provisioned, sessions, hreprovision, hheld, hstatus', hfence, hexpires⟩ :=
      reprovision_held credential protectedTools h held hstatus
    obtain ⟨attached, sessions', hattach, hheld', hready, hfence', hexpires'⟩ :=
      attach_returns h hheld hstatus' hfence hexpires (insert vm.machine world.machines)
    obtain ⟨result, hresult, hobtained⟩ := started_of_attached h hordered hheld' hready hfence' hexpires'
    have hprovision : provision run connection version credential protectedTools times vm world (some session) =
        .ok (attached, { world with sessions := sessions', machines := insert vm.machine world.machines }) := by
      simp only [provision, h.checked, ok_bind, hreprovision]
      exact (bind_ok _ _ _).mpr ⟨_, hattach, rfl⟩
    exact ⟨result, (bind_ok _ _ _).mpr ⟨_, hprovision, hresult⟩, hobtained⟩

/-- The session has the restrictions of the controls, and it runs under the fence of the run or can be brought to. -/
def Bindable (run : RotationRun) (protectedTools : Finset String) (times : SessionTimes) (session : SessionFields) :
    Prop :=
  session.policy.protectedTools = protectedTools ∧
    ((session.status = .running ∧ session.fencingToken = run.fencingToken) ∨
      (session.status ∈ [.ready, .paused] ∧ session.fencingToken ≤ run.fencingToken ∧
        times.starting.checked < session.expiresAt))

private theorem settle_iff (credential : ManagedCredential) (protectedTools : Finset String)
    (h : Provisionable run connection version times vm)
    (hordered : times.rebinding.checked ≤ times.starting.checked) (held : Held run world session) :
    (∃ result, settle run connection version credential protectedTools times vm world session = .ok result ∧
      Obtained run result) ↔
      session.status = .terminated ∨ Bindable run protectedTools times session := by
  unfold settle Bindable
  by_cases hterminated : session.status = .terminated
  · refine iff_of_true ?_ (.inl hterminated)
    obtain ⟨result, hresult, hobtained⟩ :=
      provision_returns credential protectedTools h hordered (.inr ⟨session, rfl, held, hterminated⟩)
    refine ⟨result, ?_, hobtained⟩
    rw [unit_bind_ok, if_pos hterminated]
    exact ⟨(raiseIf_ok ..).mpr fun h => h.1 hterminated, hresult⟩
  · rw [or_iff_right hterminated]
    by_cases htools : session.policy.protectedTools = protectedTools
    · rw [and_iff_right htools, ← rebind_activate_iff held hordered, raiseIf_bind_of_not fun h => h.2 htools,
        if_neg hterminated]
      exact Iff.rfl
    · rw [raiseIf_bind_of ⟨hterminated, htools⟩]
      refine iff_of_false ?_ fun h => htools h.1
      rintro ⟨result, h, -⟩
      cases h

end

/-- The VM of the session is in its zone and exists. -/
def Present (world : BrowserWorld) (session : SessionFields) : Prop :=
  ∃ machine ∈ session.workerInstance, machine ∈ world.machines

/-- The VM of a session has a name of the zone, as it was created there. -/
def Zoned (world : BrowserWorld) (session : SessionFields) : Prop :=
  ∀ machine ∈ session.workerInstance, world.zone.toList.isPrefixOf machine.toList = true

private theorem checkZone_ok {machine : String} (h : world.zone.toList.isPrefixOf machine.toList = true) :
    world.checkZone machine = .ok () := by
  rw [BrowserWorld.checkZone, raiseIf_ok, h]
  nofun

private theorem gone_cases (zoned : Zoned world session) (look : AwareDatetime) :
    (gone world session look = .ok true ∧ ¬ (look < session.expiresAt ∧ Present world session)) ∨
      (gone world session look = .ok false ∧ look < session.expiresAt ∧ Present world session) := by
  unfold gone
  split
  · rename_i hexpired
    exact .inl ⟨rfl, fun h => AwareDatetime.not_le.mpr h.1 hexpired⟩
  · rename_i hlive
    rw [AwareDatetime.not_le] at hlive
    split
    · rename_i hworker
      refine .inl ⟨rfl, ?_⟩
      rintro ⟨-, machine, hmachine, -⟩
      rw [hworker] at hmachine
      cases hmachine
    · rename_i machine hworker
      have hexists : world.machineExists machine = .ok (decide (machine ∈ world.machines)) := by
        rw [BrowserWorld.machineExists, unit_bind_ok]
        exact ⟨checkZone_ok (zoned machine hworker), rfl⟩
      rw [hexists, ok_bind]
      by_cases hmem : machine ∈ world.machines
      · rw [decide_eq_true hmem]
        exact .inr ⟨rfl, hlive, machine, hworker, hmem⟩
      · rw [decide_eq_false hmem]
        refine .inl ⟨rfl, ?_⟩
        rintro ⟨-, other, hother, hin⟩
        obtain rfl := Option.some.inj (hworker.symm.trans hother)
        exact hmem hin

private theorem deleteWorker_returns (zoned : Zoned world session) :
    ∃ released, world.deleteWorker session = .ok released ∧ released.sessions = world.sessions ∧
      released.zone = world.zone ∧ ∀ machine ∈ session.workerInstance, machine ∉ released.machines := by
  unfold BrowserWorld.deleteWorker
  split
  · rename_i hworker
    refine ⟨world, rfl, rfl, rfl, fun machine hmachine => ?_⟩
    rw [hworker] at hmachine
    cases hmachine
  · rename_i machine hworker
    refine ⟨{ world with machines := world.machines.erase machine }, ?_, rfl, rfl, fun other hother => ?_⟩
    · rw [BrowserWorld.deleteMachine, unit_bind_ok]
      exact ⟨checkZone_ok (zoned machine hworker), rfl⟩
    · obtain rfl := Option.some.inj (hworker.symm.trans hother)
      exact Finset.notMem_erase machine world.machines

private theorem terminate_returns (held : Held run world session) (zoned : Zoned world session.stripped)
    (hlive : clock.checked < session.expiresAt) :
    ∃ (terminated : SessionFields) (sessions : BrowserStore) (released : BrowserWorld),
      Service.terminate world.sessions clock session.organisationId session.id session.revision =
        .ok (terminated, sessions) ∧
      { world with sessions }.deleteWorker terminated = .ok released ∧ Held run released terminated ∧
      terminated.status = .terminated ∧ ∀ machine ∈ session.stripped.workerInstance, machine ∉ released.machines := by
  obtain ⟨current, sessions, hcurrent, hterminate, hheld⟩ := held.act
    (.terminate session.organisationId session.id session.revision) rfl hlive fun _ _ => ⟨rfl, trivial⟩
  have hworker : current.workerInstance = session.stripped.workerInstance := by rw [hcurrent]
  have hzoned : Zoned { world with sessions } (Service.change clock current.toSessionFields
      ((Operation.terminate session.organisationId session.id session.revision).edit clock)) := by
    intro machine hmachine
    change machine ∈ current.workerInstance at hmachine
    rw [hworker] at hmachine
    exact zoned machine hmachine
  obtain ⟨released, hdelete, hsessions, -, hgone⟩ := deleteWorker_returns hzoned
  have hheld' := hheld released.machines
  refine ⟨_, sessions, released, hterminate, hdelete, ⟨?_, hheld'.valid, hheld'.organisation, hheld'.id⟩, rfl, ?_⟩
  · rw [hsessions]
    exact hheld'.stored
  · rw [← hworker]
    exact hgone

private theorem findSession_ok {store : BrowserStore} {o id : Identifier} {current : BrowserSession} :
    findSession store o id = .ok (some current) ↔
      ∃ document, store.sessions (o, id) = some document ∧ current.toSessionFields = document.stripped := by
  unfold findSession
  cases store.sessions (o, id) with
  | none => simp
  | some document =>
    simp only [bind_ok, pure_ok, Option.some.injEq, exists_eq_right, BrowserSession.modelValidate_ok,
      exists_eq_left']

private theorem held_of_found {current : BrowserSession} (placed : Placed world.sessions)
    (hfound : findSession world.sessions run.organisationId (sessionId run.id) = .ok (some current)) :
    Held run world current.toSessionFields := by
  obtain ⟨document, hstored, heq⟩ := findSession_ok.mp hfound
  have hkey := placed _ document hstored
  refine ⟨⟨document, hstored, ?_⟩, ?_, ?_, ?_⟩
  · rw [current.normal, heq]
  · rw [current.normal]
    exact current.valid
  · rw [heq]
    exact congrArg Prod.fst hkey
  · rw [heq]
    exact congrArg Prod.snd hkey

/-- Obtaining the session ends with one that runs under the fence of the run. -/
def Obtains (run : RotationRun) (connection : Connection) (version : PlaybookVersion) (credential : ManagedCredential)
    (protectedTools : Finset String) (times : SessionTimes) (vm : BrowserVm) (world : BrowserWorld) : Prop :=
  ∃ result, obtainSession run connection version credential protectedTools times vm world = .ok result ∧
    Obtained run result

/-- Releasing the session ends with it terminated and its VM deleted. -/
def Releases (run : RotationRun) (world : BrowserWorld) (clock : Clock) (session : SessionFields) : Prop :=
  ∃ released, releaseSession run world clock = .ok released ∧
    (∃ stored, released.sessions.sessions (run.organisationId, sessionId run.id) = some stored ∧
      stored.status = .terminated) ∧
    ∀ machine ∈ session.workerInstance, machine ∉ released.machines

/-- The session was terminated, or it has not expired and its VM is gone, or it can be bound to the run. -/
def Obtainable (run : RotationRun) (protectedTools : Finset String) (times : SessionTimes) (world : BrowserWorld)
    (session : SessionFields) : Prop :=
  session.status = .terminated ∨ times.look < session.expiresAt ∧
    ((¬ Present world session ∧ times.terminating.checked < session.expiresAt) ∨
      (Present world session ∧ Bindable run protectedTools times session))

/-- The session was terminated, or it has not expired. -/
def Releasable (clock : Clock) (session : SessionFields) : Prop :=
  session.status = .terminated ∨ clock.checked < session.expiresAt

/-- The times of one call are in order. -/
structure Ordered (times : SessionTimes) : Prop where
  terminating : times.look ≤ times.terminating.checked
  starting : times.rebinding.checked ≤ times.starting.checked

section
variable {connection : Connection} {version : PlaybookVersion} {credential : ManagedCredential}
  {protectedTools : Finset String} {times : SessionTimes} {vm : BrowserVm} {current : BrowserSession}

private theorem obtains_iff (h : Provisionable run connection version times vm) (hordered : Ordered times)
    (placed : Placed world.sessions) (zoned : Zoned world current.toSessionFields)
    (hfound : findSession world.sessions run.organisationId (sessionId run.id) = .ok (some current)) :
    Obtains run connection version credential protectedTools times vm world ↔
      Obtainable run protectedTools times world current.toSessionFields := by
  have held := held_of_found placed hfound
  have hstarts : Obtains run connection version credential protectedTools times vm world ↔
      ∃ result, (discardGone world current times >>= fun r =>
        settle run connection version credential protectedTools times vm r.2 r.1) = .ok result ∧ Obtained run result := by
    rw [Obtains, obtainSession, hfound]
    exact Iff.rfl
  rw [hstarts, Obtainable]
  unfold discardGone
  by_cases hterminated : current.status = .terminated
  · rw [if_pos hterminated]
    refine iff_of_true ?_ (.inl hterminated)
    exact (settle_iff credential protectedTools h hordered.starting held).mpr (.inl hterminated)
  · rw [if_neg hterminated, or_iff_right hterminated]
    rcases gone_cases zoned times.look with ⟨hgone, hnot⟩ | ⟨hgone, hlive, hpresent⟩
    · constructor
      · rintro ⟨result, h', hobtained⟩
        rw [hgone, bind_ok] at h'
        obtain ⟨discarded, hdiscard, -⟩ := h'
        rw [ok_bind, if_pos rfl, bind_ok] at hdiscard
        obtain ⟨terminated, hterminate, -⟩ := hdiscard
        obtain ⟨hlive, -⟩ := held.of_act (.terminate current.organisationId current.id current.revision) hterminate
        have hlook : times.look < current.expiresAt := Int.lt_of_le_of_lt hordered.terminating hlive
        exact ⟨hlook, .inl ⟨fun hpresent => hnot ⟨hlook, hpresent⟩, hlive⟩⟩
      · rintro ⟨hlook, ⟨-, hlive⟩ | ⟨hpresent, -⟩⟩
        · have hzoned : Zoned world current.stripped := by
            rw [current.normal]
            exact zoned
          obtain ⟨terminated, sessions, released, hterminate, hdelete, hheld, hstatus, -⟩ :=
            terminate_returns held hzoned hlive
          obtain ⟨result, hresult, hobtained⟩ := (settle_iff credential protectedTools h hordered.starting hheld).mpr (.inl hstatus)
          refine ⟨result, (bind_ok _ _ _).mpr ⟨(terminated, released), ?_, hresult⟩, hobtained⟩
          rw [hgone, ok_bind, if_pos rfl]
          refine (bind_ok _ _ _).mpr ⟨(terminated, sessions), hterminate, ?_⟩
          exact (bind_ok _ _ _).mpr ⟨released, hdelete, rfl⟩
        · exact absurd ⟨hlook, hpresent⟩ hnot
    · rw [hgone]
      change (∃ result, settle run connection version credential protectedTools times vm world current.toSessionFields =
        .ok result ∧ Obtained run result) ↔ _
      rw [settle_iff credential protectedTools h hordered.starting held, or_iff_right hterminated, and_iff_right hlive]
      constructor
      · intro hbindable
        exact .inr ⟨hpresent, hbindable⟩
      · rintro (⟨hmissing, -⟩ | ⟨-, hbindable⟩)
        · exact absurd hpresent hmissing
        · exact hbindable

private theorem releases_iff (placed : Placed world.sessions) (zoned : Zoned world current.toSessionFields)
    (hfound : findSession world.sessions run.organisationId (sessionId run.id) = .ok (some current)) :
    Releases run world clock current.toSessionFields ↔ Releasable clock current.toSessionFields := by
  have held := held_of_found placed hfound
  rw [Releases, releaseSession, hfound, Releasable]
  by_cases hterminated : current.status = .terminated
  · refine iff_of_true ?_ (.inl hterminated)
    obtain ⟨released, hdelete, hsessions, -, hgone⟩ := deleteWorker_returns zoned
    obtain ⟨document, hstored, heq⟩ := findSession_ok.mp hfound
    refine ⟨released, ?_, ⟨document, ?_, ?_⟩, hgone⟩
    · rw [ok_bind]
      exact (if_pos hterminated).trans hdelete
    · rw [hsessions]
      exact hstored
    · rw [heq] at hterminated
      exact hterminated
  · rw [or_iff_right hterminated]
    constructor
    · rintro ⟨released, h, -⟩
      rw [ok_bind] at h
      change (if current.status = .terminated then _ else _) = _ at h
      rw [if_neg hterminated, bind_ok] at h
      obtain ⟨terminated, hterminate, -⟩ := h
      exact (held.of_act (.terminate current.organisationId current.id current.revision) hterminate).1
    · intro hlive
      have hzoned : Zoned world current.stripped := by
        rw [current.normal]
        exact zoned
      obtain ⟨terminated, sessions, released, hterminate, hdelete, hheld, hstatus, hgone⟩ :=
        terminate_returns held hzoned hlive
      obtain ⟨document, hstored, heq⟩ := hheld.stored
      rw [current.normal] at hgone
      refine ⟨released, ?_, ⟨document, hstored, ?_⟩, hgone⟩
      · rw [ok_bind]
        change (if current.status = .terminated then _ else _) = _
        rw [if_neg hterminated]
        exact (bind_ok _ _ _).mpr ⟨(terminated, sessions), hterminate, hdelete⟩
      · have hkept : document.stripped.status = terminated.stripped.status := congrArg SessionFields.status heq
        exact hkept.trans hstatus

/-- The coordinator obtains and releases exactly the sessions that it can. -/
theorem obtains_and_releases_iff (h : Provisionable run connection version times vm) (hordered : Ordered times)
    (placed : Placed world.sessions) (zoned : Zoned world current.toSessionFields)
    (hfound : findSession world.sessions run.organisationId (sessionId run.id) = .ok (some current)) :
    (Obtains run connection version credential protectedTools times vm world ↔
      Obtainable run protectedTools times world current.toSessionFields) ∧
    ∀ clock, Releases run world clock current.toSessionFields ↔ Releasable clock current.toSessionFields :=
  ⟨obtains_iff h hordered placed zoned hfound, fun _ => releases_iff placed zoned hfound⟩

end

end

def sampleConsoleConnection : Connection where
  id := connectionOne
  organisationId := organisationOne
  platform := platformOne
  roles := {.provider}
  interface := .browser
  authorization := .browserSession
  authorizationReference := some "projects/demo/secrets/login"
  capabilities := {"browser.secure-capture"}
  allowedResources := ["platform-1:credentials"]
  playbookId := some PlaybookVersion.sample.playbookId
  playbookVersionId := some PlaybookVersion.sample.id
  status := .ready
  accepted := by decide

def sampleLeft : BrowserSession where
  toSessionFields :=
    { sampleSession.toSessionFields with
      id := sessionId RotationRun.sampleRecovering.id
      status := .paused
      workerInstance := some "zones/demo/vm-1"
      internalAddress := some "10.0.0.2" }
  normal := rfl
  accepted := rfl

def sampleWorld : BrowserWorld where
  sessions := ⟨Collection.empty.set (sampleLeft.organisationId, sampleLeft.id) sampleLeft.toSessionFields,
    Collection.empty, Collection.empty⟩
  zone := "zones/demo/"
  machines := {"zones/demo/vm-1"}

def sampleTimes (now : AwareDatetime) : SessionTimes where
  look := now
  terminating := ⟨now, now, now⟩
  now := now
  reprovisioning := ⟨now, now, now⟩
  attaching := ⟨now, now, now⟩
  rebinding := ⟨now, now, now⟩
  starting := ⟨now, now, now⟩

def sampleVm : BrowserVm := ⟨"zones/demo/vm-2", "10.0.0.3"⟩

private theorem sample_provisionable (n : Int) : Provisionable RotationRun.sampleRecovering sampleConsoleConnection
    PlaybookVersion.sample (sampleTimes ⟨n, 0⟩) sampleVm where
  browser := rfl
  provider := by decide
  login := rfl
  playbook := rfl
  version := rfl
  ready := rfl
  reference := by decide
  current := by nofun
  fence := by decide
  machine := by decide +kernel
  address := by decide +kernel
  attached := by
    change n < n + sessionLifetime
    exact Int.lt_add_of_pos_right n (by decide)
  started := by
    change n < n + sessionLifetime
    exact Int.lt_add_of_pos_right n (by decide)

private theorem sample_placed : Placed sampleWorld.sessions := by
  intro key document h
  rcases Collection.set_eq_some.mp h with ⟨rfl, rfl⟩ | ⟨-, h⟩
  · rfl
  · cases h

private theorem sample_zoned : Zoned sampleWorld sampleLeft.toSessionFields := by
  intro machine hmachine
  obtain rfl := Option.some.inj hmachine
  rfl

private theorem sample_found : findSession sampleWorld.sessions RotationRun.sampleRecovering.organisationId
    (sessionId RotationRun.sampleRecovering.id) = .ok (some sampleLeft) := rfl

/-- The sample sessions are obtained and released. -/
theorem obtains_and_releases_iff_sample :
    Obtains RotationRun.sampleRecovering sampleConsoleConnection PlaybookVersion.sample Storage.sampleCredential ∅
      (sampleTimes ⟨100, 0⟩) sampleVm sampleWorld ∧
    Releases RotationRun.sampleRecovering sampleWorld ⟨⟨100, 0⟩, ⟨100, 0⟩, ⟨100, 0⟩⟩ sampleLeft.toSessionFields := by
  have h : (Obtains RotationRun.sampleRecovering sampleConsoleConnection PlaybookVersion.sample
      Storage.sampleCredential ∅ (sampleTimes ⟨100, 0⟩) sampleVm sampleWorld ↔ _) ∧ _ :=
    obtains_and_releases_iff (sample_provisionable 100) ⟨Int.le_refl 100, Int.le_refl 100⟩ sample_placed sample_zoned
      sample_found
  refine ⟨h.1.mpr (.inr ⟨by decide, .inr ⟨⟨_, rfl, by decide⟩, rfl, .inr ⟨by decide, by decide, by decide⟩⟩⟩), ?_⟩
  exact (h.2 _).mpr (.inr (by decide))

/-- A paused session that expired can be neither obtained again nor released, and its VM stays. -/
theorem expired_session_stays : Provisionable RotationRun.sampleRecovering sampleConsoleConnection
      PlaybookVersion.sample (sampleTimes ⟨2000, 0⟩) sampleVm ∧
    Placed sampleWorld.sessions ∧ Zoned sampleWorld sampleLeft.toSessionFields ∧
    findSession sampleWorld.sessions RotationRun.sampleRecovering.organisationId
      (sessionId RotationRun.sampleRecovering.id) = .ok (some sampleLeft) ∧
    ¬ Obtains RotationRun.sampleRecovering sampleConsoleConnection PlaybookVersion.sample Storage.sampleCredential ∅
      (sampleTimes ⟨2000, 0⟩) sampleVm sampleWorld ∧
    ¬ Releases RotationRun.sampleRecovering sampleWorld ⟨⟨2000, 0⟩, ⟨2000, 0⟩, ⟨2000, 0⟩⟩
      sampleLeft.toSessionFields := by
  refine ⟨sample_provisionable 2000, sample_placed, sample_zoned, sample_found, ?_, ?_⟩
  · rintro ⟨result, h, -⟩
    cases h
  · rintro ⟨released, h, -⟩
    cases h

end Uumi.Coordinator
