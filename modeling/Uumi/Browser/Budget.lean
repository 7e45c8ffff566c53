import Uumi.Browser.Lifecycle

/-! Sessions stay readable: every document that is written can be read again, exactly as long as no operation writes
more than the contract allows. -/
namespace Uumi.Browser
open Uumi.Contracts Uumi.Core Uumi.Foundations

namespace Operation

/-- What an operation writes stays within the bounds of the contract. -/
def Fits (operation : Operation) (current : BrowserSession) : Prop :=
  match operation with
  | attach _ _ _ worker address => (strip worker).length ≤ 512 ∧ (strip address).length ≤ 128
  | takeover _ _ _ subject => (strip subject).length ≤ 512
  | reprovision _ _ _ provision => 0 < provision.fencingToken
  | authorizeAction .. => current.stepCount < current.policy.maxSteps
  | _ => True

/-- An action is not recorded yet. -/
def Unrecorded (operation : Operation) (store : BrowserStore) : Prop :=
  match operation with
  | authorizeAction o id _ action => store.actions (o, id, action.id) = none
  | _ => True

end Operation

/-- Every stored session is under its own key and can be read. -/
structure Readable (store : BrowserStore) : Prop where
  placed : Placed store
  valid : ∀ key session, store.sessions key = some session → session.stripped.Valid

/-- A stored session is within its budget; it can be read, and frozen and terminated until it expires. -/
structure Serviceable (store : BrowserStore) (o id : Identifier) (session : SessionFields) : Prop where
  budget : session.stepCount ≤ session.policy.maxSteps
  reads : ∃ current, Repository.get store o id = .ok current
  freezes : ∀ clock current, Repository.get store o id = .ok current → clock.checked < current.expiresAt →
    ∃ result, Service.freeze store clock o id current.revision = .ok result
  terminates : ∀ clock current, Repository.get store o id = .ok current → clock.checked < current.expiresAt →
    ∃ result, Service.terminate store clock o id current.revision = .ok result

namespace SessionRun
variable {metadataUrl : String → String} (run : SessionRun metadataUrl)

/-- A step passes every guard of its session and writes more than the contract allows. -/
def Oversteps (n : ℕ) : Prop :=
  ∃ current, Repository.get (run.store n) (run.operation n).target.1 (run.operation n).target.2 = .ok current ∧
    (run.operation n).Permitted (run.clock n) current ∧ (run.operation n).Unrecorded (run.store n) ∧
    ¬ (run.operation n).Fits current

def StaysServiceable : Prop :=
  ∀ n o id session, run.session o id n = some session → Serviceable (run.store n) o id session

end SessionRun

section
variable {clock : Clock} {operation : Operation} {store store' : BrowserStore}

private theorem texts_fit (current : BrowserSession) : fitsIn (current.workerInstance.map strip) 512 = true ∧
    fitsIn (current.internalAddress.map strip) 128 = true ∧ fitsIn (current.takeoverSubject.map strip) 512 = true := by
  have h := current.normal
  have hvalid := current.valid
  rw [show current.workerInstance.map strip = current.workerInstance from congrArg SessionFields.workerInstance h,
    show current.internalAddress.map strip = current.internalAddress from congrArg SessionFields.internalAddress h,
    show current.takeoverSubject.map strip = current.takeoverSubject from congrArg SessionFields.takeoverSubject h]
  exact ⟨hvalid.instance_fits, hvalid.address_fits, hvalid.subject_fits⟩

/-- A change of a session that keeps its texts, its fence and its budget. -/
private structure Keeps (current : BrowserSession) (session : SessionFields) : Prop where
  worker : session.workerInstance = current.workerInstance
  address : session.internalAddress = current.internalAddress
  subject : session.takeoverSubject = current.takeoverSubject
  fence : session.fencingToken = current.fencingToken
  steps : session.stepCount = current.stepCount
  policy : session.policy = current.policy

private theorem Keeps.valid {current : BrowserSession} {session : SessionFields} (h : Keeps current session)
    (hbarriers : session.status = .capturing → session.modelPaused = true ∧ session.recordingPaused = true)
    (hended : session.status = .terminated → session.terminatedAt.isSome) :
    (Service.change clock current.toSessionFields fun _ => session).stripped.Valid := by
  obtain ⟨hworker, haddress, hsubject⟩ := texts_fit current
  have hvalid := current.valid
  refine ⟨?_, ?_, ?_, ?_, ?_, hbarriers, hended⟩
  · change fitsIn (session.workerInstance.map strip) 512 = true
    rw [h.worker]
    exact hworker
  · change fitsIn (session.internalAddress.map strip) 128 = true
    rw [h.address]
    exact haddress
  · change 0 < session.fencingToken
    rw [h.fence]
    exact hvalid.fence_pos
  · change fitsIn (session.takeoverSubject.map strip) 512 = true
    rw [h.subject]
    exact hsubject
  · change session.stepCount ≤ session.policy.maxSteps
    rw [h.steps, h.policy]
    exact hvalid.budget

private theorem keeps_of (current : BrowserSession) (status : BrowserStatus) :
    Keeps current (Service.barred status current.toSessionFields) := ⟨rfl, rfl, rfl, rfl, rfl, rfl⟩

private theorem fitsIn_some {text : String} {bound : Nat} : fitsIn (some text) bound = true ↔ text.length ≤ bound :=
  decide_eq_true_iff

private theorem attach_valid_iff {current : BrowserSession} {worker address : String} :
    (Service.change clock current.toSessionFields fun session =>
      { session with status := .ready, workerInstance := some worker, internalAddress := some address }).stripped.Valid ↔
        (strip worker).length ≤ 512 ∧ (strip address).length ≤ 128 := by
  obtain ⟨-, -, hsubject⟩ := texts_fit current
  have hvalid := current.valid
  rw [← fitsIn_some, ← fitsIn_some]
  constructor
  · intro h
    exact ⟨h.instance_fits, h.address_fits⟩
  · rintro ⟨hw, ha⟩
    exact ⟨hw, ha, hvalid.fence_pos, hsubject, hvalid.budget, nofun, nofun⟩

private theorem takeover_valid_iff {current : BrowserSession} {subject : String} :
    (Service.change clock current.toSessionFields fun session =>
      { Service.barred .takeover session with takeoverSubject := some subject }).stripped.Valid ↔
        (strip subject).length ≤ 512 := by
  obtain ⟨hworker, haddress, -⟩ := texts_fit current
  have hvalid := current.valid
  rw [← fitsIn_some]
  constructor
  · intro h
    exact h.subject_fits
  · intro hs
    exact ⟨hworker, haddress, hvalid.fence_pos, hs, hvalid.budget, nofun, nofun⟩

private theorem counted_valid_iff {current : BrowserSession} (hstatus : current.status ≠ .terminated) :
    (Service.change clock current.toSessionFields Service.counted).stripped.Valid ↔
      current.stepCount < current.policy.maxSteps := by
  obtain ⟨hworker, haddress, hsubject⟩ := texts_fit current
  have hvalid := current.valid
  constructor
  · intro h
    exact h.budget
  · intro hsteps
    exact ⟨hworker, haddress, hvalid.fence_pos, hsubject, hsteps, hvalid.barriers, fun h => absurd h hstatus⟩

private theorem rebound_valid {current : BrowserSession} {fencingToken : Nat}
    (hstatus : current.status ∈ [.ready, .paused]) (hfence : current.fencingToken < fencingToken) :
    (Service.change clock current.toSessionFields fun session => { session with fencingToken }).stripped.Valid := by
  obtain ⟨hworker, haddress, hsubject⟩ := texts_fit current
  have hvalid := current.valid
  refine ⟨hworker, haddress, Nat.zero_lt_of_lt hfence, hsubject, hvalid.budget, fun h => ?_, fun h => ?_⟩
  · change current.status = .capturing at h
    rw [h] at hstatus
    simp at hstatus
  · change current.status = .terminated at h
    rw [h] at hstatus
    simp at hstatus

private theorem released_valid {current : BrowserSession} :
    (Service.change clock current.toSessionFields fun session =>
      { Service.barred .paused session with takeoverSubject := none }).stripped.Valid := by
  obtain ⟨hworker, haddress, -⟩ := texts_fit current
  have hvalid := current.valid
  exact ⟨hworker, haddress, hvalid.fence_pos, rfl, hvalid.budget, nofun, nofun⟩

private theorem reprovisioned_valid_iff {current : BrowserSession} {provision : Service.Provision} :
    (Service.change clock current.toSessionFields (Service.reprovisioned provision)).stripped.Valid ↔
      0 < provision.fencingToken :=
  ⟨fun h => h.fence_pos, fun h => ⟨rfl, rfl, h, rfl, Nat.zero_le _, nofun, nofun⟩⟩

/-- What is written can be read again exactly when it fits. -/
theorem edit_valid_iff {current : BrowserSession} (h : operation.check current = .ok ()) :
    (Service.change clock current.toSessionFields (operation.edit clock)).stripped.Valid ↔ operation.Fits current := by
  cases operation with
  | create => cases h
  | attach o id revision worker address => exact attach_valid_iff
  | takeover o id revision subject => exact takeover_valid_iff
  | start =>
    have hkeeps : Keeps current (Service.unbarred current.toSessionFields) := ⟨rfl, rfl, rfl, rfl, rfl, rfl⟩
    exact iff_of_true (hkeeps.valid (by rintro ⟨⟩) (by rintro ⟨⟩)) trivial
  | rebindFence o id revision fencingToken =>
    simp only [Operation.check, unit_bind_ok, Service.checkStatus_ok, raiseIf_ok, not_le] at h
    exact iff_of_true (rebound_valid h.1 h.2) trivial
  | armCapture | armHumanCapture | freeze =>
    exact iff_of_true ((keeps_of current _).valid (fun _ => ⟨rfl, rfl⟩) (by rintro ⟨⟩)) trivial
  | completeCapture =>
    refine iff_of_true ?_ trivial
    change (Service.change clock current.toSessionFields fun _ => Service.resumed current.toSessionFields).stripped.Valid
    rcases Service.resumed_eq current.toSessionFields with hr | hr
    · rw [hr.2]
      exact (keeps_of current _).valid (by rintro ⟨⟩) (by rintro ⟨⟩)
    · rw [hr.2]
      have hkeeps : Keeps current (Service.unbarred current.toSessionFields) := ⟨rfl, rfl, rfl, rfl, rfl, rfl⟩
      exact hkeeps.valid (by rintro ⟨⟩) (by rintro ⟨⟩)
  | releaseTakeover => exact iff_of_true released_valid trivial
  | authorizeAction o id revision action =>
    refine counted_valid_iff fun hstatus => ?_
    rcases check_terminated hstatus h with ⟨_, _, _, h⟩ | h | ⟨_, _, _, h⟩
    · cases h
    · cases h
    · cases h
  | reprovision => exact reprovisioned_valid_iff
  | terminate =>
    have hkeeps : Keeps current { Service.barred .terminated current.toSessionFields with
        terminatedAt := some clock.recorded } := ⟨rfl, rfl, rfl, rfl, rfl, rfl⟩
    exact iff_of_true (hkeeps.valid (by rintro ⟨⟩) fun _ => rfl) trivial

private theorem perform_unrecorded {metadataUrl : String → String} {written : SessionFields} (placed : Placed store)
    (h : perform metadataUrl store clock operation = .ok (written, store')) : operation.Unrecorded store := by
  cases operation with
  | authorizeAction o id revision action =>
    obtain ⟨session, hread, -, hnone, -⟩ := authorizeAction_ok h
    have key := placed.key_of_read hread
    rw [show session.organisationId = o from congrArg Prod.fst key, show session.id = id from congrArg Prod.snd key] at hnone
    exact hnone
  | _ => trivial

private theorem perform_returns (metadataUrl : String → String) {current : BrowserSession} (placed : Placed store)
    (hread : Repository.get store operation.target.1 operation.target.2 = .ok current)
    (hpermitted : operation.Permitted clock current) (hunrecorded : operation.Unrecorded store)
    (hfits : ¬ operation.Fits current) :
    ∃ written store', perform metadataUrl store clock operation = .ok (written, store') ∧
      store'.sessions operation.target =
        some (Service.change clock current.toSessionFields (operation.edit clock)) := by
  cases operation with
  | attach o id revision worker address =>
    exact ⟨_, _, act_returns (.attach o id revision worker address) hread hpermitted (hpermitted.live rfl),
      Collection.set_same _ _ _⟩
  | takeover o id revision subject =>
    exact ⟨_, _, act_returns (.takeover o id revision subject) hread hpermitted (hpermitted.live rfl),
      Collection.set_same _ _ _⟩
  | reprovision o id revision provision =>
    exact ⟨_, _, reprovision_returns hread hpermitted, Collection.set_same _ _ _⟩
  | authorizeAction o id revision action =>
    exact ⟨_, _, authorizeAction_returns placed hread hpermitted hunrecorded, Collection.set_same _ _ _⟩
  | _ => exact absurd trivial hfits

end

namespace SessionRun
variable {metadataUrl : String → String} {run : SessionRun metadataUrl}

private theorem placed (hstart : Placed (run.store 0)) (n : ℕ) : Placed (run.store n) := by
  induction n with
  | zero => exact hstart
  | succ n ih =>
    rw [run.next n]
    exact after_placed ih

private theorem readable (hstart : Readable (run.store 0)) (hsteps : ∀ n, ¬ run.Oversteps n) (n : ℕ) :
    Readable (run.store n) := by
  induction n with
  | zero => exact hstart
  | succ n ih =>
    refine ⟨?_, fun key session hsession => ?_⟩
    · rw [run.next n]
      exact after_placed ih.placed
    · rw [run.next n] at hsession
      unfold after at hsession
      split at hsession
      · rename_i written store' hperform
        have hchange := perform_change ih.placed hperform key
        generalize hstored : (run.store n).sessions key = stored at hchange
        rw [hsession] at hchange
        cases hchange with
        | kept => exact ih.valid key session hstored
        | created session =>
          rw [session.normal]
          exact session.valid
        | changed document current is_target read permitted =>
          rw [edit_valid_iff permitted.checked]
          by_contra hfits
          subst is_target
          exact hsteps n ⟨current, Repository.get_ok.mpr ⟨document, hstored, read⟩, permitted,
            perform_unrecorded ih.placed hperform, hfits⟩
      · exact ih.valid key session hsession

private theorem serviceable {store : BrowserStore} (h : Readable store) {o id : Identifier} {session : SessionFields}
    (hsession : store.sessions (o, id) = some session) : Serviceable store o id session := by
  have hvalid := h.valid (o, id) session hsession
  refine ⟨hvalid.budget, Repository.get_returns.mpr ⟨session, hsession, hvalid⟩, ?_, ?_⟩
  · intro clock current hread hlive
    exact ⟨_, act_returns (.freeze o id current.revision) hread ⟨rfl, fun _ => hlive, rfl⟩ hlive⟩
  · intro clock current hread hlive
    exact ⟨_, act_returns (.terminate o id current.revision) hread ⟨rfl, fun _ => hlive, rfl⟩ hlive⟩

/-- Every session stays readable, within its budget and open to a freeze and a termination exactly when no step writes
more than the contract allows. -/
theorem stays_serviceable_iff (run : SessionRun metadataUrl) (hstart : Readable (run.store 0)) :
    run.StaysServiceable ↔ ∀ n, ¬ run.Oversteps n := by
  constructor
  · rintro h n ⟨current, hread, hpermitted, hunrecorded, hfits⟩
    obtain ⟨written, store', hperform, hwritten⟩ :=
      perform_returns metadataUrl (placed hstart.placed n) hread hpermitted hunrecorded hfits
    have hsession : run.session (run.operation n).target.1 (run.operation n).target.2 (n + 1) =
        some (Service.change (run.clock n) current.toSessionFields ((run.operation n).edit (run.clock n))) := by
      rw [session, run.next n, after, hperform]
      exact hwritten
    obtain ⟨document, hdocument, hvalid⟩ := Repository.get_returns.mp (h (n + 1) _ _ _ hsession).reads
    obtain rfl := Option.some.inj (hsession.symm.trans hdocument)
    exact hfits ((edit_valid_iff hpermitted.checked).mp hvalid)
  · intro hsteps n o id session hsession
    exact serviceable (readable hstart hsteps n) hsession

end SessionRun

private theorem sampleRun_readable (operation : ℕ → Operation) : Readable ((sampleRun operation).store 0) := by
  refine ⟨fun key session h => ?_, fun key session h => ?_⟩
  · cases h
  · cases h

def sampleBrief : BrowserSession :=
  { sampleSession with
    policy := { samplePolicy with maxSteps := 1, steps_bounded := by decide }
    normal := rfl
    accepted := rfl }

def sampleActing (next : ℕ → Operation) : ℕ → Operation
  | 0 => .create sampleBrief
  | 1 => .attach sampleBrief.organisationId sampleBrief.id 0 "vm-1" "10.0.0.2"
  | 2 => .start sampleBrief.organisationId sampleBrief.id 1
  | 3 => .authorizeAction sampleBrief.organisationId sampleBrief.id 2 sampleAction
  | n + 4 => next n

def sampleSpent : ℕ → Operation :=
  sampleActing fun n => .terminate sampleBrief.organisationId sampleBrief.id (n + 3)

/-- A run that submits an action and spends its budget of steps ends terminated and was serviceable until then. -/
theorem stays_serviceable_iff_sample :
    (∃ session, (sampleRun sampleSpent).session sampleBrief.organisationId sampleBrief.id 5 = some session ∧
      session.stepCount = session.policy.maxSteps ∧ session.status = .terminated) ∧
    (sampleRun sampleSpent).StaysServiceable := by
  refine ⟨⟨_, rfl, rfl, rfl⟩, (SessionRun.stays_serviceable_iff (sampleRun sampleSpent) (sampleRun_readable _)).mpr ?_⟩
  rintro n ⟨current, hread, hpermitted, -, hfits⟩
  rcases n with - | - | - | - | n
  · cases hpermitted.checked
  · exact hfits (show (strip "vm-1").length ≤ 512 ∧ (strip "10.0.0.2").length ≤ 128 by decide)
  · exact hfits trivial
  · obtain ⟨document, hstored, hdocument⟩ := Repository.get_ok.mp hread
    obtain rfl := Option.some.inj hstored
    refine hfits (show current.toSessionFields.stepCount < current.toSessionFields.policy.maxSteps from ?_)
    rw [hdocument]
    decide
  · exact hfits trivial

def sampleActions : ℕ → Operation :=
  sampleActing fun n => .authorizeAction sampleBrief.organisationId sampleBrief.id (n + 3)
    { sampleAction with id := ⟨"action-2", by decide⟩ }

/-- An action is authorised after the budget is used up, and the session cannot be read any more. -/
theorem budget_overrun : ¬ ∀ metadataUrl, ∀ run : SessionRun metadataUrl, Readable (run.store 0) →
    run.StaysServiceable := by
  intro h
  have hstays := h id (sampleRun sampleActions) (sampleRun_readable _)
  have hstored : ∃ session, (sampleRun sampleActions).session sampleBrief.organisationId sampleBrief.id 5 =
      some session ∧ session.stepCount = 2 ∧ session.policy.maxSteps = 1 := ⟨_, rfl, rfl, rfl⟩
  obtain ⟨session, hsession, hsteps, hmax⟩ := hstored
  have hbudget := (hstays 5 _ _ session hsession).budget
  rw [hsteps, hmax] at hbudget
  exact absurd hbudget (by decide)

end Uumi.Browser
