import Uumi.Browser.Changes

/-! Sessions over whole runs: what ends a session, and when its barriers are down. -/
namespace Uumi.Browser
open Uumi.Contracts Uumi.Core Uumi.Foundations

/-- Model and recording are unpaused exactly while the session runs. -/
structure Barriers (session : SessionFields) : Prop where
  model : session.modelPaused = false ↔ session.status = .running
  recording : session.recordingPaused = false ↔ session.status = .running

structure Proper (store : BrowserStore) : Prop where
  placed : Placed store
  barriers : ∀ key session, store.sessions key = some session → Barriers session

/-- Any sequence of operations, each with times of its own. -/
structure SessionRun (metadataUrl : String → String) where
  store : ℕ → BrowserStore
  clock : ℕ → Clock
  operation : ℕ → Operation
  next : ∀ n, store (n + 1) = after metadataUrl (store n) (clock n) (operation n)

namespace SessionRun
variable {metadataUrl : String → String} (run : SessionRun metadataUrl) (o id : Identifier)

def session (n : ℕ) : Option SessionFields := (run.store n).sessions (o, id)

/-- A step begins the session anew. -/
def Reprovisions (n : ℕ) : Prop := (run.operation n).isReprovision = true ∧ (run.operation n).target = (o, id)

/-- A step freezes a session that is terminated and has not expired. -/
def FreezesTerminated (n : ℕ) : Prop :=
  ∃ o id revision session, run.operation n = .freeze o id revision ∧
    Repository.get (run.store n) o id = .ok session ∧ session.status = .terminated ∧ session.revision = revision ∧
    (run.clock n).checked < session.expiresAt

/-- A terminated session does nothing until it is reprovisioned, and only a running one is unpaused. -/
structure NeverActs : Prop where
  leaves : ∀ n before, run.session o id n = some before → before.status = .terminated →
    run.Reprovisions o id n ∨ ∃ later, run.session o id (n + 1) = some later ∧ later.status = .terminated
  refuses : ∀ n m before, n ≤ m → run.session o id n = some before → before.status = .terminated →
    (∀ i, n ≤ i → i < m → ¬ run.Reprovisions o id i) → ∀ revision action result,
    run.operation m = .authorizeAction o id revision action →
    perform metadataUrl (run.store m) (run.clock m) (run.operation m) ≠ .ok result
  barriers : ∀ n session, run.session o id n = some session → Barriers session

end SessionRun

section
variable {clock : Clock} {operation : Operation} {key : Identifier × Identifier}

/-- A status check passes on the allowed statuses. -/
theorem Service.checkStatus_ok {allowed : List BrowserStatus} {message : String} {current : BrowserSession} :
    Service.checkStatus allowed message current = .ok () ↔ current.status ∈ allowed := by
  rw [Service.checkStatus, raiseIf_ok, not_not]

/-- Besides a freeze and a new provision nothing gets past the guard of a terminated session but another
termination. -/
theorem check_terminated {current : BrowserSession} (hstatus : current.status = .terminated)
    (h : operation.check current = .ok ()) :
    (∃ o id revision, operation = .freeze o id revision) ∨ operation.isReprovision = true ∨
      ∃ o id revision, operation = .terminate o id revision := by
  cases operation with
  | freeze o id revision => exact .inl ⟨o, id, revision, rfl⟩
  | reprovision => exact .inr (.inl rfl)
  | terminate o id revision => exact .inr (.inr ⟨o, id, revision, rfl⟩)
  | create => cases h
  | attach | start | armCapture | armHumanCapture | completeCapture | takeover =>
    have hmem := Service.checkStatus_ok.mp h
    rw [hstatus] at hmem
    simp at hmem
  | rebindFence =>
    simp only [Operation.check, unit_bind_ok] at h
    have hmem := Service.checkStatus_ok.mp h.1
    rw [hstatus] at hmem
    simp at hmem
  | releaseTakeover =>
    simp only [Operation.check, raiseIf_ok, not_or, not_not, hstatus] at h
    cases h.1
  | authorizeAction =>
    simp only [Operation.check, Service.checkAction, unit_bind_ok, raiseIf_ok, hstatus] at h
    exact absurd ⟨by decide, fun hc => by cases hc.1⟩ h.1

private theorem Change.terminated_kept {before : SessionFields} {stored : Option SessionFields}
    (h : Change operation clock key (some before) stored) (hstatus : before.status = .terminated)
    (hfreeze : ∀ o id revision current, operation = .freeze o id revision → operation.target = key →
      current.toSessionFields = before.stripped → ¬ operation.Permitted clock current) :
    (operation.isReprovision = true ∧ operation.target = key) ∨
      ∃ later, stored = some later ∧ later.status = .terminated := by
  cases h with
  | kept => exact .inr ⟨before, rfl, hstatus⟩
  | changed document current is_target read permitted =>
    have hcurrent : current.status = .terminated := by
      rw [read]
      exact hstatus
    rcases check_terminated hcurrent permitted.checked with ⟨o, id, revision, hop⟩ | hop | ⟨o, id, revision, rfl⟩
    · exact absurd permitted (hfreeze o id revision current hop is_target read)
    · exact .inl ⟨hop, is_target⟩
    · exact .inr ⟨_, rfl, rfl⟩

private theorem barriers_armed {session : SessionFields} (hstatus : session.status ≠ .running)
    (hmodel : session.modelPaused = true) (hrecording : session.recordingPaused = true) : Barriers session := by
  refine ⟨⟨fun h => ?_, fun h => absurd h hstatus⟩, ⟨fun h => ?_, fun h => absurd h hstatus⟩⟩
  · rw [hmodel] at h
    cases h
  · rw [hrecording] at h
    cases h

private theorem barriers_unbarred (session : SessionFields) : Barriers (Service.unbarred session) :=
  ⟨⟨fun _ => rfl, fun _ => rfl⟩, ⟨fun _ => rfl, fun _ => rfl⟩⟩

private theorem Barriers.congr {a b : SessionFields} (h : Barriers a) (hstatus : b.status = a.status)
    (hmodel : b.modelPaused = a.modelPaused) (hrecording : b.recordingPaused = a.recordingPaused) : Barriers b := by
  obtain ⟨model, recording⟩ := h
  refine ⟨?_, ?_⟩
  · rw [hstatus, hmodel]
    exact model
  · rw [hstatus, hrecording]
    exact recording

private theorem armed_of_barriers {session : SessionFields} (h : Barriers session) (hstatus : session.status ≠ .running) :
    session.modelPaused = true ∧ session.recordingPaused = true := by
  refine ⟨?_, ?_⟩
  · exact Bool.eq_true_of_not_eq_false fun hp => hstatus (h.model.mp hp)
  · exact Bool.eq_true_of_not_eq_false fun hp => hstatus (h.recording.mp hp)

private theorem edit_barriers {current : BrowserSession} (hbarriers : Barriers current.toSessionFields)
    (h : operation.check current = .ok ()) : Barriers (operation.edit clock current.toSessionFields) := by
  cases operation with
  | attach =>
    have hmem := Service.checkStatus_ok.mp h
    have harmed := armed_of_barriers hbarriers fun hs => by
      rw [hs] at hmem
      simp at hmem
    exact barriers_armed nofun harmed.1 harmed.2
  | completeCapture =>
    change Barriers (Service.resumed _)
    rcases Service.resumed_eq current.toSessionFields with hr | hr
    · rw [hr.2]
      exact barriers_armed nofun rfl rfl
    · rw [hr.2]
      exact barriers_unbarred _
  | start => exact barriers_unbarred _
  | create | rebindFence | authorizeAction => exact hbarriers.congr rfl rfl rfl
  | armCapture | armHumanCapture | freeze | takeover | releaseTakeover | reprovision | terminate =>
    exact barriers_armed nofun rfl rfl

/-- A change keeps the barriers of a session. -/
theorem Change.barriers {stored stored' : Option SessionFields} (h : Change operation clock key stored stored')
    (hbarriers : ∀ before ∈ stored, Barriers before) : ∀ later ∈ stored', Barriers later := by
  cases h with
  | kept => exact hbarriers
  | created session is_create is_target provisioning model recording =>
    rintro later ⟨⟩
    refine barriers_armed ?_ model recording
    rw [provisioning]
    nofun
  | changed document current is_target read permitted =>
    rintro later ⟨⟩
    have hcurrent : Barriers current.toSessionFields := by
      rw [read]
      exact (hbarriers document rfl).congr rfl rfl rfl
    have hedited : Barriers (operation.edit clock current.toSessionFields) := edit_barriers hcurrent permitted.checked
    exact hedited.congr rfl rfl rfl

end

namespace SessionRun
variable {metadataUrl : String → String} {run : SessionRun metadataUrl} {o id : Identifier}

private theorem proper (hstart : Proper (run.store 0)) (n : ℕ) : Proper (run.store n) := by
  induction n with
  | zero => exact hstart
  | succ n ih =>
    rw [run.next n]
    refine ⟨after_placed ih.placed, fun key session hsession => ?_⟩
    exact (after_change ih.placed key).barriers (fun before hbefore => ih.barriers key before hbefore) session hsession

variable (o id) in
/-- Every step of a run changes a session as its operation says. -/
theorem change (hstart : Proper (run.store 0)) (n : ℕ) : Change (run.operation n) (run.clock n) (o, id)
    (run.session o id n) (run.session o id (n + 1)) := by
  rw [session, session, run.next n]
  exact after_change (proper hstart n).placed (o, id)

private theorem leaves (hstart : Proper (run.store 0)) {n : ℕ} {before : SessionFields}
    (hfreeze : ¬ run.FreezesTerminated n) (hbefore : run.session o id n = some before)
    (hstatus : before.status = .terminated) :
    run.Reprovisions o id n ∨ ∃ later, run.session o id (n + 1) = some later ∧ later.status = .terminated := by
  have hchange := run.change o id hstart n
  rw [hbefore] at hchange
  refine hchange.terminated_kept hstatus ?_
  intro o' id' revision current hop htarget hread hpermitted
  rw [hop] at htarget hpermitted
  obtain ⟨rfl, rfl⟩ := Prod.mk.inj htarget
  refine hfreeze ⟨o', id', revision, current, hop, Repository.get_ok.mpr ⟨before, hbefore, hread⟩, ?_,
    hpermitted.revision, hpermitted.live rfl⟩
  rw [hread]
  exact hstatus

private theorem stays (hstart : Proper (run.store 0)) (hfreeze : ∀ n, ¬ run.FreezesTerminated n) {n m : ℕ}
    {before : SessionFields} (hnm : n ≤ m) (hbefore : run.session o id n = some before)
    (hstatus : before.status = .terminated) (hkeeps : ∀ i, n ≤ i → i < m → ¬ run.Reprovisions o id i) :
    ∃ later, run.session o id m = some later ∧ later.status = .terminated := by
  induction m, hnm using Nat.le_induction with
  | base => exact ⟨before, hbefore, hstatus⟩
  | succ m hnm ih =>
    obtain ⟨middle, hmiddle, hmstatus⟩ := ih fun i hi hlt => hkeeps i hi (Nat.lt_succ_of_lt hlt)
    rcases leaves hstart (hfreeze m) hmiddle hmstatus with h | h
    · exact absurd h (hkeeps m hnm (Nat.lt_succ_self m))
    · exact h

/-- No run that freezes no terminated session lets one act again before it is reprovisioned, and no other does. -/
theorem never_acts_iff (run : SessionRun metadataUrl) (hstart : Proper (run.store 0)) :
    (∀ o id, run.NeverActs o id) ↔ ∀ n, ¬ run.FreezesTerminated n := by
  constructor
  · rintro h n ⟨o, id, revision, current, hop, hread, hstatus, hrev, hlive⟩
    have hperform : perform metadataUrl (run.store n) (run.clock n) (run.operation n) =
        .ok (Service.change (run.clock n) current.toSessionFields (Service.barred .paused), { run.store n with
          sessions := (run.store n).sessions.set (o, id)
            (Service.change (run.clock n) current.toSessionFields (Service.barred .paused)) }) := by
      rw [hop]
      exact act_returns (.freeze o id revision) hread ⟨hrev, fun _ => hlive, rfl⟩ hlive
    obtain ⟨before, hbefore, heq⟩ := Repository.get_ok.mp hread
    have hbstatus : before.status = .terminated := by
      rw [heq] at hstatus
      exact hstatus
    rcases (h o id).leaves n before hbefore hbstatus with hre | ⟨later, hlater, hlstatus⟩
    · rw [Reprovisions, hop] at hre
      cases hre.1
    · rw [session, run.next n, after, hperform] at hlater
      obtain rfl := Option.some.inj ((Collection.set_same _ _ _).symm.trans hlater)
      cases hlstatus
  · intro hfreeze o id
    refine ⟨fun n before hbefore hstatus => leaves hstart (hfreeze n) hbefore hstatus, ?_,
      fun n session hsession => (proper hstart n).barriers (o, id) session hsession⟩
    intro n m before hnm hbefore hstatus hkeeps revision action result hop hperform
    obtain ⟨later, hlater, hlstatus⟩ := stays hstart hfreeze hnm hbefore hstatus hkeeps
    rw [hop] at hperform
    obtain ⟨current, hread, hpermitted, -, -⟩ := authorizeAction_ok hperform
    obtain ⟨document, hdocument, heq⟩ := Repository.get_ok.mp hread
    obtain rfl := Option.some.inj (hdocument.symm.trans hlater)
    have hcstatus : current.status = .terminated := by
      rw [heq]
      exact hlstatus
    rcases check_terminated hcstatus hpermitted.checked with ⟨_, _, _, h⟩ | h | ⟨_, _, _, h⟩
    · cases h
    · cases h
    · cases h

end SessionRun

private theorem all_nonempty : BrowserActionKind.all ≠ ∅ := by
  decide

private theorem forty_bounded : 1 ≤ 40 ∧ 40 ≤ 200 := by
  decide

def samplePolicy : BrowserPolicy where
  allowedDomains := ["console.example"]
  allowedActions := BrowserActionKind.all
  domains_nonempty := by decide
  actions_nonempty := all_nonempty
  steps_bounded := forty_bounded

def sampleSession : BrowserSession where
  id := ⟨"browser-1", by decide⟩
  organisationId := organisationOne
  runId := runOne
  playbookId := playbookOne
  playbookVersion := playbookVersionOne
  providerConnectionId := connectionOne
  secretStoreConnectionId := connectionTwo
  secretResource := keyResource
  status := .provisioning
  policy := samplePolicy
  fencingToken := 1
  createdAt := ⟨0, 0⟩
  expiresAt := ⟨1800, 0⟩
  updatedAt := ⟨0, 0⟩
  normal := rfl
  accepted := rfl

def sampleAction : BrowserAction where
  id := actionOne
  sessionId := sampleSession.id
  kind := .wait
  fencingToken := 1
  token_pos := Nat.one_pos
  navigates := nofun
  selects := by decide
  enters := by decide

def sampleStores (operation : ℕ → Operation) : ℕ → BrowserStore
  | 0 => ⟨Collection.empty, Collection.empty, Collection.empty⟩
  | n + 1 => after id (sampleStores operation n) ⟨⟨n, 0⟩, ⟨n, 0⟩, ⟨n, 0⟩⟩ (operation n)

def sampleRun (operation : ℕ → Operation) : SessionRun id where
  store := sampleStores operation
  clock n := ⟨⟨n, 0⟩, ⟨n, 0⟩, ⟨n, 0⟩⟩
  operation := operation
  next _ := rfl

private theorem sampleRun_proper (operation : ℕ → Operation) : Proper ((sampleRun operation).store 0) := by
  refine ⟨fun key session h => ?_, fun key session h => ?_⟩
  · cases h
  · cases h

def sampleEnds : ℕ → Operation
  | 0 => .create sampleSession
  | 1 => .terminate sampleSession.organisationId sampleSession.id 0
  | n + 2 => .authorizeAction sampleSession.organisationId sampleSession.id n sampleAction

/-- The sample run begins properly, and none of its sessions acts where it must not. -/
theorem never_acts_iff_sample :
    Proper ((sampleRun sampleEnds).store 0) ∧ ∀ o id, (sampleRun sampleEnds).NeverActs o id := by
  refine ⟨sampleRun_proper _, (SessionRun.never_acts_iff (sampleRun sampleEnds) (sampleRun_proper _)).mpr ?_⟩
  rintro n ⟨o, id, revision, session, hop, -⟩
  match n with
  | 0 => cases hop
  | 1 => cases hop
  | n + 2 => cases hop

def sampleFrozen : ℕ → Operation
  | 0 => .create sampleSession
  | 1 => .terminate sampleSession.organisationId sampleSession.id 0
  | 2 => .freeze sampleSession.organisationId sampleSession.id 1
  | 3 => .start sampleSession.organisationId sampleSession.id 2
  | n + 4 => .authorizeAction sampleSession.organisationId sampleSession.id (n + 3) sampleAction

/-- A freeze takes a terminated session back to paused, and from there it is started and acts. -/
theorem frozen_after_termination : ¬ ∀ metadataUrl, ∀ run : SessionRun metadataUrl, Proper (run.store 0) →
    ∀ o id, run.NeverActs o id := by
  intro h
  have hnever := h id (sampleRun sampleFrozen) (sampleRun_proper _) sampleSession.organisationId sampleSession.id
  have hterminated : ∃ session, (sampleRun sampleFrozen).session sampleSession.organisationId sampleSession.id 2 =
      some session ∧ session.status = .terminated := ⟨_, rfl, rfl⟩
  have hpaused : ∃ session, (sampleRun sampleFrozen).session sampleSession.organisationId sampleSession.id 3 =
      some session ∧ session.status = .paused := ⟨_, rfl, rfl⟩
  obtain ⟨before, hbefore, hstatus⟩ := hterminated
  obtain ⟨paused, hread, hpstatus⟩ := hpaused
  rcases hnever.leaves 2 before hbefore hstatus with hre | ⟨later, hlater, hlstatus⟩
  · cases hre.1
  · obtain rfl := Option.some.inj (hread.symm.trans hlater)
    rw [hpstatus] at hlstatus
    cases hlstatus

end Uumi.Browser
