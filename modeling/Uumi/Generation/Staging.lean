import Mathlib
import Uumi.Generation.Effects
import Uumi.State.Bindings
import Uumi.Workflow.CredentialLock

/-! The targets that runs stage on the bindings of their consumers. Nothing but a promotion takes a target off a
binding, so a run that ends without one leaves its target to the next run of the credential. -/
namespace Uumi.Generation
open Uumi.Contracts Uumi.Core Uumi.Foundations Uumi.Policy Uumi.State Uumi.Storage Uumi.Workflow

variable {hashing : Hashing}

section
variable {s s' : InventoryStore}

/-- Bindings are staged when they belong to the credential, and get the target. -/
theorem stageBindings_staged {o c t : Identifier} {reference : String} {ids result : List Identifier}
    (h : stageBindings s o c t reference ids = .ok (result, s')) :
    ∃ bindings, List.Forall₂ (fun key document => s.bindings key = some document) (keysOf o ids) bindings ∧
      (∀ binding ∈ bindings, binding.credentialId = c) ∧
      s' = { s with
        bindings := s.bindings.setAll ((keysOf o ids).zip (bindings.map (Generations.stagedBinding t reference))) } := by
  simp only [stageBindings, Generations.stageBindings, unit_bind_ok, required_bind_ok, raiseIf_ok, pure_ok,
    Prod.mk.injEq] at h
  obtain ⟨-, bindings, hb, -, howner, -, -, rfl⟩ := h
  refine ⟨bindings, Collection.getAll_eq_some.mp hb, fun binding hmem => ?_, rfl⟩
  by_contra hne
  exact howner ⟨binding, hmem, hne⟩

/-- The bindings of a credential whose targets are not taken are staged. -/
theorem stageBindings_returns {o c t : Identifier} {reference : String} {ids : List Identifier}
    {bindings : List ConsumerBinding} (hids : ids ≠ [])
    (found : s.bindings.getAll (keysOf o ids) = some bindings)
    (readable : ∀ binding ∈ bindings, binding.validate = .ok ())
    (owned : ∀ binding ∈ bindings, binding.credentialId = c)
    (free : ∀ binding ∈ bindings, ∀ other, binding.targetGenerationId = some other → other = t) :
    ∃ staged s', stageBindings s o c t reference ids = .ok (staged, s') := by
  refine ⟨bindings.map ConsumerBinding.id, { s with
    bindings := s.bindings.setAll ((keysOf o ids).zip (bindings.map (Generations.stagedBinding t reference))) }, ?_⟩
  simp only [stageBindings, Generations.stageBindings, unit_bind_ok, required_bind_ok, raiseIf_ok, pure_ok,
    Prod.mk.injEq, forEach_ok]
  refine ⟨hids, bindings, found, readable, ?_, ?_, rfl, rfl⟩
  · rintro ⟨binding, hmem, hne⟩
    exact hne (owned binding hmem)
  · intro binding hmem hout
    refine hout ?_
    cases ht : binding.targetGenerationId with
    | none => exact List.mem_cons_self
    | some other =>
      rw [free binding hmem other ht]
      exact List.mem_cons_of_mem _ List.mem_cons_self

/-- A call that stages nothing. An import brings bindings without targets. -/
def Untargeting : Call → Prop
  | .stageBindings .. => False
  | .importCredential item => ∀ binding ∈ item.bindings, binding.targetGenerationId = none
  | _ => True

/-- A binding that has a target after a call that stages nothing had it before. -/
theorem target_kept {call : Call} {u : Unit} (allowed : Untargeting call)
    (h : (inventory hashing).perform s call = .ok (u, s')) {key : Identifier × Identifier} {binding : ConsumerBinding}
    {t : Identifier} (hb : s'.bindings key = some binding) (ht : binding.targetGenerationId = some t) :
    ∃ old, s.bindings key = some old ∧ old.credentialId = binding.credentialId ∧ old.targetGenerationId = some t := by
  have same (heq : s'.bindings = s.bindings) : ∃ old, s.bindings key = some old ∧
      old.credentialId = binding.credentialId ∧ old.targetGenerationId = some t :=
    ⟨binding, by rwa [← heq], rfl, ht⟩
  cases call with
  | importCredential item =>
    obtain ⟨_, h⟩ := answer_ok h
    have hall := (Collection.createAll_ok (importCredential_ok h).bindings).2.2
    rcases (hall key binding).mp hb with hnew | hold
    · obtain ⟨x, hx, hpair⟩ := List.mem_map.mp hnew
      obtain rfl := (Prod.mk.inj hpair).2
      rw [allowed x hx] at ht
      cases ht
    · exact ⟨binding, hold, rfl, ht⟩
  | saveReport report =>
    obtain ⟨_, h⟩ := answer_ok h
    exact same (by rw [(saveReport_ok h).2.2])
  | create generation =>
    obtain ⟨_, h⟩ := answer_ok h
    rcases create_ok h with h | rfl
    · exact same (by rw [h.store_eq])
    · exact same rfl
  | stageBindings => exact allowed.elim
  | verifyBindings o t' r ids =>
    obtain ⟨_, h⟩ := answer_ok h
    obtain ⟨_, bindings, hread, rfl⟩ := verifyBindings_ok h
    rcases Collection.setAll_map_eq_some hread hb with ⟨old, -, -, hold, rfl⟩ | ⟨-, hold⟩
    · exact ⟨old, hold, rfl, ht⟩
    · exact ⟨binding, hold, rfl, ht⟩
  | promote o c t' p r ids =>
    obtain ⟨_, h⟩ := answer_ok h
    rcases promote_ok h with ⟨credential, target, predecessor, report, bindings, effect⟩ | ⟨rfl, -⟩
    · rw [effect.store_eq] at hb
      rcases Collection.setAll_map_eq_some effect.bindings_found hb with ⟨old, -, -, -, rfl⟩ | ⟨-, hold⟩
      · cases ht
      · exact ⟨binding, hold, rfl, ht⟩
    · exact same rfl
  | revoke o g r now =>
    obtain ⟨_, h⟩ := answer_ok h
    rcases revoke_ok h with ⟨_, _, _, rfl⟩ | ⟨rfl, _⟩
    · exact same rfl
    · exact same rfl
  | orphan o g =>
    obtain ⟨_, h⟩ := answer_ok h
    obtain ⟨_, _, _, rfl⟩ := orphan_ok h
    exact same rfl

end

/-- The runs and the inventory that they work on. -/
structure World where
  store : Store
  inventory : InventoryStore

/-- No binding of the organisation waits for the target of the run. -/
def Released (w : World) (o : Identifier) (run : RotationRun) : Prop :=
  ∀ b binding t, w.inventory.bindings (o, b) = some binding → run.targetGenerationId = some t →
    binding.targetGenerationId ≠ some t

/-- A call on the runs, the staging of a run's target, or another call on the inventory. In a tidy step no run ends
while a binding waits for its target, and only a run under way stages its target. -/
inductive Step (hashing : Hashing) (tidy : Prop) (w : World) : World → Prop
  | workflow {call : Workflow.Call} {result : MutationResult} {store : Store}
      (done : (repository hashing).perform w.store call = .ok (result, store))
      (ended : tidy → ∀ o i run run', w.store.runs (o, i) = some run → store.runs (o, i) = some run' →
        run.status ∈ active → run'.status ∉ active → Released w o run) :
      Step hashing tidy w { w with store }
  | stage {o i t : Identifier} {run : RotationRun} {reference : String} {ids staged : List Identifier}
      {inventory : InventoryStore} (found : w.store.runs (o, i) = some run) (target : run.targetGenerationId = some t)
      (done : stageBindings w.inventory o run.credentialId t reference ids = .ok (staged, inventory))
      (held : tidy → run.status ∈ active) : Step hashing tidy w { w with inventory }
  | call {call : Call} {inventory : InventoryStore} (allowed : Untargeting call)
      (done : (Generation.inventory hashing).perform w.inventory call = .ok ((), inventory)) :
      Step hashing tidy w { w with inventory }

/-- Locks agree with the runs under way, and no binding has a target. -/
structure Start (w : World) : Prop where
  placed : Workflow.Placed w.store
  locked : Locked w.store
  untargeted : ∀ key binding, w.inventory.bindings key = some binding → binding.targetGenerationId = none

/-- Every target on a binding is that of the run that is under way for its credential. -/
structure Staged (w : World) : Prop where
  placed : Workflow.Placed w.store
  locked : Locked w.store
  owned : ∀ o b binding t, w.inventory.bindings (o, b) = some binding → binding.targetGenerationId = some t →
    ∃ i run, w.store.runs (o, i) = some run ∧ run.credentialId = binding.credentialId ∧ run.status ∈ active ∧
      run.targetGenerationId = some t

/-- What the workflow starts from is staged properly. -/
theorem Start.staged {w : World} (h : Start w) : Staged w where
  placed := h.placed
  locked := h.locked
  owned o b binding t hb ht := by
    rw [h.untargeted _ _ hb] at ht
    cases ht

/-- A run keeps its credential and its target in every call on the runs. -/
theorem run_kept {s s' : Store} {call : Workflow.Call} {result : MutationResult}
    (h : (repository hashing).perform s call = .ok (result, s')) {o i : Identifier} {run : RotationRun}
    (hr : s.runs (o, i) = some run) : ∃ run', s'.runs (o, i) = some run' ∧ run'.credentialId = run.credentialId ∧
      ∀ t, run.targetGenerationId = some t → run'.targetGenerationId = some t := by
  cases Workflow.perform_effect h with
  | created command newId now _ effect =>
    have hne : (o, i) ≠ (command.organisationId, command.runId.getD newId) := by
      intro heq
      have hnew : s.runs (command.organisationId, command.runId.getD newId) = none := effect.new
      rw [← heq, hr] at hnew
      cases hnew
    exact ⟨run, by rw [effect.runs, Collection.set_of_ne hne, hr], rfl, fun _ h => h⟩
  | mutated machine now command old updated _ effect =>
    rw [effect.runs]
    by_cases hk : (o, i) = (command.organisationId, command.runId)
    · obtain rfl : run = old := by
        have hf := effect.found
        rw [← hk, hr] at hf
        exact Option.some.inj hf
      exact ⟨updated, by rw [hk, Collection.set_same], effect.succeeds.credentialId,
        fun t => (RotationMachine.perform_bindsOnce effect.transition_ok).targetGenerationId.kept⟩
    · exact ⟨run, by rw [Collection.set_of_ne hk, hr], rfl, fun _ h => h⟩
  | replayed _ unchanged => exact ⟨run, by rw [unchanged, hr], rfl, fun _ h => h⟩

private theorem perform_locked {s s' : Store} {call : Workflow.Call} {result : MutationResult}
    (h : (repository hashing).perform s call = .ok (result, s')) (hp : Workflow.Placed s) (hl : Locked s) :
    Workflow.Placed s' ∧ Locked s' := by
  cases Workflow.perform_effect h with
  | created _ _ _ _ effect => exact ⟨hp.create effect, hl.create effect⟩
  | mutated _ _ _ _ _ _ effect => exact ⟨hp.mutate effect, hl.mutate hp effect⟩
  | replayed _ unchanged => exact unchanged ▸ ⟨hp, hl⟩

/-- A tidy step leaves no target behind. -/
theorem Staged.step {w w' : World} (hs : Staged w) (step : Step hashing True w w') : Staged w' := by
  cases step with
  | workflow done ended =>
    obtain ⟨hp, hl⟩ := perform_locked done hs.placed hs.locked
    refine ⟨hp, hl, fun o b binding t hb ht => ?_⟩
    obtain ⟨i, run, hr, hc, ha, hrt⟩ := hs.owned o b binding t hb ht
    obtain ⟨run', hr', hc', hkeep⟩ := run_kept done hr
    refine ⟨i, run', hr', hc'.trans hc, ?_, hkeep t hrt⟩
    by_contra hend
    exact ended trivial o i run run' hr hr' ha hend b binding t hb hrt ht
  | stage found target done held =>
    rename_i o i t run reference ids staged inventory
    refine ⟨hs.placed, hs.locked, fun o' b binding t' hb ht => ?_⟩
    obtain ⟨bindings, hread, howned, rfl⟩ := stageBindings_staged done
    rcases Collection.setAll_map_eq_some hread hb with ⟨old, hmem, hkey, -, rfl⟩ | ⟨-, hold⟩
    · obtain ⟨id, -, hid⟩ := List.mem_map.mp hkey
      obtain rfl : o = o' := (Prod.mk.inj hid).1
      cases ht
      exact ⟨i, run, found, (howned old hmem).symm, held trivial, target⟩
    · exact hs.owned o' b binding t' hold ht
  | call allowed done =>
    refine ⟨hs.placed, hs.locked, fun o b binding t hb ht => ?_⟩
    obtain ⟨old, hold, hc, hot⟩ := target_kept allowed done hb ht
    rw [← hc]
    exact hs.owned o b old t hold hot

/-- A run under way can stage its target on the bindings of its credential; before it has a target, it can stage any. -/
def Rotatable (w : World) : Prop :=
  ∀ o i run t reference ids bindings, w.store.runs (o, i) = some run → run.status ∈ active →
    (∀ other, run.targetGenerationId = some other → other = t) → ids ≠ [] →
    w.inventory.bindings.getAll (keysOf o ids) = some bindings →
    (∀ binding ∈ bindings, binding.validate = .ok ()) → (∀ binding ∈ bindings, binding.credentialId = run.credentialId) →
    ∃ staged inventory, stageBindings w.inventory o run.credentialId t reference ids = .ok (staged, inventory)

private theorem Staged.rotatable {w : World} (hs : Staged w) : Rotatable w := by
  intro o i run t reference ids bindings hr ha hown hids found readable owned
  refine stageBindings_returns hids found readable owned fun binding hmem other ht => ?_
  obtain ⟨key, hkey, hb⟩ := Collection.key_of_read (Collection.getAll_eq_some.mp found) hmem
  obtain ⟨b, -, rfl⟩ := List.mem_map.mp hkey
  obtain ⟨j, run', hr', hc, ha', ht'⟩ := hs.owned o b binding other hb ht
  -- the lock of the credential names both runs
  obtain ⟨lock, hlock, hi⟩ := (hs.locked.lock_iff hs.placed o run.credentialId i).mpr ⟨run, hr, rfl, ha⟩
  obtain ⟨lock', hlock', hj⟩ := (hs.locked.lock_iff hs.placed o run.credentialId j).mpr
    ⟨run', hr', hc.trans (owned binding hmem), ha'⟩
  obtain rfl := Option.some.inj (hlock.symm.trans hlock')
  obtain rfl : i = j := hi.symm.trans hj
  obtain rfl := Option.some.inj (hr.symm.trans hr')
  exact hown other ht'

/-- After any number of runs of which none ended while a binding waited for its target, the credential is rotatable. -/
theorem credential_stays_rotatable {w₀ w : World} (start : Start w₀)
    (steps : Relation.ReflTransGen (Step hashing True) w₀ w) : Rotatable w := by
  refine Staged.rotatable ?_
  induction steps with
  | refl => exact start.staged
  | tail _ step ih => exact ih.step step

def sampleTargetId : Identifier := generationTwo

def sampleStoring : RotationRun where
  toRunFields := { sampleRunning.toRunFields with stage := .store, targetGenerationId := some sampleTargetId }
  accepted := by decide

def sampleCancelled : RotationRun where
  toRunFields :=
    { sampleStoring.toRunFields with
      status := .cancelled
      lease := none
      fencingToken := 2
      updatedAt := ⟨2, 0⟩
      revision := 2 }
  accepted := by decide

def sampleKey : Identifier × Identifier := (RotationRun.sample.organisationId, RotationRun.sample.id)

def sampleStoringWorld : World where
  store := { sampleStarted with runs := sampleStarted.runs.set sampleKey sampleStoring }
  inventory := sampleImported .active

private theorem sampleStoringWorld_start : Start sampleStoringWorld := by
  obtain ⟨hp, hl⟩ := reachable_locked sampleStarted_reachable
  have hfound : sampleStarted.runs sampleKey = some sampleRunning := rfl
  have hruns : sampleStoringWorld.store.runs = sampleStarted.runs.set sampleKey sampleStoring := rfl
  refine ⟨⟨?_, ?_, ?_⟩, ?_, ?_⟩
  · intro o i r hr
    rw [hruns, Collection.set_eq_some] at hr
    rcases hr with ⟨hk, rfl⟩ | ⟨-, hr⟩
    · cases hk
      exact ⟨rfl, rfl⟩
    · exact hp.run hr
  · exact fun ht => hp.step ht
  · intro o i c t ht
    obtain ⟨r, hr⟩ := hp.owner ht
    rw [hruns]
    by_cases hk : (o, i) = sampleKey
    · exact ⟨sampleStoring, by rw [hk, Collection.set_same]⟩
    · exact ⟨r, by rw [Collection.set_of_ne hk, hr]⟩
  · have hd : demand sampleStoringWorld.store = demand sampleStarted := by
      funext key
      by_cases hk : key = sampleKey
      · rw [hk, demand, demand, hruns, Collection.set_same, hfound]
        rfl
      · rw [demand, demand, hruns, Collection.set_of_ne hk]
    rw [Locked, hd]
    exact hl
  · intro key binding hb
    rcases Collection.set_eq_some.mp hb with ⟨-, rfl⟩ | ⟨-, hb⟩
    · rfl
    · cases hb

def sampleStagedBinding : ConsumerBinding :=
  Generations.stagedBinding sampleTargetId "projects/demo/secrets/key/versions/2" sampleBinding

def sampleStagedWorld : World :=
  { sampleStoringWorld with inventory := { sampleImported .active with
      bindings := (sampleImported .active).bindings.setAll
        [((sampleBinding.organisationId, sampleBinding.id), sampleStagedBinding)] } }

private theorem sample_stages (tidy : Prop) : Step Hashing.sample tidy sampleStoringWorld sampleStagedWorld := by
  have hrun : sampleStoringWorld.store.runs sampleKey = some sampleStoring := rfl
  have hstage : stageBindings (sampleImported .active) sampleBinding.organisationId sampleBinding.credentialId
      sampleTargetId "projects/demo/secrets/key/versions/2" [sampleBinding.id] =
      .ok ([sampleBinding.id], sampleStagedWorld.inventory) := rfl
  exact .stage hrun rfl hstage fun _ => by decide

/-- The credential is rotatable while the run that staged its target is under way. -/
theorem credential_stays_rotatable_staged : Rotatable sampleStagedWorld :=
  credential_stays_rotatable sampleStoringWorld_start (.single (sample_stages True))

def sampleCancel : RunCommand := .cancel ⟨sampleBase commandThree 1⟩

def sampleCancelledStore : Store := sampleMutated sampleStagedWorld.store sampleStoring sampleCancelled sampleCancel

private theorem sample_cancels : Mutates Hashing.sample sampleStagedWorld.store {} ⟨2, 0⟩ sampleCancel sampleStoring
    sampleCancelled
    { run := sampleCancelled, step := mutateStep Hashing.sample sampleStoring sampleCancelled sampleCancel none,
      applied := true } sampleCancelledStore where
  new := by decide
  unused := by decide
  found := rfl
  organisationId := rfl
  revision := rfl
  lock := .inl ⟨_, rfl, rfl⟩
  gate := nofun
  transition_ok := RotationMachine.cancel_ok.mpr ⟨rfl, by decide, rfl⟩
  same_organisation := rfl
  same_run := rfl
  bumped := rfl
  result_eq := rfl
  store_eq := rfl

def sampleNext : CreateRunCommand :=
  { sampleCommand with
    id := commandFour
    trigger := { sampleCommand.trigger with eventId := ⟨"event-2", by decide⟩ } }

def sampleNextRun : RotationRun := createdRun sampleNext runTwo ⟨3, 0⟩

def sampleNextStore : Store := sampleCancelledStore.commitCreate Hashing.sample sampleNextRun sampleNext

private theorem sample_creates : Creates Hashing.sample sampleCancelledStore sampleNext runTwo ⟨3, 0⟩
    { run := sampleNextRun, step := createStep Hashing.sample sampleNextRun sampleNext, applied := true } sampleNextStore where
  agrees := ⟨rfl, rfl, rfl, rfl, nofun⟩
  unseen := by decide
  unlocked := by decide
  new := by decide
  unused := by decide
  pinned := ⟨Workflow.sampleControls, rfl, rfl, rfl, rfl, rfl⟩
  result_eq := rfl
  store_eq := rfl

private theorem sample_rotates : Relation.ReflTransGen (Step Hashing.sample False) sampleStoringWorld
    { sampleStagedWorld with store := sampleNextStore } := by
  have hcancel : (repository Hashing.sample).perform sampleStagedWorld.store (.mutate {} ⟨2, 0⟩ sampleCancel) =
      .ok (_, sampleCancelledStore) := mutate_ok.mpr (.inl ⟨_, _, sample_cancels⟩)
  have hcreate : (repository Hashing.sample).perform sampleCancelledStore
      (.create sampleNext runTwo ⟨3, 0⟩) = .ok (_, sampleNextStore) :=
    Storage.create_ok.mpr (.inl sample_creates)
  have hstaged : Step Hashing.sample False sampleStagedWorld { sampleStagedWorld with store := sampleCancelledStore } :=
    .workflow hcancel False.elim
  exact ((Relation.ReflTransGen.single (sample_stages False)).tail hstaged).tail (.workflow hcreate False.elim)

/-- A run that is cancelled after its store stage leaves its target on the binding, and the next run of the credential
cannot stage its own. -/
theorem abandoned_target_blocks : ¬ ∀ hashing w₀ w, Start w₀ →
    Relation.ReflTransGen (Step hashing False) w₀ w → Rotatable w := by
  intro h
  have hrot := h _ _ _ sampleStoringWorld_start sample_rotates
  have hrun : sampleNextStore.runs (sampleBinding.organisationId, runTwo) = some sampleNextRun := rfl
  obtain ⟨staged, inventory, hstage⟩ := hrot _ _ sampleNextRun ⟨"generation-3", by decide⟩
    "projects/demo/secrets/key/versions/3" [sampleBinding.id] [sampleStagedBinding] hrun (by decide) nofun
    (List.cons_ne_nil _ _) rfl (by
      intro binding hmem
      rw [List.mem_singleton.mp hmem]
      rfl) (by
      intro binding hmem
      rw [List.mem_singleton.mp hmem]
      rfl)
  cases hstage

end Uumi.Generation
