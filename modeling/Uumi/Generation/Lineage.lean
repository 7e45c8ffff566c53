import Uumi.Foundations.Succession
import Uumi.Generation.Effects

/-! Generation lineage: the generations of the inventory are the versions of a succession, and
every call that takes effect is one of its steps or none. -/
namespace Uumi.Generation
open Uumi.Contracts Uumi.Core Uumi.Foundations Uumi.Policy Uumi.Storage

variable {hashing : Hashing} {s s' : InventoryStore} {call : Call}

def phaseOf : GenerationState → Phase
  | .creating | .unknown => .waiting
  | .active => .active
  | .superseded => .superseded
  | .revoked => .retired
  | .orphaned => .abandoned

/-- The active phase is the active state. -/
theorem phaseOf_active {state : GenerationState} : phaseOf state = .active ↔ state = .active := by
  cases state <;> simp [phaseOf]

/-- The superseded phase is the superseded state. -/
theorem phaseOf_superseded {state : GenerationState} : phaseOf state = .superseded ↔ state = .superseded := by
  cases state <;> simp [phaseOf]

/-- The retired phase is the revoked state. -/
theorem phaseOf_retired {state : GenerationState} : phaseOf state = .retired ↔ state = .revoked := by
  cases state <;> simp [phaseOf]

/-- The abandoned phase is the orphaned state. -/
theorem phaseOf_abandoned {state : GenerationState} : phaseOf state = .abandoned ↔ state = .orphaned := by
  cases state <;> simp [phaseOf]

def versionOf (o : Identifier) (g : CredentialGeneration) : Version (Identifier × Identifier) (Identifier × Identifier) where
  line := (o, g.credentialId)
  phase := phaseOf g.state
  predecessor := g.predecessorId.map (o, ·)
  successor := g.successorId.map (o, ·)

def ledger (s : InventoryStore) : Ledger (Identifier × Identifier) (Identifier × Identifier) where
  version key := (s.generations key).map (versionOf key.1)
  head key := (s.credentials key).bind fun c => c.activeGenerationId.map (key.1, ·)

/-- A generation is a version of the ledger. -/
theorem ledger_version {o g : Identifier} {x : CredentialGeneration} (h : s.generations (o, g) = some x) :
    (ledger s).version (o, g) = some (versionOf o x) := by
  simp [ledger, h]

private theorem version_set {c : Collection (Identifier × Identifier) CredentialGeneration} {o g : Identifier}
    {x : CredentialGeneration} :
    (fun key => (c.set (o, g) x key).map (versionOf key.1)) =
      Collection.set (fun key => (c key).map (versionOf key.1)) (o, g) (versionOf o x) := by
  funext key
  by_cases hk : key = (o, g)
  · subst hk
    simp
  · simp [hk]

private theorem head_set {c : Collection (Identifier × Identifier) CredentialFields} {o i g : Identifier}
    {x : CredentialFields} (h : x.activeGenerationId = some g) :
    (fun key => (c.set (o, i) x key).bind fun x => x.activeGenerationId.map (key.1, ·)) =
      Collection.set (fun key => (c key).bind fun x => x.activeGenerationId.map (key.1, ·)) (o, i) (o, g) := by
  funext key
  by_cases hk : key = (o, i)
  · subst hk
    simp [h]
  · simp [hk]

structure Placed (s : InventoryStore) : Prop where
  generation : ∀ {o g x}, s.generations (o, g) = some x → x.id = g
  credential : ∀ {o c x}, s.credentials (o, c) = some x → x.id = c
  binding : ∀ {o b x}, s.bindings (o, b) = some x → x.id = b

/-- The first documents stand under their own ids. -/
theorem initial_placed (h : Initial s) : Placed s :=
  ⟨fun hx => by simp [h.generations, Collection.empty] at hx,
    fun hx => by simp [h.credentials, Collection.empty] at hx,
    fun hx => by simp [h.bindings, Collection.empty] at hx⟩

private theorem Placed.set_generation {o g : Identifier} {x : CredentialGeneration} (hp : Placed s)
    (hs : s' = { s with generations := s.generations.set (o, g) x }) (hx : x.id = g) : Placed s' := by
  subst hs
  refine ⟨fun hy => ?_, hp.credential, hp.binding⟩
  rcases Collection.set_eq_some.mp hy with ⟨hk, rfl⟩ | ⟨_, hy⟩
  · cases hk
    exact hx
  · exact hp.generation hy

/-- Bindings that are rewritten keep their ids. -/
theorem Placed.rewritten {keys : List (Identifier × Identifier)} {documents : List ConsumerBinding}
    {change : ConsumerBinding → ConsumerBinding} (hp : Placed s)
    (read : List.Forall₂ (fun key document => s.bindings key = some document) keys documents)
    (keeps : ∀ binding, (change binding).id = binding.id) {o b : Identifier} {x : ConsumerBinding}
    (h : s.bindings.setAll (keys.zip (documents.map change)) (o, b) = some x) : x.id = b := by
  rcases Collection.setAll_map_eq_some read h with ⟨y, _, _, hy, rfl⟩ | ⟨_, hx⟩
  · exact (keeps y).trans (hp.binding hy)
  · exact hp.binding hx

private theorem Placed.imported {item : CredentialImport} (hp : Placed s) (effect : Imported s item s') :
    Placed s' := by
  refine ⟨fun hx => ?_, fun hx => ?_, fun hx => ?_⟩
  · rw [effect.generations] at hx
    rcases Collection.set_eq_some.mp hx with ⟨hk, rfl⟩ | ⟨_, hx⟩
    · cases hk
      rfl
    · exact hp.generation hx
  · rw [effect.credentials] at hx
    rcases Collection.set_eq_some.mp hx with ⟨hk, rfl⟩ | ⟨_, hx⟩
    · cases hk
      rfl
    · exact hp.credential hx
  · obtain ⟨_, _, hiff⟩ := Collection.createAll_ok effect.bindings
    rcases (hiff _ _).mp hx with hmem | hold
    · obtain ⟨y, _, he⟩ := List.mem_map.mp hmem
      cases he
      rfl
    · exact hp.binding hold

private theorem Placed.promoted {o c t p r : Identifier} {ids : List Identifier} {credential : ManagedCredential}
    {target predecessor : CredentialGeneration} {report : VerificationReport} {bindings : List ConsumerBinding}
    (hp : Placed s) (effect : Promoted s o c t p r ids credential target predecessor report bindings s') :
    Placed s' := by
  have keeps (binding : ConsumerBinding) : (Generations.promotedBinding target binding).id = binding.id := rfl
  obtain rfl := effect.store_eq
  refine ⟨fun hx => ?_, fun hx => ?_, hp.rewritten effect.bindings_found keeps⟩
  · rcases Collection.set_eq_some.mp hx with ⟨hk, rfl⟩ | ⟨_, hx⟩
    · cases hk
      exact (hp.generation effect.predecessor_found :)
    · rcases Collection.set_eq_some.mp hx with ⟨hk, rfl⟩ | ⟨_, hx⟩
      · cases hk
        exact (hp.generation effect.target_found :)
      · exact hp.generation hx
  · rcases Collection.set_eq_some.mp hx with ⟨hk, rfl⟩ | ⟨_, hx⟩
    · cases hk
      exact (hp.credential effect.credential_found :)
    · exact hp.credential hx

/-- Every call leaves the documents under their own ids. -/
theorem Placed.step (hp : Placed s) (h : Effect s call s') : Placed s' := by
  cases h with
  | imported item _ effect => exact hp.imported effect
  | reported _ _ store_eq => exact store_eq ▸ ⟨hp.generation, hp.credential, hp.binding⟩
  | created generation _ effect => exact hp.set_generation effect.store_eq rfl
  | rebound effect =>
    obtain ⟨_, _, _, hread, hkeep, rfl⟩ := effect
    exact ⟨hp.generation, hp.credential, hp.rewritten hread fun binding => (hkeep binding).1⟩
  | promoted o c t p r ids credential target predecessor report bindings _ effect => exact hp.promoted effect
  | revoked o g r now _ effect =>
    obtain ⟨generation, hg, _, hs⟩ := effect
    exact hp.set_generation hs (hp.generation hg :)
  | orphaned o g _ effect =>
    obtain ⟨generation, hg, _, hs⟩ := effect
    exact hp.set_generation hs (hp.generation hg :)
  | unchanged store_eq => exact store_eq ▸ hp

/-- An import brings a generation that is in use. -/
def Admissible : Call → Prop
  | .importCredential item => item.generation.state = .active
  | _ => True

instance (call : Call) : Decidable (Admissible call) := by
  cases call <;> simp only [Admissible] <;> infer_instance

/-- Every call that takes effect is a step of the succession, or leaves it as it is. -/
theorem Effect.simulates (hp : Placed s) (ok : Admissible call) (h : Effect s call s') :
    ledger s' = ledger s ∨ Ledger.Step (ledger s) (ledger s') := by
  cases h with
  | imported item is_call effect =>
    subst is_call
    refine .inr ?_
    have hl : ledger s' = ⟨(ledger s).version.set (item.credential.organisationId, item.generation.id)
          (versionOf item.credential.organisationId item.generation),
        (ledger s).head.set (item.credential.organisationId, item.credential.id)
          (item.credential.organisationId, item.generation.id)⟩ := by
      simp only [ledger, effect.generations, effect.credentials, version_set, head_set effect.active]
    rw [hl]
    refine .found _ _ _ ?_ ?_ ?_ (phaseOf_active.mpr ok)
    · simp [ledger, effect.new_generation]
    · simp [ledger, effect.new_credential]
    · rw [versionOf, effect.generation_credential]
  | reported _ _ store_eq => exact .inl (by rw [store_eq]; rfl)
  | created generation _ effect =>
    obtain rfl := effect.store_eq
    refine .inr ?_
    have hl : ledger { s with generations := s.generations.set (generation.organisationId, generation.id) generation } =
        ⟨(ledger s).version.set (generation.organisationId, generation.id)
          (versionOf generation.organisationId generation), (ledger s).head⟩ := by
      simp only [ledger, version_set]
    rw [hl]
    refine .enrol _ _ ?_ ?_
    · simp [ledger, effect.new]
    · rw [versionOf, effect.state]
      rfl
  | rebound effect =>
    obtain ⟨_, _, _, _, _, rfl⟩ := effect
    exact .inl rfl
  | promoted o c t p r ids credential target predecessor report bindings _ effect =>
    obtain rfl := effect.store_eq
    have ht : target.id = t := hp.generation effect.target_found
    have hpr : predecessor.id = p := hp.generation effect.predecessor_found
    have hc : credential.id = c := hp.credential effect.credential_found
    refine .inr ?_
    have step := Ledger.Step.promote (l := ledger s) (o, c) (o, p) (o, t) (versionOf o predecessor)
      (versionOf o target) ?_ (ledger_version effect.predecessor_found) (ledger_version effect.target_found)
      ?_ (phaseOf_active.mpr effect.current) ?_
    · have hl : ledger { s with
            generations := (s.generations.set (o, t) (Generations.activated target predecessor)).set (o, p)
              (Generations.superseded predecessor target)
            credentials := s.credentials.set (o, c)
              (Generations.promotedCredential credential.toCredentialFields target report)
            bindings := s.bindings.setAll
              ((keysOf o ids).zip (bindings.map (Generations.promotedBinding target))) } =
          ⟨((ledger s).version.set (o, t) (versionOf o (Generations.activated target predecessor))).set (o, p)
              (versionOf o (Generations.superseded predecessor target)), (ledger s).head.set (o, c) (o, t)⟩ := by
        have hact : (Generations.promotedCredential credential.toCredentialFields target
            report).activeGenerationId = some t := congrArg some ht
        simp only [ledger, version_set, head_set hact]
      rw [hl]
      simpa only [versionOf, Generations.activated, Generations.superseded, Option.map_some, ht, hpr,
        phaseOf] using step
    · simp [ledger, effect.credential_found, effect.active]
    · rw [versionOf, effect.target_credential, hc]
    · rw [versionOf, effect.waiting]
      rfl
  | revoked o g r now _ effect =>
    obtain ⟨generation, hg, hstate, rfl⟩ := effect
    refine .inr ?_
    have step := Ledger.Step.retire (l := ledger s) (o, g) (versionOf o generation) (ledger_version hg)
      (phaseOf_superseded.mpr hstate)
    have hl : ledger { s with generations := s.generations.set (o, g) (Generations.revoked generation now) } =
        ⟨(ledger s).version.set (o, g) (versionOf o (Generations.revoked generation now)), (ledger s).head⟩ := by
      simp only [ledger, version_set]
    rw [hl]
    exact step
  | orphaned o g _ effect =>
    obtain ⟨generation, hg, hstate, rfl⟩ := effect
    refine .inr ?_
    have waiting : phaseOf generation.state = .waiting := by
      rcases List.mem_cons.mp hstate with h | h
      · rw [h]
        rfl
      · rw [List.mem_singleton.mp h]
        rfl
    have step := Ledger.Step.abandon (l := ledger s) (o, g) (versionOf o generation) (ledger_version hg) waiting
    have hl : ledger { s with generations := s.generations.set (o, g) (Generations.orphaned generation) } =
        ⟨(ledger s).version.set (o, g) (versionOf o (Generations.orphaned generation)), (ledger s).head⟩ := by
      simp only [ledger, version_set]
    rw [hl]
    exact step
  | unchanged store_eq => exact .inl (by rw [store_eq])

end Uumi.Generation
