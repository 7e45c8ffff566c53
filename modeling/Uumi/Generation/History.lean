import Uumi.Generation.Consumers
import Uumi.Generation.Validity

/-! The lineage of generations over whole histories of calls. -/
namespace Uumi.Generation
open Uumi.Contracts Uumi.Core Uumi.Foundations Uumi.Policy Uumi.Storage

variable {hashing : Hashing} {s s' s₀ : InventoryStore} {call : Call}

/-- The invariant of the calls whose imports bring a generation in use. -/
structure Sound (s : InventoryStore) : Prop where
  placed : Placed s
  coherent : (ledger s).Coherent
  bound : Bound s

/-- The first documents are sound. -/
theorem initial_sound (h : Initial s) : Sound s := by
  refine ⟨initial_placed h, ?_, initial_bound h⟩
  have hl : ledger s = ⟨Collection.empty, Collection.empty⟩ := by
    simp only [ledger, h.generations, h.credentials]
    rfl
  rw [hl]
  exact Ledger.coherent_empty

/-- Every admissible call keeps the documents sound. -/
theorem Sound.step (hs : Sound s) (ok : Admissible call) (h : Effect s call s') : Sound s' := by
  refine ⟨hs.placed.step h, ?_, hs.bound.step hs.placed h⟩
  rcases h.simulates hs.placed ok with hl | hl
  · exact hl ▸ hs.coherent
  · exact hs.coherent.step hl

variable (hashing) in
/-- Every sequence of admissible calls keeps the documents sound. -/
theorem run_sound (calls : List Call) (hok : ∀ call ∈ calls, Admissible call) (h : Sound s) :
    Sound ((inventory hashing).run s calls) :=
  (inventory hashing).run_invariant (A := Admissible)
    (fun _ _ _ _ ok hs hp => hs.step ok (perform_effect hp)) calls hok s h

/-- The lineage of the generations of every credential. -/
structure Lineage (s : InventoryStore) : Prop where
  /-- The active generations of a credential are the one that it names. -/
  active_iff : ∀ o c g, (∃ x, s.generations (o, g) = some x ∧ x.credentialId = c ∧ x.state = .active) ↔
    ∃ credential, s.credentials (o, c) = some credential ∧ credential.activeGenerationId = some g
  /-- At most one generation of a credential is active. -/
  one_active : ∀ o g g' x x', s.generations (o, g) = some x → s.generations (o, g') = some x' →
    x.credentialId = x'.credentialId → x.state = .active → x'.state = .active → g = g'
  /-- A superseded generation names an existing successor whose predecessor it is. -/
  superseded : ∀ o g x, s.generations (o, g) = some x → x.state = .superseded →
    ∃ g' x', x.successorId = some g' ∧ s.generations (o, g') = some x' ∧ x'.predecessorId = some g
  /-- An orphaned generation is the active one of no credential. -/
  orphaned : ∀ o c g x credential, s.generations (o, g) = some x → x.state = .orphaned →
    s.credentials (o, c) = some credential → credential.activeGenerationId ≠ some g
  /-- The bindings of a credential use its active generation. -/
  bindings : ∀ o b x, s.bindings (o, b) = some x → ∃ credential,
    s.credentials (o, x.credentialId) = some credential ∧
      credential.activeGenerationId = some x.currentGenerationId

/-- Sound documents have a lineage. -/
theorem Sound.lineage (hs : Sound s) : Lineage s := by
  have active_iff (o c g : Identifier) :
      (∃ x, s.generations (o, g) = some x ∧ x.credentialId = c ∧ x.state = .active) ↔
        ∃ credential, s.credentials (o, c) = some credential ∧ credential.activeGenerationId = some g := by
    have h := hs.coherent.head_iff (o, c) (o, g)
    simp only [ledger, Option.bind_eq_some_iff, Option.map_eq_some_iff] at h
    constructor
    · rintro ⟨x, hx, hc, ha⟩
      obtain ⟨credential, hcred, g', hg', he⟩ := h.mpr
        ⟨versionOf o x, ⟨x, hx, rfl⟩, by rw [versionOf, hc], phaseOf_active.mpr ha⟩
      cases he
      exact ⟨credential, hcred, hg'⟩
    · rintro ⟨credential, hcred, hg⟩
      obtain ⟨_, ⟨x, hx, rfl⟩, hl, ha⟩ := h.mp ⟨credential, hcred, g, hg, rfl⟩
      exact ⟨x, hx, (Prod.mk.inj hl).2, phaseOf_active.mp ha⟩
  refine ⟨active_iff, ?_, ?_, ?_, ?_⟩
  · intro o g g' x x' hx hx' hc ha ha'
    obtain ⟨credential, hcred, hg⟩ := (active_iff o x.credentialId g).mp ⟨x, hx, rfl, ha⟩
    obtain ⟨credential', hcred', hg'⟩ := (active_iff o x.credentialId g').mp ⟨x', hx', hc.symm, ha'⟩
    rw [hcred] at hcred'
    cases hcred'
    exact Option.some.inj (hg.symm.trans hg')
  · intro o g x hx hstate
    obtain ⟨w, y, hw, hy, hp, _⟩ := hs.coherent.chained (o, g) (versionOf o x) (ledger_version hx)
      (phaseOf_superseded.mpr hstate)
    obtain ⟨g', hg', rfl⟩ := Option.map_eq_some_iff.mp hw
    obtain ⟨x', hx', rfl⟩ := Option.map_eq_some_iff.mp hy
    obtain ⟨p, hp, he⟩ := Option.map_eq_some_iff.mp hp
    cases he
    exact ⟨g', x', hg', hx', hp⟩
  · intro o c g x credential hx hstate hcred hg
    obtain ⟨x', hx', _, ha⟩ := (active_iff o c g).mpr ⟨credential, hcred, hg⟩
    rw [hx] at hx'
    cases hx'
    rw [hstate] at ha
    cases ha
  · intro o b x hx
    obtain ⟨_, credential, hcred, _, hact⟩ := hs.bound.owner hx
    exact ⟨credential, hcred, hact⟩

/-- What a call does to the states that are never left or entered freely. -/
structure Moves (s s' : InventoryStore) : Prop where
  /-- A generation is revoked only after it was superseded. -/
  into_revoked : ∀ o g y, s'.generations (o, g) = some y → y.state = .revoked →
    ∃ x, s.generations (o, g) = some x ∧ (x.state = .superseded ∨ x.state = .revoked)
  of_revoked : ∀ o g x, s.generations (o, g) = some x → x.state = .revoked →
    ∃ y, s'.generations (o, g) = some y ∧ y.state = .revoked
  of_orphaned : ∀ o g x, s.generations (o, g) = some x → x.state = .orphaned →
    ∃ y, s'.generations (o, g) = some y ∧ y.state = .orphaned

private theorem Effect.next (h : Effect s call s') (hp : Placed s) (ok : Admissible call) {o g : Identifier}
    {x : CredentialGeneration} (hx : s.generations (o, g) = some x) :
    ∃ y, s'.generations (o, g) = some y ∧ (phaseOf x.state).Next (phaseOf y.state) := by
  have hv := ledger_version hx
  rcases h.simulates hp ok with hl | hl
  · rw [← hl] at hv
    obtain ⟨y, hy, he⟩ := Option.map_eq_some_iff.mp hv
    have hphase : phaseOf y.state = phaseOf x.state := congrArg Version.phase he
    exact ⟨y, hy, hphase ▸ .stay _⟩
  · obtain ⟨v, hv', _, hn⟩ := hl.next hv
    obtain ⟨y, hy, rfl⟩ := Option.map_eq_some_iff.mp hv'
    exact ⟨y, hy, hn⟩

/-- What an admissible call does to each generation is a move of its lineage. -/
theorem Effect.moves (h : Effect s call s') (hp : Placed s) (ok : Admissible call) : Moves s s' := by
  refine ⟨fun o g y hy hstate => ?_, fun o g x hx hstate => ?_, fun o g x hx hstate => ?_⟩
  · cases hx : s.generations (o, g) with
    | none =>
      exfalso
      have hn : (ledger s).version (o, g) = none := by simp [ledger, hx]
      have hv := ledger_version hy
      rcases h.simulates hp ok with hl | hl
      · rw [hl, hn] at hv
        cases hv
      · have hstart := hl.starts hn hv
        rw [versionOf, phaseOf_retired.mpr hstate] at hstart
        rcases hstart with (hp | hp) <;> cases hp
    | some x =>
      obtain ⟨y', hy', hn⟩ := h.next hp ok hx
      rw [hy] at hy'
      cases hy'
      rw [phaseOf_retired.mpr hstate] at hn
      exact ⟨x, rfl, hn.into_retired.imp phaseOf_superseded.mp phaseOf_retired.mp⟩
  · obtain ⟨y, hy, hn⟩ := h.next hp ok hx
    rw [phaseOf_retired.mpr hstate] at hn
    exact ⟨y, hy, phaseOf_retired.mp hn.of_retired⟩
  · obtain ⟨y, hy, hn⟩ := h.next hp ok hx
    rw [phaseOf_abandoned.mpr hstate] at hn
    exact ⟨y, hy, phaseOf_abandoned.mp hn.of_abandoned⟩

private theorem moves_refl (s : InventoryStore) : Moves s s :=
  ⟨fun _ _ y hy hstate => ⟨y, hy, .inr hstate⟩, fun _ _ x hx hstate => ⟨x, hx, hstate⟩,
    fun _ _ x hx hstate => ⟨x, hx, hstate⟩⟩

private theorem exec_moves (hs : Sound s) (ok : Admissible call) :
    Moves s ((inventory hashing).exec s call) := by
  rcases (inventory hashing).exec_cases s call with ⟨_, _, he⟩ | ⟨_, s', hp, he⟩
  · rw [he]
    exact moves_refl s
  · rw [he]
    exact (perform_effect hp).moves hs.placed ok

def SettledAt (s : InventoryStore) (o g : Identifier) : Prop :=
  ∃ x, s.generations (o, g) = some x ∧ (phaseOf x.state).Settled

private theorem run_settled {o g : Identifier} (calls : List Call) (hok : ∀ call ∈ calls, Admissible call)
    (hs : Sound s) (h : SettledAt s o g) : SettledAt ((inventory hashing).run s calls) o g := by
  refine ((inventory hashing).run_invariant (I := fun s => Sound s ∧ SettledAt s o g) (A := Admissible)
    (fun s call u s' ok hi hp => ?_) calls hok s ⟨hs, h⟩).2
  obtain ⟨hs, x, hx, hset⟩ := hi
  have effect := perform_effect hp
  obtain ⟨y, hy, hn⟩ := effect.next hs.placed ok hx
  exact ⟨hs.step ok effect, y, hy, hn.settled hset⟩

private theorem run_revoked {o g : Identifier} (calls : List Call) (hok : ∀ call ∈ calls, Admissible call)
    (hs : Sound s) (h : ∃ x, s.generations (o, g) = some x ∧ x.state = .revoked) :
    ∃ x, ((inventory hashing).run s calls).generations (o, g) = some x ∧ x.state = .revoked := by
  refine ((inventory hashing).run_invariant
    (I := fun s => Sound s ∧ ∃ x, s.generations (o, g) = some x ∧ x.state = .revoked) (A := Admissible)
    (fun s call u s' ok hi hp => ?_) calls hok s ⟨hs, h⟩).2
  obtain ⟨hs, x, hx, hstate⟩ := hi
  have effect := perform_effect hp
  exact ⟨hs.step ok effect, (effect.moves hs.placed ok).of_revoked o g x hx hstate⟩

private theorem promote_settles {o c t p r : Identifier} {ids : List Identifier} {u : Unit}
    (h : (inventory hashing).perform s (.promote o c t p r ids) = .ok (u, s')) : SettledAt s' o t := by
  obtain ⟨result, h⟩ := answer_ok h
  rcases promote_ok h with ⟨credential, target, predecessor, report, bindings, effect⟩ | ⟨rfl, ht, ha, _⟩
  · have hne : (o, t) ≠ (o, p) := by
      intro he
      cases he
      have := effect.target_found.symm.trans effect.predecessor_found
      have hw := effect.waiting
      rw [Option.some.inj this, effect.current] at hw
      cases hw
    refine ⟨Generations.activated target predecessor, ?_, Phase.settled_active⟩
    rw [effect.store_eq]
    exact (Collection.set_of_ne hne).trans (Collection.set_same ..)
  · exact ⟨result, ht, ha ▸ Phase.settled_active⟩

private theorem promote_unchanged {o c t p r : Identifier} {ids : List Identifier} (h : SettledAt s o t) :
    (inventory hashing).exec s (.promote o c t p r ids) = s := by
  rcases (inventory hashing).exec_cases s (.promote o c t p r ids) with ⟨_, _, he⟩ | ⟨_, s', hp, he⟩
  · exact he
  · rw [he]
    obtain ⟨result, hp⟩ := answer_ok hp
    rcases promote_ok hp with ⟨credential, target, predecessor, report, bindings, effect⟩ | ⟨heq, _⟩
    · obtain ⟨x, hx, hset⟩ := h
      rw [effect.target_found] at hx
      cases hx
      rw [effect.waiting] at hset
      exact absurd rfl hset.1
    · exact heq

private theorem revoke_revokes {o g r : Identifier} {now : AwareDatetime} {u : Unit}
    (h : (inventory hashing).perform s (.revoke o g r now) = .ok (u, s')) :
    ∃ x, s'.generations (o, g) = some x ∧ x.state = .revoked := by
  obtain ⟨result, h⟩ := answer_ok h
  rcases revoke_ok h with ⟨generation, _, _, rfl⟩ | ⟨rfl, hg, hr⟩
  · exact ⟨_, Collection.set_same .., rfl⟩
  · exact ⟨result, hg, hr⟩

private theorem revoke_unchanged {o g r : Identifier} {now : AwareDatetime}
    (h : ∃ x, s.generations (o, g) = some x ∧ x.state = .revoked) :
    (inventory hashing).exec s (.revoke o g r now) = s := by
  rcases (inventory hashing).exec_cases s (.revoke o g r now) with ⟨_, _, he⟩ | ⟨_, s', hp, he⟩
  · exact he
  · rw [he]
    obtain ⟨result, hp⟩ := answer_ok hp
    rcases revoke_ok hp with ⟨generation, hg, hsup, _⟩ | ⟨heq, _⟩
    · obtain ⟨x, hx, hstate⟩ := h
      rw [hg] at hx
      cases hx
      rw [hsup] at hstate
      cases hstate
    · exact heq

/-- The lineage of a state, what a next call may change, and that a repeated promotion or
revocation changes nothing, then or later. -/
structure LineageGuarantees (hashing : Hashing) (s : InventoryStore) : Prop extends Lineage s where
  moves : ∀ call, Admissible call → Moves s ((inventory hashing).exec s call)
  promote_again : ∀ o c t p r ids u s', (inventory hashing).perform s (.promote o c t p r ids) = .ok (u, s') →
    ∀ calls, (∀ call ∈ calls, Admissible call) →
      (inventory hashing).exec ((inventory hashing).run s' calls) (.promote o c t p r ids) =
        (inventory hashing).run s' calls
  revoke_again : ∀ o g r now u s', (inventory hashing).perform s (.revoke o g r now) = .ok (u, s') →
    ∀ calls, (∀ call ∈ calls, Admissible call) → ∀ later,
      (inventory hashing).exec ((inventory hashing).run s' calls) (.revoke o g r later) =
        (inventory hashing).run s' calls

/-- Generation lineage after every history whose imports bring generations in use. -/
theorem lineage_history (h : Initial s₀) (calls : List Call) (hok : ∀ call ∈ calls, Admissible call) :
    LineageGuarantees hashing ((inventory hashing).run s₀ calls) := by
  have hs := run_sound hashing calls hok (initial_sound h)
  refine { toLineage := hs.lineage, moves := ?_, promote_again := ?_, revoke_again := ?_ }
  · intro call ok
    exact exec_moves hs ok
  · intro o c t p r ids u s' hp calls hok
    have hs' := hs.step (show Admissible (.promote o c t p r ids) from trivial) (perform_effect hp)
    exact promote_unchanged (run_settled calls hok hs' (promote_settles hp))
  · intro o g r now u s' hp calls hok later
    have hs' := hs.step (show Admissible (.revoke o g r now) from trivial) (perform_effect hp)
    exact revoke_unchanged (run_revoked calls hok hs' (revoke_revokes hp))

private theorem sampleInventory_initial : Initial sampleInventory := ⟨rfl, rfl, rfl⟩

private theorem sampleInventory_imports (state : GenerationState) :
    (inventory Hashing.sample).perform sampleInventory (.importCredential (sampleImport state)) =
      .ok ((), sampleImported state) := by
  simp only [inventory, sampleImport_ok, ok_bind]
  rfl

def sampleRejection : VerificationReport :=
  { samplePassedReport with id := ⟨"report-2", by decide⟩, generationId := (sampleGeneration .active).id }

/-- A replacement is created, staged, verified and promoted, and the old generation is revoked; then the promotion is
repeated. -/
def sampleHistory : List Call :=
  let promotion := Call.promote sampleCredential.organisationId sampleCredential.id sampleReplacement.id
    (sampleGeneration .active).id samplePassedReport.id [sampleBinding.id]
  [.importCredential (sampleImport .active), .create sampleReplacement,
    .stageBindings sampleCredential.organisationId sampleCredential.id sampleReplacement.id
      "projects/demo/secrets/key/versions/2" [sampleBinding.id],
    .saveReport samplePassedReport,
    .verifyBindings sampleCredential.organisationId sampleReplacement.id samplePassedReport.id [sampleBinding.id],
    promotion, .saveReport sampleRejection,
    .revoke sampleCredential.organisationId (sampleGeneration .active).id sampleRejection.id ⟨20, 0⟩, promotion]

/-- A replacement that is created, staged, verified and promoted supersedes the generation that is then revoked. -/
theorem lineage_history_sample :
    (((inventory Hashing.sample).run sampleInventory sampleHistory).generations
        (sampleCredential.organisationId, sampleReplacement.id)).map CredentialGeneration.state = some .active ∧
    (((inventory Hashing.sample).run sampleInventory sampleHistory).generations
        (sampleCredential.organisationId, (sampleGeneration .active).id)).map CredentialGeneration.state = some .revoked ∧
    LineageGuarantees Hashing.sample ((inventory Hashing.sample).run sampleInventory sampleHistory) := by
  refine ⟨?_, ?_, lineage_history sampleInventory_initial sampleHistory (by decide)⟩
  · rw [sampleHistory, Service.run_cons, Service.exec_of_ok _ (sampleInventory_imports .active)]
    rfl
  · rw [sampleHistory, Service.run_cons, Service.exec_of_ok _ (sampleInventory_imports .active)]
    rfl

def sampleOrphaned : InventoryStore :=
  { sampleImported .creating with
    generations := (sampleImported .creating).generations.set
      (sampleCredential.organisationId, (sampleGeneration .creating).id)
      (Generations.orphaned (sampleGeneration .creating)) }

private theorem sampleOrphaned_reachable : (inventory Hashing.sample).Reachable Initial sampleOrphaned := by
  refine ⟨sampleInventory, [.importCredential (sampleImport .creating),
    .orphan sampleCredential.organisationId (sampleGeneration .creating).id], sampleInventory_initial, ?_⟩
  rw [Service.run_cons, Service.exec_of_ok _ (sampleInventory_imports .creating)]
  rfl

/-- An import does not ask for a generation in use, and an unused one may be orphaned while its
credential names it as active. -/
theorem imported_orphan_active : ¬ ∀ hashing s, (inventory hashing).Reachable Initial s → Lineage s := by
  intro h
  have hl := h Hashing.sample sampleOrphaned sampleOrphaned_reachable
  have hg : sampleOrphaned.generations (sampleCredential.organisationId, (sampleGeneration .creating).id) =
      some (Generations.orphaned (sampleGeneration .creating)) := rfl
  have hc : sampleOrphaned.credentials (sampleCredential.organisationId, sampleCredential.id) =
      some sampleCredential.toCredentialFields := rfl
  exact hl.orphaned _ _ _ _ _ hg rfl hc rfl

end Uumi.Generation
