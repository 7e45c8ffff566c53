import Uumi.Generation.Service

/-! The effect of a call on credentials, generations and bindings. -/
namespace Uumi.Generation
open Uumi.Contracts Uumi.Core Uumi.Foundations Uumi.Policy Uumi.Storage

variable {hashing : Hashing} {s s' : InventoryStore}

-- a binding keeps its other fields, whatever stripping does to its reference
attribute [local irreducible] strip

/-- An import that took effect. -/
structure Imported (s : InventoryStore) (item : CredentialImport) (s' : InventoryStore) : Prop where
  new_credential : s.credentials (item.credential.organisationId, item.credential.id) = none
  new_generation : s.generations (item.credential.organisationId, item.generation.id) = none
  generation_organisation : item.generation.organisationId = item.credential.organisationId
  generation_credential : item.generation.credentialId = item.credential.id
  active : item.credential.activeGenerationId = some item.generation.id
  covers : item.bindings.length = item.credential.consumerIds.length ∧
    item.credential.consumerIds.toFinset = (item.bindings.map ConsumerBinding.serviceId).toFinset
  bound : ∀ binding ∈ item.bindings, binding.organisationId = item.credential.organisationId ∧
    binding.credentialId = item.credential.id ∧ binding.currentGenerationId = item.generation.id
  credentials : s'.credentials =
    s.credentials.set (item.credential.organisationId, item.credential.id) item.credential.toCredentialFields
  generations : s'.generations =
    s.generations.set (item.credential.organisationId, item.generation.id) item.generation
  bindings : s.bindings.createAll (fun key => Error.alreadyExists key.2.text)
    (item.bindings.map fun binding => ((binding.organisationId, binding.id), binding)) = .ok s'.bindings

/-- A generation that was created. -/
structure Created (s : InventoryStore) (generation : CredentialGeneration) (s' : InventoryStore) : Prop where
  state : generation.state = .creating
  new : s.generations (generation.organisationId, generation.id) = none
  store_eq : s' =
    { s with generations := s.generations.set (generation.organisationId, generation.id) generation }

/-- Bindings that changed without changing hands. -/
structure Rebound (s : InventoryStore) (s' : InventoryStore) : Prop where
  keys : ∃ (keys : List (Identifier × Identifier)) (documents : List ConsumerBinding)
    (change : ConsumerBinding → ConsumerBinding),
    List.Forall₂ (fun key document => s.bindings key = some document) keys documents ∧
    (∀ binding, (change binding).id = binding.id ∧
      (change binding).organisationId = binding.organisationId ∧
      (change binding).credentialId = binding.credentialId ∧
      (change binding).serviceId = binding.serviceId ∧
      (change binding).currentGenerationId = binding.currentGenerationId) ∧
    s' = { s with bindings := s.bindings.setAll (keys.zip (documents.map change)) }

/-- A promotion that took effect. -/
structure Promoted (s : InventoryStore) (o c t p r : Identifier) (ids : List Identifier)
    (credential : ManagedCredential) (target predecessor : CredentialGeneration)
    (report : VerificationReport) (bindings : List ConsumerBinding) (s' : InventoryStore) : Prop where
  credential_found : s.credentials (o, c) = some credential.toCredentialFields
  target_found : s.generations (o, t) = some target
  predecessor_found : s.generations (o, p) = some predecessor
  report_found : s.reports (o, r) = some report
  bindings_found :
    List.Forall₂ (fun key document => s.bindings key = some document) (keysOf o ids) bindings
  active : credential.activeGenerationId = some p
  waiting : target.state = .creating
  current : predecessor.state = .active
  target_credential : target.credentialId = credential.id
  covers : (bindings.map ConsumerBinding.serviceId).toFinset = credential.consumerIds.toFinset
  verified : ∀ binding ∈ bindings,
    Generations.Verified credential.toCredentialFields target predecessor report binding
  store_eq : s' =
    { s with
      generations := (s.generations.set (o, t) (Generations.activated target predecessor)).set (o, p)
        (Generations.superseded predecessor target)
      credentials := s.credentials.set (o, c)
        (Generations.promotedCredential credential.toCredentialFields target report)
      bindings := s.bindings.setAll
        ((keysOf o ids).zip (bindings.map (Generations.promotedBinding target))) }

/-- A generation that was revoked. -/
structure Revoked (s : InventoryStore) (o g : Identifier) (now : AwareDatetime) (s' : InventoryStore) : Prop where
  effect : ∃ generation, s.generations (o, g) = some generation ∧ generation.state = .superseded ∧
    s' = { s with generations := s.generations.set (o, g) (Generations.revoked generation now) }

/-- A generation that was orphaned. -/
structure Orphaned (s : InventoryStore) (o g : Identifier) (s' : InventoryStore) : Prop where
  effect : ∃ generation, s.generations (o, g) = some generation ∧ generation.state ∈ [.creating, .unknown] ∧
    s' = { s with generations := s.generations.set (o, g) (Generations.orphaned generation) }

/-- What a successful call did. -/
inductive Effect (s : InventoryStore) (call : Call) (s' : InventoryStore) : Prop
  | imported (item : CredentialImport) (is_call : call = .importCredential item) (effect : Imported s item s')
  | reported (report : VerificationReport) (is_call : call = .saveReport report)
      (store_eq : s' = { s with reports := s.reports.set (report.organisationId, report.id) report })
  | created (generation : CredentialGeneration) (is_call : call = .create generation)
      (effect : Created s generation s')
  | rebound (effect : Rebound s s')
  | promoted (o c t p r : Identifier) (ids : List Identifier) (credential : ManagedCredential)
      (target predecessor : CredentialGeneration) (report : VerificationReport)
      (bindings : List ConsumerBinding) (is_call : call = .promote o c t p r ids)
      (effect : Promoted s o c t p r ids credential target predecessor report bindings s')
  | revoked (o g r : Identifier) (now : AwareDatetime) (is_call : call = .revoke o g r now)
      (effect : Revoked s o g now s')
  | orphaned (o g : Identifier) (is_call : call = .orphan o g) (effect : Orphaned s o g s')
  | unchanged (store_eq : s' = s)

private theorem consumers_bindings {item : CredentialImport} {bindings : List ConsumerBinding}
    {consumers : List (ConsumerBinding × ConsumerService × Connection)}
    (h : item.consumers s bindings = some consumers) : consumers.map Prod.fst = bindings := by
  induction bindings generalizing consumers with
  | nil =>
    cases h
    rfl
  | cons binding bindings ih =>
    simp only [CredentialImport.consumers, Option.bind_eq_bind, Option.bind_eq_some_iff,
      Option.pure_def, Option.some.injEq] at h
    obtain ⟨_, _, _, _, rest, hrest, rfl⟩ := h
    rw [List.map_cons, ih hrest]

/-- An import that returns has written the credential, its generation and its bindings. -/
theorem importCredential_ok {item : CredentialImport} {credential : ManagedCredential}
    (h : importCredential hashing s item = .ok (credential, s')) : Imported s item s' := by
  simp only [importCredential, unit_bind_ok, required_bind_ok, forEach_ok] at h
  obtain ⟨hfresh, management, _, secretStore, _, consumers, hc, _, _, hlin, _, hcov, _, hbound, h⟩ := h
  rw [bind_ok] at h
  obtain ⟨store, hcommit, h⟩ := h
  rw [pure_ok, Prod.mk.injEq] at h
  obtain ⟨rfl, rfl⟩ := h
  simp only [CredentialImport.checkFresh, unit_bind_ok, raiseIf_ok, not_or, Bool.not_eq_true,
    Option.isSome_eq_false_iff, Option.isNone_iff_eq_none] at hfresh
  simp only [CredentialImport.checkLineage, raiseIf_ok, not_or, not_not] at hlin
  simp only [CredentialImport.checkCoverage, raiseIf_ok, not_or, not_not] at hcov
  simp only [CredentialImport.commit, bind_ok, pure_ok] at hcommit
  obtain ⟨probes, _, bindings, hb, rfl⟩ := hcommit
  refine ⟨hfresh.1.1, ?_, hlin.1, hlin.2.1, hlin.2.2.1, hcov, ?_, ?_, ?_, ?_⟩
  · rw [← hlin.1]
    exact hfresh.1.2.1
  · intro binding hmem
    rw [← consumers_bindings hc] at hmem
    obtain ⟨⟨b, service, runtime⟩, hmem', rfl⟩ := List.mem_map.mp hmem
    have := hbound _ hmem'
    simp only [CredentialImport.checkConsumer, raiseIf_ok, not_or, not_not] at this
    exact ⟨this.1, this.2.1, this.2.2.1⟩
  · cases item.setup <;> rfl
  · rw [← hlin.1]
    cases item.setup <;> rfl
  · cases hset : item.setup <;> simpa only [hset] using hb

/-- A creation that returns has created the generation, or found it as it is. -/
theorem create_ok {generation result : CredentialGeneration}
    (h : create s generation = .ok (result, s')) : Created s generation s' ∨ s' = s := by
  simp only [create, unit_bind_ok, raiseIf_ok, not_not, not_or] at h
  obtain ⟨hstate, _, h⟩ := h
  unfold Generations.create at h
  cases hg : s.generations (generation.organisationId, generation.id) with
  | some current =>
    simp only [hg] at h
    split at h
    · cases h
      exact .inr rfl
    · cases h
  | none =>
    simp only [hg] at h
    cases h
    exact .inl ⟨hstate, hg, rfl⟩

private theorem stageBindings_ok {o c t : Identifier} {reference : String} {ids result : List Identifier}
    (h : stageBindings s o c t reference ids = .ok (result, s')) : Rebound s s' := by
  simp only [stageBindings, Generations.stageBindings, unit_bind_ok, required_bind_ok, pure_ok,
    Prod.mk.injEq] at h
  obtain ⟨_, bindings, hb, _, _, _, _, rfl⟩ := h
  exact ⟨_, bindings, Generations.stagedBinding t reference, Collection.getAll_eq_some.mp hb,
    fun _ => ⟨rfl, rfl, rfl, rfl, rfl⟩, rfl⟩

/-- A verification stamps its report on some bindings. -/
theorem verifyBindings_ok {o t r : Identifier} {ids result : List Identifier}
    (h : verifyBindings s o t r ids = .ok (result, s')) :
    ids ≠ [] ∧ ∃ bindings,
      List.Forall₂ (fun key document => s.bindings key = some document) (keysOf o ids) bindings ∧
      s' = { s with
        bindings := s.bindings.setAll ((keysOf o ids).zip (bindings.map (Generations.verifiedBinding r))) } := by
  simp only [verifyBindings, Generations.verifyBindings, unit_bind_ok, required_bind_ok, raiseIf_ok, pure_ok,
    Prod.mk.injEq] at h
  obtain ⟨hids, report, _, bindings, hb, _, _, _, _, rfl⟩ := h
  exact ⟨hids, bindings, Collection.getAll_eq_some.mp hb, rfl⟩

private theorem verifyBindings_rebound {o t r : Identifier} {ids result : List Identifier}
    (h : verifyBindings s o t r ids = .ok (result, s')) : Rebound s s' := by
  obtain ⟨_, bindings, hread, rfl⟩ := verifyBindings_ok h
  exact ⟨_, bindings, Generations.verifiedBinding r, hread, fun _ => ⟨rfl, rfl, rfl, rfl, rfl⟩, rfl⟩

/-- A promotion takes effect, or finds its target active and the credential on it. -/
theorem promote_ok {o c t p r : Identifier} {ids : List Identifier} {result : CredentialGeneration}
    (h : promote s o c t p r ids = .ok (result, s')) :
    (∃ credential target predecessor report bindings,
      Promoted s o c t p r ids credential target predecessor report bindings s') ∨
    (s' = s ∧ s.generations (o, t) = some result ∧ result.state = .active ∧
      ∃ credential, s.credentials (o, c) = some credential ∧ credential.activeGenerationId = some t) := by
  simp only [promote, Generations.promote, unit_bind_ok, required_bind_ok] at h
  obtain ⟨_, document, hd, target, ht, predecessor, hp, report, hr, bindings, hb, h⟩ := h
  rw [bind_ok] at h
  obtain ⟨credential, hc, h⟩ := h
  rw [ManagedCredential.modelValidate_ok] at hc
  simp only [unit_bind_ok] at h
  obtain ⟨_, h⟩ := h
  split at h
  · rename_i hact
    rw [pure_ok, Prod.mk.injEq] at h
    obtain ⟨rfl, rfl⟩ := h
    exact .inr ⟨rfl, ht, hact.2, credential.toCredentialFields, by rw [hc, hd], hact.1⟩
  · simp only [Generations.checkPromotion, unit_bind_ok, forEach_ok, raiseIf_ok, not_not, not_or,
      pure_ok, Prod.mk.injEq] at h
    obtain ⟨⟨h1, h2, h3, h4, h5, h6⟩, _, rfl⟩ := h
    refine .inl ⟨credential, target, predecessor, report, bindings, by rw [hc, hd], ht, hp, hr,
      Collection.getAll_eq_some.mp hb, h1, h2, h3, h4.1, h5, h6, rfl⟩

/-- A revocation that returns has revoked the generation, or found it revoked. -/
theorem revoke_ok {o g r : Identifier} {now : AwareDatetime} {result : CredentialGeneration}
    (h : revoke s o g r now = .ok (result, s')) :
    Revoked s o g now s' ∨ (s' = s ∧ s.generations (o, g) = some result ∧ result.state = .revoked) := by
  simp only [revoke, Generations.revoke, required_bind_ok] at h
  obtain ⟨generation, hg, report, _, h⟩ := h
  split at h
  · rename_i hrev
    rw [pure_ok, Prod.mk.injEq] at h
    obtain ⟨rfl, rfl⟩ := h
    exact .inr ⟨rfl, hg, hrev⟩
  · simp only [unit_bind_ok, raiseIf_ok, not_not, pure_ok, Prod.mk.injEq] at h
    obtain ⟨hstate, _, _, rfl⟩ := h
    exact .inl ⟨generation, hg, hstate, rfl⟩

/-- An abandonment that returns has orphaned the generation. -/
theorem orphan_ok {o g : Identifier} {result : CredentialGeneration}
    (h : orphan s o g = .ok (result, s')) : Orphaned s o g s' := by
  simp only [orphan, Generations.orphan, required_bind_ok, unit_bind_ok, raiseIf_ok, not_not, pure_ok,
    Prod.mk.injEq] at h
  obtain ⟨generation, hg, hstate, _, rfl⟩ := h
  exact ⟨generation, hg, hstate, rfl⟩

/-- A call answers as its transaction does. -/
theorem answer_ok {α : Type} {x : Except Error (α × InventoryStore)} {u : Unit}
    (h : (do return ((), (← x).2) : Except Error (Unit × InventoryStore)) = .ok (u, s')) :
    ∃ result, x = .ok (result, s') := by
  cases x with
  | error e => cases h
  | ok out =>
    cases h
    exact ⟨out.1, rfl⟩

/-- A call that returns has the effect of its operation. -/
theorem perform_effect {call : Call} {u : Unit} (h : (inventory hashing).perform s call = .ok (u, s')) :
    Effect s call s' := by
  cases call with
  | importCredential item =>
    obtain ⟨_, h⟩ := answer_ok h
    exact .imported item rfl (importCredential_ok h)
  | saveReport report =>
    obtain ⟨_, h⟩ := answer_ok h
    exact .reported report rfl (saveReport_ok h).2.2
  | create generation =>
    obtain ⟨_, h⟩ := answer_ok h
    rcases create_ok h with h | h
    · exact .created generation rfl h
    · exact .unchanged h
  | stageBindings o c t r ids =>
    obtain ⟨_, h⟩ := answer_ok h
    exact .rebound (stageBindings_ok h)
  | verifyBindings o t r ids =>
    obtain ⟨_, h⟩ := answer_ok h
    exact .rebound (verifyBindings_rebound h)
  | promote o c t p r ids =>
    obtain ⟨_, h⟩ := answer_ok h
    rcases promote_ok h with ⟨credential, target, predecessor, report, bindings, h⟩ | ⟨h, _⟩
    · exact .promoted o c t p r ids credential target predecessor report bindings rfl h
    · exact .unchanged h
  | revoke o g r now =>
    obtain ⟨_, h⟩ := answer_ok h
    rcases revoke_ok h with h | ⟨h, _⟩
    · exact .revoked o g r now rfl h
    · exact .unchanged h
  | orphan o g =>
    obtain ⟨_, h⟩ := answer_ok h
    exact .orphaned o g rfl (orphan_ok h)

end Uumi.Generation
