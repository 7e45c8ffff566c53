import Mathlib
import Uumi.Generation.Lineage

/-! The bindings of a credential: one for each of its consumers, all on its active generation. -/
namespace Uumi.Generation
open Uumi.Contracts Uumi.Core Uumi.Foundations Uumi.Policy Uumi.Storage

attribute [local irreducible] strip

variable {hashing : Hashing} {s s' : InventoryStore} {call : Call}

structure Bound (s : InventoryStore) : Prop where
  /-- A binding is that of a consumer of a stored credential, and uses its active generation. -/
  owner : ∀ {o b x}, s.bindings (o, b) = some x → x.organisationId = o ∧
    ∃ c, s.credentials (o, x.credentialId) = some c ∧ x.serviceId ∈ c.consumerIds ∧
      c.activeGenerationId = some x.currentGenerationId
  /-- A consumer has one binding for each credential. -/
  apart : ∀ {o b b' x x'}, s.bindings (o, b) = some x → s.bindings (o, b') = some x' →
    x.credentialId = x'.credentialId → x.serviceId = x'.serviceId → b = b'

/-- At first no binding waits for anything. -/
theorem initial_bound (h : Initial s) : Bound s :=
  ⟨fun hx => by simp [h.bindings, Collection.empty] at hx,
    fun hx => by simp [h.bindings, Collection.empty] at hx⟩

private theorem services_nodup {bindings : List ConsumerBinding} {consumers : List Identifier}
    (unique : consumers.Nodup) (length : bindings.length = consumers.length)
    (covers : consumers.toFinset = (bindings.map ConsumerBinding.serviceId).toFinset) :
    (bindings.map ConsumerBinding.serviceId).Nodup := by
  refine Multiset.coe_nodup.mp (Multiset.toFinset_card_eq_card_iff_nodup.mp ?_)
  have hcard : consumers.toFinset.card = consumers.length := List.toFinset_card_of_nodup unique
  rw [covers] at hcard
  calc (bindings.map ConsumerBinding.serviceId).toFinset.card = consumers.length := hcard
    _ = (bindings.map ConsumerBinding.serviceId).length := by rw [List.length_map, length]

private theorem Bound.imported {item : CredentialImport} (hb : Bound s) (h : Imported s item s') : Bound s' := by
  obtain ⟨_, _, hiff⟩ := Collection.createAll_ok h.bindings
  have split {o b x} (hx : s'.bindings (o, b) = some x) :
      (x ∈ item.bindings ∧ x.organisationId = o ∧ x.id = b) ∨ s.bindings (o, b) = some x := by
    rcases (hiff (o, b) x).mp hx with hmem | hold
    · obtain ⟨y, hy, he⟩ := List.mem_map.mp hmem
      simp only [Prod.mk.injEq] at he
      obtain ⟨⟨rfl, rfl⟩, rfl⟩ := he
      exact .inl ⟨hy, rfl, rfl⟩
    · exact .inr hold
  -- an old binding is one of another credential
  have other {o b x} (hx : s.bindings (o, b) = some x) :
      (o, x.credentialId) ≠ (item.credential.organisationId, item.credential.id) := by
    intro he
    obtain ⟨_, c, hc, _⟩ := hb.owner hx
    rw [he, h.new_credential] at hc
    cases hc
  refine ⟨fun {o b x} hx => ?_, fun {o b b' x x'} hx hx' hcred hserv => ?_⟩
  · rcases split hx with ⟨hmem, ho, _⟩ | hold
    · obtain ⟨hborg, hbc, hbg⟩ := h.bound x hmem
      refine ⟨ho, item.credential.toCredentialFields, ?_, ?_, ?_⟩
      · rw [h.credentials, hbc, ← ho, hborg, Collection.set_same]
      · rw [← List.mem_toFinset, h.covers.2, List.mem_toFinset]
        exact List.mem_map_of_mem hmem
      · rw [h.active, hbg]
    · obtain ⟨ho, c, hc, hs, ha⟩ := hb.owner hold
      exact ⟨ho, c, by rw [h.credentials, Collection.set_of_ne (other hold), hc], hs, ha⟩
  · rcases split hx with ⟨hmem, ho, rfl⟩ | hold
    · obtain ⟨hborg, hbc, _⟩ := h.bound x hmem
      rcases split hx' with ⟨hmem', _, rfl⟩ | hold'
      · have hnodup := services_nodup item.credential.consumers_unique h.covers.1 h.covers.2
        rw [List.inj_on_of_nodup_map hnodup hmem hmem' hserv]
      · exact absurd (by rw [← hcred, hbc, ← ho, hborg]) (other hold')
    · rcases split hx' with ⟨hmem', ho', _⟩ | hold'
      · obtain ⟨hborg, hbc, _⟩ := h.bound x' hmem'
        exact absurd (by rw [hcred, hbc, ← ho', hborg]) (other hold)
      · exact hb.apart hold hold' hcred hserv

private theorem Bound.transfer (hb : Bound s) (hc : s'.credentials = s.credentials)
    (old : ∀ {o b x'}, s'.bindings (o, b) = some x' → ∃ x, s.bindings (o, b) = some x ∧
      x'.organisationId = x.organisationId ∧ x'.credentialId = x.credentialId ∧
      x'.serviceId = x.serviceId ∧ x'.currentGenerationId = x.currentGenerationId) : Bound s' := by
  refine ⟨fun hx' => ?_, fun hx' hy' hcred hserv => ?_⟩
  · obtain ⟨x, hx, h1, h2, h3, h4⟩ := old hx'
    rw [h1, h2, h3, h4, hc]
    exact hb.owner hx
  · obtain ⟨x, hx, _, h2, h3, _⟩ := old hx'
    obtain ⟨y, hy, _, k2, k3, _⟩ := old hy'
    rw [h2, k2] at hcred
    rw [h3, k3] at hserv
    exact hb.apart hx hy hcred hserv

private theorem Bound.rebound (hb : Bound s) (h : Rebound s s') : Bound s' := by
  obtain ⟨keys, documents, change, hread, hkeep, rfl⟩ := h
  refine hb.transfer rfl fun {o b x'} hx' => ?_
  rcases Collection.setAll_map_eq_some hread hx' with ⟨x, _, _, hx, rfl⟩ | ⟨_, hx⟩
  · exact ⟨x, hx, (hkeep x).2⟩
  · exact ⟨x', hx, rfl, rfl, rfl, rfl⟩

private theorem Bound.promoted {o c t p r : Identifier} {ids : List Identifier} {credential : ManagedCredential}
    {target predecessor : CredentialGeneration} {report : VerificationReport} {bindings : List ConsumerBinding}
    (hb : Bound s) (hp : Placed s)
    (h : Promoted s o c t p r ids credential target predecessor report bindings s') : Bound s' := by
  obtain rfl := h.store_eq
  have hc : credential.id = c := hp.credential h.credential_found
  refine ⟨fun {o' b x'} hx' => ?_, fun {o' b b' x' y'} hx' hy' hcred hserv => ?_⟩
  · rcases Collection.setAll_map_eq_some h.bindings_found hx' with ⟨x, hmem, hkey, hx, rfl⟩ | ⟨hout, hx⟩
    · obtain ⟨_, _, he⟩ := List.mem_map.mp hkey
      cases he
      obtain ⟨horg, cred, hcred, hserv, _⟩ := hb.owner hx
      have hxc : x.credentialId = c := (h.verified x hmem).1.trans hc
      refine ⟨horg, Generations.promotedCredential credential.toCredentialFields target report, ?_, ?_, rfl⟩
      · exact hxc ▸ Collection.set_same ..
      · rw [hxc, h.credential_found] at hcred
        cases hcred
        exact hserv
    · obtain ⟨horg, cred, hcred, hserv, hact⟩ := hb.owner hx
      by_cases hk : (o', x'.credentialId) = (o, c)
      · -- every binding of the credential takes part in the promotion
        exfalso
        cases hk
        rw [h.credential_found] at hcred
        cases hcred
        rw [← List.mem_toFinset, ← h.covers, List.mem_toFinset, List.mem_map] at hserv
        obtain ⟨y, hy, hys⟩ := hserv
        obtain ⟨key, hkey, hread⟩ := Collection.key_of_read h.bindings_found hy
        obtain ⟨id, hid, rfl⟩ := List.mem_map.mp hkey
        have hyc := (h.verified y hy).1.trans hc
        exact hout (hb.apart hread hx hyc hys ▸ hkey)
      · exact ⟨horg, cred, (Collection.set_of_ne hk).trans hcred, hserv, hact⟩
  · have kept {b x'} (hx' : (s.bindings.setAll ((keysOf o ids).zip
        (bindings.map (Generations.promotedBinding target)))) (o', b) = some x') :
        ∃ x, s.bindings (o', b) = some x ∧ x'.credentialId = x.credentialId ∧ x'.serviceId = x.serviceId := by
      rcases Collection.setAll_map_eq_some h.bindings_found hx' with ⟨x, _, _, hx, rfl⟩ | ⟨_, hx⟩
      · exact ⟨x, hx, rfl, rfl⟩
      · exact ⟨x', hx, rfl, rfl⟩
    obtain ⟨x, hx, h2, h3⟩ := kept hx'
    obtain ⟨y, hy, k2, k3⟩ := kept hy'
    rw [h2, k2] at hcred
    rw [h3, k3] at hserv
    exact hb.apart hx hy hcred hserv

/-- Every call keeps the bindings bound to what they wait for. -/
theorem Bound.step (hb : Bound s) (hp : Placed s) (h : Effect s call s') : Bound s' := by
  cases h with
  | imported item _ effect => exact hb.imported effect
  | reported _ _ store_eq => exact store_eq ▸ ⟨hb.owner, hb.apart⟩
  | created generation _ effect => exact effect.store_eq ▸ ⟨hb.owner, hb.apart⟩
  | rebound effect => exact hb.rebound effect
  | promoted o c t p r ids credential target predecessor report bindings _ effect =>
    exact hb.promoted hp effect
  | revoked o g r now _ effect =>
    obtain ⟨_, _, _, rfl⟩ := effect
    exact ⟨hb.owner, hb.apart⟩
  | orphaned o g _ effect =>
    obtain ⟨_, _, _, rfl⟩ := effect
    exact ⟨hb.owner, hb.apart⟩
  | unchanged store_eq => exact store_eq ▸ hb

end Uumi.Generation
