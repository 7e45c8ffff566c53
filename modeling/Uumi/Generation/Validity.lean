import Mathlib
import Uumi.Generation.Effects

/-! What a promotion writes, read again. The credential takes its secret reference and its expiry from the target and
keeps its secret resource and the time when its rotation is due; nothing checks that these fit. -/
namespace Uumi.Generation
open Uumi.Contracts Uumi.Core Uumi.Foundations Uumi.Storage

/-- The target's secret belongs to the credential's resource, and it expires no earlier than a rotation is due. -/
structure Fits (credential : ManagedCredential) (target : CredentialGeneration) : Prop where
  resource : ∃ reference ∈ target.secretReference, secretResourceOf reference.value = credential.secretResource.value
  due : ∀ due ∈ credential.rotationDueAt, ∃ expires ∈ target.expiresAt, due ≤ expires

/-- The documents of a promotion can be read. Generations have no validator beyond the types of their fields. -/
structure Readable (s : InventoryStore) (o c t p : Identifier) (ids : List Identifier) : Prop where
  credential : ∃ fields, s.credentials (o, c) = some fields ∧ ∃ read, ManagedCredential.modelValidate fields = .ok read
  target : ∃ generation, s.generations (o, t) = some generation
  predecessor : ∃ generation, s.generations (o, p) = some generation
  bindings : ∀ id ∈ ids, ∃ binding, s.bindings (o, id) = some binding ∧ binding.validate = .ok ()

private theorem secretResourceOf_empty : secretResourceOf "" = "" := rfl

private theorem secretResource_ne_empty (credential : ManagedCredential) : credential.secretResource.value ≠ "" := by
  intro h
  have hlen := credential.secretResource.bounded.1
  rw [h] at hlen
  cases hlen

private theorem validateRotationDue_ok (fields : CredentialFields) :
    fields.validateRotationDue = .ok () ↔
      (fields.secretReference.map Text.value).getD "" ≠ "" ∧
      secretResourceOf ((fields.secretReference.map Text.value).getD "") = fields.secretResource.value ∧
      fields.consumerIds.Nodup ∧ ¬ (fields.rotationDueAt ≠ none ∧ fields.expiresAt = none) ∧
      ¬ ∃ due ∈ fields.rotationDueAt, ∃ expires ∈ fields.expiresAt, expires < due := by
  simp only [CredentialFields.validateRotationDue, unit_bind_ok, raiseIf_ok, not_not, ne_eq]

/-- The written credential is valid exactly when the target fits it. -/
theorem promotedCredential_valid (credential : ManagedCredential) (target : CredentialGeneration)
    (report : VerificationReport) :
    (Generations.promotedCredential credential.toCredentialFields target report).validateRotationDue = .ok () ↔
      Fits credential target := by
  rw [validateRotationDue_ok]
  constructor
  · rintro ⟨hne, hres, -, hexp, hdue⟩
    change (target.secretReference.map Text.value).getD "" ≠ "" at hne
    change secretResourceOf ((target.secretReference.map Text.value).getD "") = _ at hres
    refine ⟨?_, fun due hd => ?_⟩
    · cases hr : target.secretReference with
      | none =>
        rw [hr] at hne
        exact absurd rfl hne
      | some reference =>
        rw [hr] at hres
        exact ⟨reference, rfl, hres⟩
    · cases he : target.expiresAt with
      | none =>
        refine absurd ⟨fun hn => ?_, he⟩ hexp
        change credential.rotationDueAt = none at hn
        rw [hn] at hd
        cases hd
      | some expires => exact ⟨expires, rfl, AwareDatetime.not_lt.mp fun hlt => hdue ⟨due, hd, expires, he, hlt⟩⟩
  · rintro ⟨⟨reference, hr, hres⟩, hdue⟩
    rw [Option.mem_def] at hr
    change (target.secretReference.map Text.value).getD "" ≠ "" ∧
      secretResourceOf ((target.secretReference.map Text.value).getD "") = _ ∧ _
    rw [hr]
    refine ⟨?_, hres, credential.consumers_unique, ?_, ?_⟩
    · intro hempty
      change reference.value = "" at hempty
      rw [hempty, secretResourceOf_empty] at hres
      exact secretResource_ne_empty credential hres.symm
    · rintro ⟨hd, he⟩
      obtain ⟨due, hdue'⟩ := Option.ne_none_iff_exists'.mp hd
      obtain ⟨expires, hexp, -⟩ := hdue due hdue'
      exact absurd (hexp.symm.trans he) (Option.some_ne_none expires)
    · rintro ⟨due, hd, expires, he, hlt⟩
      obtain ⟨expires', he', hle⟩ := hdue due hd
      obtain rfl := Option.some.inj (he.symm.trans he')
      exact absurd hle (AwareDatetime.not_le.mpr hlt)

section
variable {s s' : InventoryStore} {o c t p r : Identifier} {ids : List Identifier} {result : CredentialGeneration}

/-- A promotion finds its target active and changes nothing, or it writes the four kinds of documents. -/
theorem promote_writes (h : Generations.promote s o c t p r ids = .ok (result, s')) :
    ∃ (credential : ManagedCredential) (target predecessor : CredentialGeneration) (report : VerificationReport)
      (bindings : List ConsumerBinding),
      s.credentials (o, c) = some credential.toCredentialFields ∧ s.generations (o, t) = some target ∧
      s.generations (o, p) = some predecessor ∧
      List.Forall₂ (fun key document => s.bindings key = some document) (keysOf o ids) bindings ∧
      (∀ binding ∈ bindings, binding.validate = .ok ()) ∧
      ((target.state = .active ∧ s' = s) ∨ (target.state = .creating ∧ s' = { s with
        generations := (s.generations.set (o, t) (Generations.activated target predecessor)).set (o, p)
          (Generations.superseded predecessor target)
        credentials := s.credentials.set (o, c)
          (Generations.promotedCredential credential.toCredentialFields target report)
        bindings := s.bindings.setAll ((keysOf o ids).zip (bindings.map (Generations.promotedBinding target))) })) := by
  simp only [Generations.promote, required_bind_ok] at h
  obtain ⟨document, hd, target, ht, predecessor, hp, report, hr, bindings, hb, h⟩ := h
  rw [bind_ok] at h
  obtain ⟨credential, hc, h⟩ := h
  rw [ManagedCredential.modelValidate_ok] at hc
  rw [unit_bind_ok, forEach_ok] at h
  obtain ⟨hvalid, h⟩ := h
  refine ⟨credential, target, predecessor, report, bindings, by rw [hc, hd], ht, hp, Collection.getAll_eq_some.mp hb,
    hvalid, ?_⟩
  split at h
  · rename_i hact
    rw [pure_ok, Prod.mk.injEq] at h
    exact .inl ⟨hact.2, h.2.symm⟩
  · rw [unit_bind_ok, pure_ok, Prod.mk.injEq] at h
    obtain ⟨hcheck, -, rfl⟩ := h
    simp only [Generations.checkPromotion, unit_bind_ok, raiseIf_ok, not_not] at hcheck
    exact .inr ⟨hcheck.2.1, rfl⟩

private theorem read_at {b : Collection (Identifier × Identifier) ConsumerBinding}
    {keys : List (Identifier × Identifier)} {bindings : List ConsumerBinding}
    (hread : List.Forall₂ (fun key document => b key = some document) keys bindings) {key : Identifier × Identifier}
    (hkey : key ∈ keys) : ∃ binding, b key = some binding := by
  induction hread with
  | nil => cases hkey
  | cons found _ ih =>
    rcases List.mem_cons.mp hkey with rfl | hkey
    · exact ⟨_, found⟩
    · exact ih hkey

private theorem promoted_bindings {b : Collection (Identifier × Identifier) ConsumerBinding}
    {target : CredentialGeneration} {bindings : List ConsumerBinding}
    (hread : List.Forall₂ (fun key document => b key = some document) (keysOf o ids) bindings)
    (hvalid : ∀ binding ∈ bindings, binding.validate = .ok ()) {id : Identifier} (hid : id ∈ ids) :
    ∃ binding, b.setAll ((keysOf o ids).zip (bindings.map (Generations.promotedBinding target))) (o, id) = some binding ∧
      binding.validate = .ok () := by
  have hkey : (o, id) ∈ keysOf o ids := List.mem_map_of_mem hid
  obtain ⟨old, hold⟩ := read_at hread hkey
  rw [Collection.setAll_map _ hread, if_pos hkey, hold, Option.map_some]
  refine ⟨_, rfl, ?_⟩
  have hold : old.validate = .ok () := hvalid old (Collection.mem_of_read hread hkey hold)
  rwa [ConsumerBinding.validate, Generations.promotedBinding, ConsumerBinding.stripped, ConsumerBinding.stripped, strip_strip]

/-- A promotion that returns leaves readable documents exactly when its target was promoted before or fits. -/
theorem promotion_readable_iff {credential : ManagedCredential} {target : CredentialGeneration}
    (hcredential : s.credentials (o, c) = some credential.toCredentialFields) (htarget : s.generations (o, t) = some target)
    (h : Generations.promote s o c t p r ids = .ok (result, s')) :
    Readable s' o c t p ids ↔ target.state = .active ∨ Fits credential target := by
  obtain ⟨read, target', predecessor, report, bindings, hc, ht, hp, hb, hvalid, hcase⟩ := promote_writes h
  obtain rfl := Option.some.inj (htarget.symm.trans ht)
  rcases hcase with ⟨hact, rfl⟩ | ⟨hcreating, rfl⟩
  · refine ⟨fun _ => .inl hact, fun _ => ⟨?_, ⟨_, htarget⟩, ⟨_, hp⟩, fun id hid => ?_⟩⟩
    · exact ⟨_, hcredential, credential, (ManagedCredential.modelValidate_ok _ _).mpr rfl⟩
    · have hkey : (o, id) ∈ keysOf o ids := List.mem_map_of_mem hid
      obtain ⟨binding, hfound⟩ := read_at hb hkey
      exact ⟨binding, hfound, hvalid binding (Collection.mem_of_read hb hkey hfound)⟩
  · have heq : read.toCredentialFields = credential.toCredentialFields := Option.some.inj (hc.symm.trans hcredential)
    rw [heq, ← promotedCredential_valid credential target report]
    constructor
    · rintro ⟨⟨fields, hfields, written, hwritten⟩, -, -, -⟩
      obtain rfl := Option.some.inj ((Collection.set_same _ _ _).symm.trans hfields)
      rw [ManagedCredential.modelValidate_ok] at hwritten
      right
      rw [← hwritten]
      exact written.accepted
    · rintro (hact | haccepted)
      · rw [hcreating] at hact
        cases hact
      · refine ⟨⟨_, Collection.set_same _ _ _, ⟨_, haccepted⟩, ?_⟩, ?_, ⟨_, Collection.set_same _ _ _⟩,
          fun id hid => promoted_bindings hb hvalid hid⟩
        · rw [ManagedCredential.modelValidate_ok]
        · rcases eq_or_ne (o, t) (o, p) with hkey | hkey
          · exact ⟨_, (congrArg _ hkey).trans (Collection.set_same _ _ _)⟩
          · exact ⟨_, (Collection.set_of_ne hkey).trans (Collection.set_same _ _ _)⟩

end

def sampleReplacement : CredentialGeneration where
  id := generationTwo
  organisationId := sampleCredential.organisationId
  credentialId := sampleCredential.id
  providerId := some providerKeyTwo
  fingerprint := some ⟨"fingerprint-2", by decide⟩
  state := .creating
  attemptId := attemptTwo
  secretReference := some keyVersionTwo
  predecessorId := some generationOne
  createdAt := ⟨1, 0⟩

def samplePassedReport : VerificationReport where
  id := reportOne
  organisationId := sampleCredential.organisationId
  runId := runOne
  generationId := sampleReplacement.id
  status := .passed
  results := [{
    probeId := probeOne
    status := .passed
    checks := {"provider-valid"}
    evidenceIds := [evidenceOne]
    startedAt := ⟨10, 0⟩
    completedAt := ⟨10, 0⟩
    checks_nonempty := by decide
    evidence_nonempty := evidenceOne_cited
    explained := passed_explains }]
  checks := {"provider-valid"}
  evidenceIds := [evidenceOne]
  startedAt := ⟨10, 0⟩
  completedAt := ⟨10, 0⟩
  results_nonempty := by decide
  checks_nonempty := by decide
  evidence_nonempty := evidenceOne_cited
  passed := by decide

def sampleVerified : ConsumerBinding :=
  Generations.verifiedBinding samplePassedReport.id
    (Generations.stagedBinding sampleReplacement.id "projects/demo/secrets/key/versions/2" sampleBinding)

def samplePromotable (credential : ManagedCredential) : InventoryStore :=
  { sampleImported .active with
    credentials := Collection.empty.set (sampleCredential.organisationId, sampleCredential.id)
      credential.toCredentialFields
    generations := (sampleImported .active).generations.set (sampleCredential.organisationId, sampleReplacement.id)
      sampleReplacement
    bindings := (sampleImported .active).bindings.set (sampleBinding.organisationId, sampleBinding.id) sampleVerified
    reports := Collection.empty.set (samplePassedReport.organisationId, samplePassedReport.id) samplePassedReport }

def sampleDue : ManagedCredential :=
  { sampleCredential with
    expiresAt := some ⟨100, 0⟩
    rotationDueAt := some ⟨50, 0⟩
    accepted := by decide }

def samplePromoted (credential : ManagedCredential) : InventoryStore :=
  { samplePromotable credential with
    credentials := (samplePromotable credential).credentials.set (sampleCredential.organisationId, sampleCredential.id)
      (Generations.promotedCredential credential.toCredentialFields sampleReplacement samplePassedReport)
    generations := ((samplePromotable credential).generations.set (sampleCredential.organisationId, sampleReplacement.id)
        (Generations.activated sampleReplacement (sampleGeneration .active))).set
      (sampleCredential.organisationId, (sampleGeneration .active).id)
      (Generations.superseded (sampleGeneration .active) sampleReplacement)
    bindings := (samplePromotable credential).bindings.set (sampleCredential.organisationId, sampleBinding.id)
      (Generations.promotedBinding sampleReplacement sampleVerified) }

private theorem sample_promotes (credential : ManagedCredential)
    (hid : credential.id = sampleCredential.id) (hconsumers : credential.consumerIds = sampleCredential.consumerIds)
    (hactive : credential.activeGenerationId = sampleCredential.activeGenerationId) :
    Generations.promote (samplePromotable credential) sampleCredential.organisationId sampleCredential.id
      sampleReplacement.id (sampleGeneration .active).id samplePassedReport.id [sampleBinding.id] =
        .ok (Generations.activated sampleReplacement (sampleGeneration .active), samplePromoted credential) := by
  simp only [Generations.promote, required_bind_ok]
  refine ⟨_, rfl, _, rfl, _, rfl, _, rfl, [sampleVerified], rfl, ?_⟩
  rw [bind_ok]
  refine ⟨credential, (ManagedCredential.modelValidate_ok _ _).mpr rfl, ?_⟩
  rw [unit_bind_ok, forEach_ok]
  refine ⟨?_, ?_⟩
  · intro binding hmem
    rw [List.mem_singleton.mp hmem]
    rfl
  · rw [if_neg (fun h => by cases h.2), unit_bind_ok, pure_ok]
    refine ⟨?_, rfl⟩
    simp only [Generations.checkPromotion, unit_bind_ok, raiseIf_ok, not_not, forEach_ok]
    refine ⟨hactive, rfl, rfl, ?_, ?_, ?_⟩
    · rintro (h | h | h | h)
      · exact h hid.symm
      · exact h hid.symm
      · exact h rfl
      · exact h rfl
    · rw [hconsumers]
      rfl
    · intro binding hmem
      rw [List.mem_singleton.mp hmem]
      exact ⟨hid.symm, rfl, rfl, rfl⟩

/-- The sample target is readable after its promotion exactly when the condition says so. -/
theorem promotion_readable_iff_sample :
    Readable (samplePromoted sampleCredential) sampleCredential.organisationId sampleCredential.id sampleReplacement.id
        (sampleGeneration .active).id [sampleBinding.id] ↔
      sampleReplacement.state = .active ∨ Fits sampleCredential sampleReplacement :=
  promotion_readable_iff (s := samplePromotable sampleCredential) rfl rfl (sample_promotes sampleCredential rfl rfl rfl)

/-- A credential whose rotation is due at a time is promoted to a target without an expiry, and the document that is
written cannot be read any more. -/
theorem promotion_drops_expiry : ¬ ∀ (s s' : InventoryStore) (o c t p r : Identifier) (ids : List Identifier)
    (result : CredentialGeneration), Generations.promote s o c t p r ids = .ok (result, s') →
      Readable s' o c t p ids := by
  intro h
  obtain ⟨fields, hfields, read, hread⟩ := (h _ _ _ _ _ _ _ _ _ (sample_promotes sampleDue rfl rfl rfl)).credential
  have hwritten : (samplePromoted sampleDue).credentials (sampleCredential.organisationId, sampleCredential.id) =
      some (Generations.promotedCredential sampleDue.toCredentialFields sampleReplacement samplePassedReport) := rfl
  obtain rfl := Option.some.inj (hwritten.symm.trans hfields)
  rw [ManagedCredential.modelValidate_ok] at hread
  have haccepted := read.accepted
  rw [hread] at haccepted
  obtain ⟨expires, hexpires, -⟩ :=
    ((promotedCredential_valid sampleDue sampleReplacement samplePassedReport).mp haccepted).due _ rfl
  cases hexpires

end Uumi.Generation
