import Uumi.Contracts.Audit
import Uumi.Playbooks.Service

/-! The versions of a playbook in every run of creations, publications, renames and archivals. -/
namespace Uumi.Playbooks
open Uumi.Contracts Uumi.Core Uumi.Foundations Uumi.Policy Uumi.Storage

/-- A call of the service that has done its reads and checks, and is before its transaction. -/
inductive PlaybookCall where
  | publish (organisationId playbookId versionId actorId : Identifier)
  /-- The end of `rename` and of `archive`. -/
  | replace (value : Playbook) (expectedRevision : Int)

structure PlaybookPool (ι : Type) where
  store : PlaybookStore
  pending : ι → Option PlaybookCall

inductive PlaybookAction (ι : Type) where
  | createVersion (organisationId playbookId versionId : Identifier) (definition : PlaybookDraft)
      (actorId : Identifier) (sourceIds : List Identifier) (now : AwareDatetime)
  | publish (who : ι) (organisationId playbookId versionId actorId : Identifier)
  | rename (who : ι) (organisationId playbookId : Identifier) (expectedRevision : Int) (name : String)
      (now : AwareDatetime)
  | archive (who : ι) (organisationId playbookId : Identifier) (expectedRevision : Int)
      (connections : List Connection) (cascade : Bool) (now : AwareDatetime)
  /-- The transaction of a call. A call whose caller crashes never gets to it. -/
  | commit (who : ι) (now : AwareDatetime)

namespace PlaybookPool
variable (characters : CharacterFunctions) (hashing : Hashing) {ι : Type} [DecidableEq ι] (pool : PlaybookPool ι)

def initial : PlaybookPool ι := ⟨.empty, fun _ => none⟩

def prepared (who : ι) (call : Except Error PlaybookCall) : PlaybookPool ι :=
  { pool with pending := Function.update pool.pending who call.toOption }

def after {α : Type} (result : Except Error (α × PlaybookStore)) : PlaybookStore :=
  match result with
  | .ok (_, store) => store
  | .error _ => pool.store

def committed (now : AwareDatetime) : PlaybookCall → PlaybookStore
  | .publish organisationId playbookId versionId actorId =>
    pool.after (pool.store.publish organisationId playbookId versionId actorId now)
  | .replace value expectedRevision => pool.after (pool.store.replace value expectedRevision)

def next : PlaybookAction ι → PlaybookPool ι
  | .createVersion organisationId playbookId versionId definition actorId sourceIds now =>
    { pool with
      store := pool.after (createVersion characters hashing pool.store organisationId playbookId versionId definition
        actorId sourceIds now) }
  | .publish who organisationId playbookId versionId actorId =>
    pool.prepared who do
      publishable characters hashing pool.store organisationId playbookId versionId
      return .publish organisationId playbookId versionId actorId
  | .rename who organisationId playbookId expectedRevision name now =>
    pool.prepared who do
      let current ← pool.store.get organisationId playbookId
      return .replace (← renamed current expectedRevision name now) expectedRevision
  | .archive who organisationId playbookId expectedRevision connections cascade now =>
    pool.prepared who do
      let current ← pool.store.get organisationId playbookId
      return .replace (← archived current expectedRevision connections cascade now) expectedRevision
  | .commit who now =>
    match pool.pending who with
    | none => pool
    | some call => { store := pool.committed now call, pending := Function.update pool.pending who none }

def run (actions : List (PlaybookAction ι)) : PlaybookPool ι := actions.foldl (next characters hashing) pool

end PlaybookPool

/-- The versions of a playbook, with how many there are and which of them is active. -/
structure Numbered (store : PlaybookStore) (o p : Identifier) (count : Nat) (active : Option Identifier) : Prop where
  named : ∀ v version, store.versions (o, p, v) = some version →
    version.organisationId = o ∧ version.playbookId = p ∧ version.id = v
  /-- The versions are numbered contiguously. -/
  numbered : ∀ n, (1 ≤ n ∧ n ≤ count) ↔
    ∃ v version, store.versions (o, p, v) = some version ∧ version.number = n
  distinct : ∀ v v' version version', store.versions (o, p, v) = some version →
    store.versions (o, p, v') = some version' → version.number = version'.number → v = v'
  /-- The active version is the published one. -/
  published : ∀ v, active = some v ↔
    ∃ version, store.versions (o, p, v) = some version ∧ version.state = .published
  states : ∀ v version, store.versions (o, p, v) = some version → version.state ≠ .review

/-- A playbook and its versions. -/
structure RootSound (store : PlaybookStore) (o p : Identifier) (root : Playbook) : Prop
    extends Numbered store o p root.latestVersion root.activeVersionId where
  placed : root.organisationId = o ∧ root.id = p
  latest : ∃ v version, root.latestVersionId = some v ∧ store.versions (o, p, v) = some version ∧
    version.number = root.latestVersion

/-- Versions are versions of a playbook that is there. -/
structure VersionsSound (store : PlaybookStore) : Prop where
  absent : ∀ o p, store.playbooks (o, p) = none → ∀ v, store.versions (o, p, v) = none
  root : ∀ o p root, store.playbooks (o, p) = some root → RootSound store o p root

/-- A version moves from draft to published to superseded, and keeps everything else. -/
structure Moves (before after : PlaybookVersion) : Prop where
  content : after.id = before.id ∧ after.organisationId = before.organisationId ∧
    after.playbookId = before.playbookId ∧ after.number = before.number ∧ after.definition = before.definition ∧
    after.digest = before.digest ∧ after.sourceIds = before.sourceIds ∧ after.createdBy = before.createdBy ∧
    after.createdAt = before.createdAt
  state : after = before ∨ (before.state = .draft ∧ after.state = .published) ∨
    (before.state = .published ∧ after.state = .superseded)

/-- What a step does to the documents that are there. -/
structure Evolution (before after : PlaybookStore) : Prop where
  version : ∀ key version, before.versions key = some version →
    ∃ version', after.versions key = some version' ∧ Moves version version'
  /-- An archived playbook keeps its versions and gets no other. -/
  archived : ∀ o p root, before.playbooks (o, p) = some root → root.archivedAt ≠ none →
    after.playbooks (o, p) = some root ∧ ∀ v, after.versions (o, p, v) = before.versions (o, p, v)
  /-- A playbook that is written gets a later revision. -/
  revision : ∀ key root, before.playbooks key = some root →
    ∃ root', after.playbooks key = some root' ∧ (root' = root ∨ root.revision < root'.revision)

/-- A version may stay as it is. -/
theorem Moves.refl (version : PlaybookVersion) : Moves version version :=
  ⟨⟨rfl, rfl, rfl, rfl, rfl, rfl, rfl, rfl, rfl⟩, .inl rfl⟩

/-- A store evolves into itself. -/
theorem Evolution.refl (store : PlaybookStore) : Evolution store store :=
  ⟨fun _ version h => ⟨version, h, .refl _⟩, fun _ _ _ h _ => ⟨h, fun _ => rfl⟩, fun _ root h => ⟨root, h, .inl rfl⟩⟩

private theorem empty_versionsSound : VersionsSound .empty :=
  ⟨fun _ _ _ _ => rfl, fun _ _ _ h => absurd h (Option.some_ne_none _).symm⟩

variable {store after : PlaybookStore} {o p v : Identifier}

/-- The validator strips name and platform and keeps the other fields. -/
theorem modelValidate_ok {stored current : Playbook} (h : stored.modelValidate = .ok current) :
    ∃ name platform, current = { stored with name, platform } := by
  simp only [Playbook.modelValidate, bind_ok, pure_ok] at h
  obtain ⟨name, -, platform, -, rfl⟩ := h
  exact ⟨_, _, rfl⟩

/-- What of a playbook is about its versions. -/
structure SameVersions (a b : Playbook) : Prop where
  id : a.id = b.id
  organisationId : a.organisationId = b.organisationId
  latestVersion : a.latestVersion = b.latestVersion
  latestVersionId : a.latestVersionId = b.latestVersionId
  activeVersionId : a.activeVersionId = b.activeVersionId

/-- A playbook is read from its root. -/
theorem get_ok {current : Playbook} (h : store.get o p = .ok current) :
    ∃ root, store.playbooks (o, p) = some root ∧ SameVersions current root ∧ current.archivedAt = root.archivedAt ∧
      current.revision = root.revision := by
  simp only [PlaybookStore.get, required_bind_ok] at h
  obtain ⟨root, hroot, h⟩ := h
  obtain ⟨name, platform, rfl⟩ := modelValidate_ok h
  exact ⟨root, hroot, ⟨rfl, rfl, rfl, rfl, rfl⟩, rfl, rfl⟩

/-- A replacement is of the stored root at the expected revision. -/
theorem replace_ok {value result : Playbook} {expected : Int} (h : store.replace value expected = .ok (result, after)) :
    ∃ root, store.playbooks (value.organisationId, value.id) = some root ∧ (root.revision : Int) = expected ∧
      (value.revision : Int) = expected + 1 ∧
      after = { store with playbooks := store.playbooks.set (value.organisationId, value.id) value } := by
  rw [PlaybookStore.replace, bind_ok] at h
  obtain ⟨current, hget, h⟩ := h
  simp only [unit_bind_ok, raiseIf_ok, not_not, pure_ok, Prod.mk.injEq] at h
  obtain ⟨hrevision, -, hnext, -, rfl⟩ := h
  obtain ⟨root, hroot, -, -, hsame⟩ := get_ok hget
  exact ⟨root, hroot, by rw [← hsame]; exact hrevision, hnext, rfl⟩

private theorem addVersion_ok {definition : PlaybookDraft} {digest : Digest} {actorId : Identifier} {now : AwareDatetime}
    {sources : List Identifier} {changed : Playbook} {version : PlaybookVersion}
    (h : store.addVersion p v o definition digest actorId now sources = .ok ((changed, version), after)) :
    store.versions (o, p, v) = none ∧
      after = {
        playbooks := store.playbooks.set (o, p) changed
        versions := store.versions.set (o, p, v) version } ∧
      (version.organisationId = o ∧ version.playbookId = p ∧ version.id = v ∧ version.state = .draft) ∧
      version.number = changed.latestVersion ∧ changed.latestVersionId = some v ∧
      ((store.playbooks (o, p) = none ∧ changed.organisationId = o ∧ changed.id = p ∧ changed.latestVersion = 1 ∧
          changed.activeVersionId = none) ∨
        ∃ root, store.playbooks (o, p) = some root ∧ root.archivedAt = none ∧
          changed.organisationId = root.organisationId ∧ changed.id = root.id ∧
          changed.latestVersion = root.latestVersion + 1 ∧ changed.activeVersionId = root.activeVersionId ∧
          changed.revision = root.revision + 1) := by
  simp only [PlaybookStore.addVersion, unit_bind_ok, absent_ok] at h
  obtain ⟨habsent, h⟩ := h
  rw [bind_ok] at h
  obtain ⟨root', hroot', h⟩ := h
  simp only [pure_ok, Prod.mk.injEq] at h
  obtain ⟨⟨rfl, rfl⟩, rfl⟩ := h
  refine ⟨habsent, rfl, ⟨rfl, rfl, rfl, rfl⟩, rfl, ?_⟩
  cases hroot : store.playbooks (o, p) with
  | none =>
    rw [hroot] at hroot'
    cases hroot'
    exact ⟨rfl, .inl ⟨rfl, rfl, rfl, rfl, rfl⟩⟩
  | some root =>
    rw [hroot, PlaybookStore.withVersion, bind_ok] at hroot'
    obtain ⟨current, hread, hroot'⟩ := hroot'
    simp only [unit_bind_ok, raiseIf_ok, not_not, pure_ok] at hroot'
    obtain ⟨hopen, -, rfl⟩ := hroot'
    obtain ⟨name, platform, rfl⟩ := modelValidate_ok hread
    exact ⟨rfl, .inr ⟨root, rfl, hopen, rfl, rfl, rfl, rfl, rfl⟩⟩

/-- The versions after the active one is superseded. -/
theorem supersede_ok {active : Option Identifier} {versions : Collection (Identifier × Identifier × Identifier) PlaybookVersion}
    (h : store.supersede o p active v = .ok versions) :
    (versions = store.versions ∧ (active = none ∨ active = some v)) ∨
      ∃ a previous, active = some a ∧ a ≠ v ∧ store.versions (o, p, a) = some previous ∧
        versions = store.versions.set (o, p, a) (PlaybookStore.superseded previous) := by
  unfold PlaybookStore.supersede at h
  split at h
  · cases h
    exact .inl ⟨rfl, .inl rfl⟩
  · rename_i a
    split at h
    · rename_i heq
      cases h
      exact .inl ⟨rfl, .inr (by rw [heq])⟩
    · rename_i hne
      simp only [required_bind_ok, unit_bind_ok, pure_ok] at h
      obtain ⟨previous, hprevious, -, rfl⟩ := h
      exact .inr ⟨a, previous, rfl, hne, hprevious, rfl⟩

private theorem publish_ok {actorId : Identifier} {now : AwareDatetime} {result : PlaybookVersion}
    (h : store.publish o p v actorId now = .ok (result, after)) :
    ∃ root version, store.playbooks (o, p) = some root ∧ store.versions (o, p, v) = some version ∧
      root.archivedAt = none ∧
      ((version.state = .published ∧ after = store) ∨
        (version.state = .draft ∧ ∃ changed versions,
          store.supersede o p root.activeVersionId version.id = .ok versions ∧
          changed.organisationId = root.organisationId ∧ changed.id = root.id ∧
          changed.latestVersion = root.latestVersion ∧ changed.latestVersionId = root.latestVersionId ∧
          changed.activeVersionId = some version.id ∧ changed.revision = root.revision + 1 ∧
          after = {
            playbooks := store.playbooks.set (o, p) changed
            versions := versions.set (o, p, v) (PlaybookStore.publishedBy version actorId now) })) := by
  simp only [PlaybookStore.publish, required_bind_ok] at h
  obtain ⟨root, hroot, version, hversion, h⟩ := h
  rw [bind_ok] at h
  obtain ⟨current, hread, h⟩ := h
  simp only [unit_bind_ok, raiseIf_ok, not_not] at h
  obtain ⟨hopen, h⟩ := h
  obtain ⟨name, platform, rfl⟩ := modelValidate_ok hread
  refine ⟨root, version, hroot, hversion, hopen, ?_⟩
  split at h
  · rename_i hpublished
    cases h
    exact .inl ⟨hpublished, rfl⟩
  · simp only [unit_bind_ok, raiseIf_ok, not_not] at h
    obtain ⟨hdraft, h⟩ := h
    rw [bind_ok] at h
    obtain ⟨versions, hversions, h⟩ := h
    cases h
    refine .inr ⟨hdraft, _, versions, hversions, ?_, ?_, ?_, ?_, ?_, ?_, rfl⟩
    all_goals rfl

/-- No version is numbered in an empty store. -/
theorem Numbered.empty (h : ∀ v, store.versions (o, p, v) = none) : Numbered store o p 0 none := by
  have hnone : ∀ {v version}, store.versions (o, p, v) ≠ some version := by
    intro v version
    rw [h v]
    exact (Option.some_ne_none _).symm
  refine ⟨fun _ _ hv => absurd hv hnone, fun n => ⟨fun hn => by omega, ?_⟩, fun _ _ _ _ hv => absurd hv hnone,
    fun v => ⟨fun hv => absurd hv (Option.some_ne_none _).symm, ?_⟩, fun _ _ hv => absurd hv hnone⟩
  · rintro ⟨_, _, hv, -⟩
    exact absurd hv hnone
  · rintro ⟨_, hv, -⟩
    exact absurd hv hnone

/-- A draft is added under the next number. -/
theorem Numbered.add {count : Nat} {active : Option Identifier} {version : PlaybookVersion}
    (h : Numbered store o p count active) (absent : store.versions (o, p, v) = none)
    (named : version.organisationId = o ∧ version.playbookId = p ∧ version.id = v) (draft : version.state = .draft)
    (number : version.number = count + 1)
    (versions : ∀ w, after.versions (o, p, w) = if w = v then some version else store.versions (o, p, w)) :
    Numbered after o p (count + 1) active := by
  have hnew : after.versions (o, p, v) = some version := by rw [versions, if_pos rfl]
  have hne : ∀ {w old}, store.versions (o, p, w) = some old → w ≠ v := by
    rintro w old hw rfl
    rw [absent] at hw
    cases hw
  have hold : ∀ {w old}, store.versions (o, p, w) = some old → after.versions (o, p, w) = some old := by
    intro w old hw
    rw [versions, if_neg (hne hw)]
    exact hw
  have hcases : ∀ {w found}, after.versions (o, p, w) = some found →
      (w = v ∧ found = version) ∨ store.versions (o, p, w) = some found := by
    intro w found hw
    rw [versions] at hw
    split at hw
    · rename_i heq
      exact .inl ⟨heq, (Option.some.inj hw).symm⟩
    · exact .inr hw
  have hsmall : ∀ {w old}, store.versions (o, p, w) = some old → old.number ≤ count := fun hw =>
    ((h.numbered _).mpr ⟨_, _, hw, rfl⟩).2
  refine ⟨?_, ?_, ?_, ?_, ?_⟩
  · intro w found hw
    rcases hcases hw with ⟨rfl, rfl⟩ | hw
    · exact named
    · exact h.named w found hw
  · intro n
    constructor
    · rintro ⟨hpos, hle⟩
      by_cases hn : n = count + 1
      · exact ⟨v, version, hnew, number.trans hn.symm⟩
      · obtain ⟨w, old, hw, hnumber⟩ := (h.numbered n).mp ⟨hpos, by omega⟩
        exact ⟨w, old, hold hw, hnumber⟩
    · rintro ⟨w, found, hw, rfl⟩
      rcases hcases hw with ⟨rfl, rfl⟩ | hw
      · omega
      · obtain ⟨hpos, hle⟩ := (h.numbered found.number).mpr ⟨w, found, hw, rfl⟩
        exact ⟨hpos, by omega⟩
  · intro w w' found found' hw hw' heq
    rcases hcases hw with ⟨rfl, rfl⟩ | hw <;> rcases hcases hw' with ⟨rfl, rfl⟩ | hw'
    · rfl
    · have hle := hsmall hw'
      omega
    · have hle := hsmall hw
      omega
    · exact h.distinct w w' found found' hw hw' heq
  · intro w
    rw [h.published w]
    constructor
    · rintro ⟨old, hw, hstate⟩
      exact ⟨old, hold hw, hstate⟩
    · rintro ⟨found, hw, hstate⟩
      rcases hcases hw with ⟨rfl, rfl⟩ | hw
      · rw [draft] at hstate
        cases hstate
      · exact ⟨found, hw, hstate⟩
  · intro w found hw
    rcases hcases hw with ⟨rfl, rfl⟩ | hw
    · rw [draft]
      nofun
    · exact h.states w found hw

/-- Every version moves, and the one that is published then is the active one. -/
theorem Numbered.moved {count : Nat} {active active' : Option Identifier} (h : Numbered store o p count active)
    (forward : ∀ w old, store.versions (o, p, w) = some old → ∃ new, after.versions (o, p, w) = some new ∧
      Moves old new ∧ (new.state = .published ↔ active' = some w))
    (backward : ∀ w, store.versions (o, p, w) = none → after.versions (o, p, w) = none)
    (there : ∀ w, active' = some w → store.versions (o, p, w) ≠ none) : Numbered after o p count active' := by
  have hback : ∀ {w new}, after.versions (o, p, w) = some new → ∃ old, store.versions (o, p, w) = some old ∧
      Moves old new ∧ (new.state = .published ↔ active' = some w) := by
    intro w new hw
    cases hold : store.versions (o, p, w) with
    | none =>
      rw [backward w hold] at hw
      cases hw
    | some old =>
      obtain ⟨new', hnew, hmoves⟩ := forward w old hold
      rw [hw] at hnew
      cases hnew
      exact ⟨old, rfl, hmoves⟩
  refine ⟨?_, ?_, ?_, ?_, ?_⟩
  · intro w new hw
    obtain ⟨old, hold, hmoves, -⟩ := hback hw
    obtain ⟨hid, ho, hp, -⟩ := hmoves.content
    rw [hid, ho, hp]
    exact h.named w old hold
  · intro n
    rw [h.numbered n]
    constructor
    · rintro ⟨w, old, hold, rfl⟩
      obtain ⟨new, hnew, hmoves, -⟩ := forward w old hold
      exact ⟨w, new, hnew, hmoves.content.2.2.2.1⟩
    · rintro ⟨w, new, hnew, rfl⟩
      obtain ⟨old, hold, hmoves, -⟩ := hback hnew
      exact ⟨w, old, hold, hmoves.content.2.2.2.1.symm⟩
  · intro w w' new new' hnew hnew' heq
    obtain ⟨old, hold, hmoves, -⟩ := hback hnew
    obtain ⟨old', hold', hmoves', -⟩ := hback hnew'
    refine h.distinct w w' old old' hold hold' ?_
    rw [← hmoves.content.2.2.2.1, ← hmoves'.content.2.2.2.1]
    exact heq
  · intro w
    constructor
    · intro hactive
      cases hold : store.versions (o, p, w) with
      | none => exact absurd hold (there w hactive)
      | some old =>
        obtain ⟨new, hnew, -, hpublished⟩ := forward w old hold
        exact ⟨new, hnew, hpublished.mpr hactive⟩
    · rintro ⟨new, hnew, hstate⟩
      obtain ⟨-, -, -, hpublished⟩ := hback hnew
      exact hpublished.mp hstate
  · intro w new hnew
    obtain ⟨old, hold, hmoves, -⟩ := hback hnew
    rcases hmoves.state with rfl | ⟨-, hstate⟩ | ⟨-, hstate⟩
    · exact h.states w _ hold
    · rw [hstate]
      nofun
    · rw [hstate]
      nofun

/-- The numbering depends on the versions alone. -/
theorem Numbered.congr {count : Nat} {active : Option Identifier} (h : Numbered store o p count active)
    (versions : ∀ w, after.versions (o, p, w) = store.versions (o, p, w)) : Numbered after o p count active := by
  refine ⟨?_, ?_, ?_, ?_, ?_⟩ <;> simp only [versions]
  · exact h.named
  · exact h.numbered
  · exact h.distinct
  · exact h.published
  · exact h.states

/-- The soundness of a root depends on its versions alone. -/
theorem RootSound.congr {root : Playbook} (h : RootSound store o p root)
    (versions : ∀ w, after.versions (o, p, w) = store.versions (o, p, w)) : RootSound after o p root :=
  ⟨h.toNumbered.congr versions, h.placed, by simp only [versions]; exact h.latest⟩

/-- Only the documents of one playbook are written. -/
structure Only (o p : Identifier) (before after : PlaybookStore) : Prop where
  playbook : ∀ o' p', (o', p') ≠ (o, p) → after.playbooks (o', p') = before.playbooks (o', p')
  version : ∀ o' p' w, (o', p') ≠ (o, p) → after.versions (o', p', w) = before.versions (o', p', w)

/-- A playbook is written, and its versions are sound with it. -/
theorem VersionsSound.written {root : Playbook} (sound : VersionsSound store) (only : Only o p store after)
    (found : after.playbooks (o, p) = some root) (root_sound : RootSound after o p root) : VersionsSound after := by
  refine ⟨?_, ?_⟩
  · intro o' p' habsent w
    have hne : (o', p') ≠ (o, p) := by
      intro heq
      rw [heq, found] at habsent
      cases habsent
    rw [only.version o' p' w hne]
    rw [only.playbook o' p' hne] at habsent
    exact sound.absent o' p' habsent w
  · intro o' p' root' hroot'
    by_cases heq : (o', p') = (o, p)
    · cases heq
      rw [found] at hroot'
      cases hroot'
      exact root_sound
    · rw [only.playbook o' p' heq] at hroot'
      exact (sound.root o' p' root' hroot').congr fun w => only.version o' p' w heq

/-- A playbook that is not archived is written with a later revision. -/
theorem Evolution.written {changed : Playbook} (only : Only o p store after)
    (found : after.playbooks (o, p) = some changed)
    (root : ∀ root, store.playbooks (o, p) = some root → root.archivedAt = none ∧ root.revision < changed.revision)
    (version : ∀ w old, store.versions (o, p, w) = some old →
      ∃ new, after.versions (o, p, w) = some new ∧ Moves old new) : Evolution store after := by
  refine ⟨?_, ?_, ?_⟩
  · rintro ⟨o', p', w⟩ old hold
    by_cases heq : (o', p') = (o, p)
    · cases heq
      exact version w old hold
    · exact ⟨old, (only.version o' p' w heq).trans hold, .refl old⟩
  · intro o' p' found' hfound' harchived
    by_cases heq : (o', p') = (o, p)
    · cases heq
      exact absurd (root found' hfound').1 harchived
    · exact ⟨(only.playbook o' p' heq).trans hfound', fun w => only.version o' p' w heq⟩
  · rintro ⟨o', p'⟩ found' hfound'
    by_cases heq : (o', p') = (o, p)
    · cases heq
      exact ⟨changed, found, .inr (root found' hfound').2⟩
    · exact ⟨found', (only.playbook o' p' heq).trans hfound', .inl rfl⟩

private theorem version_key {o' p' w : Identifier} (h : (o', p') ≠ (o, p)) : (o', p', w) ≠ (o, p, v) := by
  intro heq
  obtain ⟨rfl, rfl, -⟩ : o' = o ∧ p' = p ∧ w = v := by simpa using heq
  exact h rfl

private theorem set_version {versions : Collection (Identifier × Identifier × Identifier) PlaybookVersion}
    {version : PlaybookVersion} (w : Identifier) :
    versions.set (o, p, v) version (o, p, w) = if w = v then some version else versions (o, p, w) := by
  split
  · rename_i heq
    rw [heq, Collection.set_same]
  · rename_i hne
    exact Collection.set_of_ne fun heq => hne (by simpa using heq)

private theorem addVersion_sound {definition : PlaybookDraft} {digest : Digest} {actorId : Identifier} {now : AwareDatetime}
    {sources : List Identifier} {result : Playbook × PlaybookVersion} (sound : VersionsSound store)
    (h : store.addVersion p v o definition digest actorId now sources = .ok (result, after)) :
    VersionsSound after ∧ Evolution store after := by
  obtain ⟨changed, version⟩ := result
  obtain ⟨habsent, rfl, ⟨ho, hp, hv, hdraft⟩, hnumber, hlatest, hroot⟩ := addVersion_ok h
  have hversions : ∀ w, store.versions.set (o, p, v) version (o, p, w) =
      if w = v then some version else store.versions (o, p, w) := set_version
  have hfound : store.playbooks.set (o, p) changed (o, p) = some changed := Collection.set_same ..
  have hadded : store.versions.set (o, p, v) version (o, p, v) = some version := Collection.set_same ..
  have only : Only o p store ⟨store.playbooks.set (o, p) changed, store.versions.set (o, p, v) version⟩ :=
    ⟨fun _ _ hne => Collection.set_of_ne hne, fun _ _ _ hne => Collection.set_of_ne (version_key hne)⟩
  have hkept : ∀ w old, store.versions (o, p, w) = some old →
      ∃ new, store.versions.set (o, p, v) version (o, p, w) = some new ∧ Moves old new := by
    intro w old hold
    refine ⟨old, ?_, .refl old⟩
    rw [hversions, if_neg]
    · exact hold
    · rintro rfl
      rw [habsent] at hold
      cases hold
  have hnext : ∃ v' version', changed.latestVersionId = some v' ∧
      store.versions.set (o, p, v) version (o, p, v') = some version' ∧ version'.number = changed.latestVersion :=
    ⟨v, version, hlatest, hadded, hnumber⟩
  rcases hroot with ⟨hnone, ho', hp', hone, hactive⟩ | ⟨root, hroot, hopen, ho', hp', hcount, hactive, hrevision⟩
  · have hnumbered : Numbered ⟨store.playbooks.set (o, p) changed, store.versions.set (o, p, v) version⟩ o p
        changed.latestVersion changed.activeVersionId := by
      rw [hone, hactive]
      exact (Numbered.empty (sound.absent o p hnone)).add habsent ⟨ho, hp, hv⟩ hdraft (hnumber.trans hone) hversions
    refine ⟨sound.written only hfound ⟨hnumbered, ⟨ho', hp'⟩, hnext⟩, .written only hfound ?_ hkept⟩
    intro root hroot
    rw [hnone] at hroot
    cases hroot
  · have hbefore := sound.root o p root hroot
    have hnumbered : Numbered ⟨store.playbooks.set (o, p) changed, store.versions.set (o, p, v) version⟩ o p
        changed.latestVersion changed.activeVersionId := by
      rw [hcount, hactive]
      exact hbefore.toNumbered.add habsent ⟨ho, hp, hv⟩ hdraft (hnumber.trans hcount) hversions
    refine ⟨sound.written only hfound ⟨hnumbered, ⟨ho'.trans hbefore.placed.1, hp'.trans hbefore.placed.2⟩, hnext⟩,
      .written only hfound ?_ hkept⟩
    intro root' hroot'
    rw [hroot] at hroot'
    cases hroot'
    exact ⟨hopen, by omega⟩

private theorem replace_sound {value result : Playbook} {expected : Int} (sound : VersionsSound store)
    (same : ∀ root, store.playbooks (value.organisationId, value.id) = some root → (root.revision : Int) = expected →
      root.archivedAt = none ∧ SameVersions value root)
    (h : store.replace value expected = .ok (result, after)) : VersionsSound after ∧ Evolution store after := by
  obtain ⟨root, hroot, hrevision, hnext, rfl⟩ := replace_ok h
  obtain ⟨hopen, hsame⟩ := same root hroot hrevision
  have hbefore := sound.root _ _ root hroot
  have only : Only value.organisationId value.id store
      { store with playbooks := store.playbooks.set (value.organisationId, value.id) value } :=
    ⟨fun _ _ hne => Collection.set_of_ne hne, fun _ _ _ _ => rfl⟩
  have hfound : store.playbooks.set (value.organisationId, value.id) value (value.organisationId, value.id) =
      some value := Collection.set_same ..
  have hnumbered : Numbered { store with playbooks := store.playbooks.set (value.organisationId, value.id) value }
      value.organisationId value.id value.latestVersion value.activeVersionId := by
    rw [hsame.latestVersion, hsame.activeVersionId]
    exact hbefore.toNumbered.congr fun _ => rfl
  refine ⟨sound.written only hfound ⟨hnumbered, ⟨rfl, rfl⟩, ?_⟩, .written only hfound ?_ ?_⟩
  · rw [hsame.latestVersion, hsame.latestVersionId]
    exact hbefore.latest
  · intro root' hroot'
    rw [hroot] at hroot'
    cases hroot'
    exact ⟨hopen, by omega⟩
  · exact fun _ old hold => ⟨old, hold, .refl old⟩

private theorem publishedBy_moves {version : PlaybookVersion} {actorId : Identifier} {now : AwareDatetime}
    (h : version.state = .draft) : Moves version (PlaybookStore.publishedBy version actorId now) :=
  ⟨⟨rfl, rfl, rfl, rfl, rfl, rfl, rfl, rfl, rfl⟩, .inr (.inl ⟨h, rfl⟩)⟩

private theorem superseded_moves {version : PlaybookVersion} (h : version.state = .published) :
    Moves version (PlaybookStore.superseded version) :=
  ⟨⟨rfl, rfl, rfl, rfl, rfl, rfl, rfl, rfl, rfl⟩, .inr (.inr ⟨h, rfl⟩)⟩

/-- When the active version is superseded, no version but the one to be published is published any more. -/
theorem supersede_moves {count : Nat} {active : Option Identifier}
    {versions : Collection (Identifier × Identifier × Identifier) PlaybookVersion}
    (numbered : Numbered store o p count active) (h : store.supersede o p active v = .ok versions) :
    (∀ w, w ≠ v → ∀ old, store.versions (o, p, w) = some old →
        ∃ new, versions (o, p, w) = some new ∧ Moves old new ∧ new.state ≠ .published) ∧
      (∀ w, store.versions (o, p, w) = none → versions (o, p, w) = none) ∧
      ∀ o' p' w, (o', p') ≠ (o, p) → versions (o', p', w) = store.versions (o', p', w) := by
  rcases supersede_ok h with ⟨rfl, hactive⟩ | ⟨a, previous, rfl, hne, hprevious, rfl⟩
  · refine ⟨?_, fun _ hw => hw, fun _ _ _ _ => rfl⟩
    intro w hw old hold
    refine ⟨old, hold, .refl old, fun hstate => ?_⟩
    have hpublished := (numbered.published w).mpr ⟨old, hold, hstate⟩
    rcases hactive with rfl | rfl
    · cases hpublished
    · exact hw (Option.some.inj hpublished).symm
  · obtain ⟨_, hfound, hstate⟩ := (numbered.published a).mp rfl
    rw [hprevious] at hfound
    cases hfound
    refine ⟨?_, ?_, fun _ _ _ hother => Collection.set_of_ne (version_key hother)⟩
    · intro w _ old hold
      rw [set_version]
      split
      · rename_i heq
        rw [heq, hprevious] at hold
        cases hold
        refine ⟨_, rfl, superseded_moves hstate, ?_⟩
        nofun
      · rename_i hwa
        refine ⟨old, hold, .refl old, fun hpublished => ?_⟩
        exact hwa (Option.some.inj ((numbered.published w).mpr ⟨old, hold, hpublished⟩)).symm
    · intro w hw
      rw [set_version, if_neg]
      · exact hw
      · rintro rfl
        rw [hprevious] at hw
        cases hw

private theorem publish_sound {actorId : Identifier} {now : AwareDatetime} {result : PlaybookVersion}
    (sound : VersionsSound store) (h : store.publish o p v actorId now = .ok (result, after)) :
    VersionsSound after ∧ Evolution store after := by
  obtain ⟨root, version, hroot, hversion, hopen, h⟩ := publish_ok h
  rcases h with ⟨-, rfl⟩ | ⟨hdraft, changed, versions, hsupersede, ho, hp, hcount, hlatest, hactive, hrevision, rfl⟩
  · exact ⟨sound, .refl _⟩
  · have hbefore := sound.root o p root hroot
    have hid : version.id = v := (hbefore.named v version hversion).2.2
    rw [hid] at hsupersede hactive
    obtain ⟨hothers, hnone, hapart⟩ := supersede_moves hbefore.toNumbered hsupersede
    have hset : ∀ w, versions.set (o, p, v) (PlaybookStore.publishedBy version actorId now) (o, p, w) =
        if w = v then some (PlaybookStore.publishedBy version actorId now) else versions (o, p, w) := set_version
    have hforward : ∀ w old, store.versions (o, p, w) = some old →
        ∃ new, versions.set (o, p, v) (PlaybookStore.publishedBy version actorId now) (o, p, w) = some new ∧
          Moves old new ∧ (new.state = .published ↔ changed.activeVersionId = some w) := by
      intro w old hold
      rw [hset, hactive]
      by_cases hw : w = v
      · subst hw
        rw [hversion] at hold
        cases hold
        exact ⟨_, if_pos rfl, publishedBy_moves hdraft, iff_of_true rfl rfl⟩
      · obtain ⟨new, hnew, hmoves, hstate⟩ := hothers w hw old hold
        exact ⟨new, by rw [if_neg hw]; exact hnew, hmoves,
          iff_of_false hstate fun heq => hw (Option.some.inj heq).symm⟩
    have hbackward : ∀ w, store.versions (o, p, w) = none →
        versions.set (o, p, v) (PlaybookStore.publishedBy version actorId now) (o, p, w) = none := by
      intro w hw
      rw [hset, if_neg]
      · exact hnone w hw
      · rintro rfl
        rw [hversion] at hw
        cases hw
    have hthere : ∀ w, changed.activeVersionId = some w → store.versions (o, p, w) ≠ none := by
      intro w hw
      rw [hactive] at hw
      rw [← Option.some.inj hw, hversion]
      exact Option.some_ne_none _
    have only : Only o p store ⟨store.playbooks.set (o, p) changed,
        versions.set (o, p, v) (PlaybookStore.publishedBy version actorId now)⟩ :=
      ⟨fun _ _ hne => Collection.set_of_ne hne, fun _ _ _ hne =>
        (Collection.set_of_ne (version_key hne)).trans (hapart _ _ _ hne)⟩
    have hnumbered : Numbered ⟨store.playbooks.set (o, p) changed,
        versions.set (o, p, v) (PlaybookStore.publishedBy version actorId now)⟩ o p changed.latestVersion
        changed.activeVersionId := by
      rw [hcount]
      exact hbefore.toNumbered.moved hforward hbackward hthere
    obtain ⟨l, last, hl, hlast, hnumber⟩ := hbefore.latest
    obtain ⟨new, hnew, hmoves, -⟩ := hforward l last hlast
    refine ⟨sound.written only (Collection.set_same ..) ⟨hnumbered,
        ⟨ho.trans hbefore.placed.1, hp.trans hbefore.placed.2⟩, l, new, hlatest.trans hl, hnew, ?_⟩,
      .written only (Collection.set_same ..) ?_ ?_⟩
    · rw [hmoves.content.2.2.2.1, hnumber, hcount]
    · intro root' hroot'
      rw [hroot] at hroot'
      cases hroot'
      exact ⟨hopen, by omega⟩
    · intro w old hold
      obtain ⟨new, hnew, hmoves, -⟩ := hforward w old hold
      exact ⟨new, hnew, hmoves⟩

/-- What a call is about to write is for the playbook as it is, if its revision is still the expected one. -/
def Fresh (store : PlaybookStore) (value : Playbook) (expected : Int) : Prop :=
  ∃ root, store.playbooks (value.organisationId, value.id) = some root ∧ expected ≤ root.revision ∧
    ((root.revision : Int) = expected → root.archivedAt = none ∧ SameVersions value root)

/-- A write that is fresh stays so while the store evolves. -/
theorem Fresh.evolves {value : Playbook} {expected : Int} (h : Fresh store value expected)
    (evolution : Evolution store after) : Fresh after value expected := by
  obtain ⟨root, hroot, hle, hsame⟩ := h
  obtain ⟨root', hroot', heq | hlt⟩ := evolution.revision _ root hroot
  · subst heq
    exact ⟨root', hroot', hle, hsame⟩
  · exact ⟨root', hroot', by omega, fun heq => by omega⟩

variable {characters : CharacterFunctions} {hashing : Hashing} {ι : Type} [DecidableEq ι] {pool : PlaybookPool ι}

structure SoundPlaybooks (pool : PlaybookPool ι) : Prop where
  versions : VersionsSound pool.store
  fresh : ∀ who value expected, pool.pending who = some (.replace value expected) → Fresh pool.store value expected

omit [DecidableEq ι] in
private theorem initial_soundPlaybooks : SoundPlaybooks (.initial : PlaybookPool ι) :=
  ⟨empty_versionsSound, fun _ _ _ h => absurd h (Option.some_ne_none _).symm⟩

private theorem prepared_sound {who : ι} {call : Except Error PlaybookCall} (sound : SoundPlaybooks pool)
    (h : ∀ value expected, call = .ok (.replace value expected) → Fresh pool.store value expected) :
    SoundPlaybooks (pool.prepared who call) ∧ Evolution pool.store (pool.prepared who call).store := by
  refine ⟨⟨sound.versions, ?_⟩, .refl _⟩
  intro other value expected hcall
  simp only [PlaybookPool.prepared] at hcall
  by_cases hother : other = who
  · rw [hother, Function.update_self] at hcall
    cases hresult : call with
    | error e =>
      rw [hresult] at hcall
      cases hcall
    | ok found =>
      rw [hresult] at hcall
      cases hcall
      exact h value expected hresult
  · rw [Function.update_of_ne hother] at hcall
    exact sound.fresh other value expected hcall

private theorem fresh_of_editable {current value : Playbook} {expected : Int} (sound : VersionsSound store)
    (read : store.get o p = .ok current) (editable : editablePlaybook current expected = .ok ())
    (same : SameVersions value current) : Fresh store value expected := by
  obtain ⟨root, hroot, hsame, harchived, hrevision⟩ := get_ok read
  simp only [editablePlaybook, unit_bind_ok, raiseIf_ok, not_not] at editable
  obtain ⟨hopen, hexpected⟩ := editable
  obtain ⟨ho, hp⟩ := (sound.root o p root hroot).placed
  refine ⟨root, ?_, by omega, fun _ => ⟨by rw [← harchived]; exact hopen, ?_⟩⟩
  · rw [same.organisationId, same.id, hsame.organisationId, hsame.id, ho, hp]
    exact hroot
  · exact ⟨same.id.trans hsame.id, same.organisationId.trans hsame.organisationId,
      same.latestVersion.trans hsame.latestVersion, same.latestVersionId.trans hsame.latestVersionId,
      same.activeVersionId.trans hsame.activeVersionId⟩

/-- One action keeps the versions sound, and the documents evolve. -/
theorem playbooks_next (sound : SoundPlaybooks pool) (action : PlaybookAction ι) :
    SoundPlaybooks (pool.next characters hashing action) ∧
      Evolution pool.store (pool.next characters hashing action).store := by
  cases action with
  | createVersion o p v definition actorId sources now =>
    have hboth : VersionsSound (pool.next characters hashing
          (.createVersion o p v definition actorId sources now)).store ∧
        Evolution pool.store (pool.next characters hashing
          (.createVersion o p v definition actorId sources now)).store := by
      rw [PlaybookPool.next]
      unfold PlaybookPool.after
      dsimp only
      split
      · rename_i hcreate
        simp only [createVersion, unit_bind_ok] at hcreate
        exact addVersion_sound sound.versions hcreate.2
      · exact ⟨sound.versions, .refl _⟩
    exact ⟨⟨hboth.1, fun who value expected h => (sound.fresh who value expected h).evolves hboth.2⟩, hboth.2⟩
  | publish who o p v actorId =>
    refine prepared_sound sound fun value expected h => ?_
    simp only [unit_bind_ok, pure_ok] at h
    cases h.2
  | rename who o p expected name now =>
    refine prepared_sound sound fun value expected' h => ?_
    rw [bind_ok] at h
    obtain ⟨current, hread, h⟩ := h
    rw [bind_ok] at h
    obtain ⟨changed, hchanged, h⟩ := h
    simp only [renamed, unit_bind_ok, pure_ok] at hchanged
    obtain ⟨heditable, rfl⟩ := hchanged
    cases h
    exact fresh_of_editable sound.versions hread heditable ⟨rfl, rfl, rfl, rfl, rfl⟩
  | archive who o p expected connections cascade now =>
    refine prepared_sound sound fun value expected' h => ?_
    rw [bind_ok] at h
    obtain ⟨current, hread, h⟩ := h
    rw [bind_ok] at h
    obtain ⟨changed, hchanged, h⟩ := h
    simp only [archived, unit_bind_ok, pure_ok] at hchanged
    obtain ⟨heditable, -, rfl⟩ := hchanged
    cases h
    exact fresh_of_editable sound.versions hread heditable ⟨rfl, rfl, rfl, rfl, rfl⟩
  | commit who now =>
    rw [PlaybookPool.next]
    split
    · exact ⟨sound, .refl _⟩
    · rename_i call hcall
      have hboth : VersionsSound (pool.committed now call) ∧ Evolution pool.store (pool.committed now call) := by
        unfold PlaybookPool.committed PlaybookPool.after
        cases call with
        | publish o p v actorId =>
          dsimp only
          split
          · rename_i hpublish
            exact publish_sound sound.versions hpublish
          · exact ⟨sound.versions, .refl _⟩
        | replace value expected =>
          dsimp only
          split
          · rename_i hreplace
            obtain ⟨root, hroot, -, hsame⟩ := sound.fresh who value expected hcall
            refine replace_sound sound.versions ?_ hreplace
            intro root' hroot'
            rw [hroot] at hroot'
            cases hroot'
            exact hsame
          · exact ⟨sound.versions, .refl _⟩
      refine ⟨⟨hboth.1, ?_⟩, hboth.2⟩
      intro other value expected hother
      dsimp only at hother
      by_cases heq : other = who
      · rw [heq, Function.update_self] at hother
        cases hother
      · rw [Function.update_of_ne heq] at hother
        exact (sound.fresh other value expected hother).evolves hboth.2

private theorem playbooks_run {actions : List (PlaybookAction ι)} (sound : SoundPlaybooks pool) :
    SoundPlaybooks (pool.run characters hashing actions) := by
  induction actions generalizing pool with
  | nil => exact sound
  | cons action actions ih => exact ih (playbooks_next sound action).1

/-- Publishing the active version again changes nothing. -/
theorem republish_keeps {root : Playbook} {actorId : Identifier} {now : AwareDatetime} {result : PlaybookVersion}
    (sound : VersionsSound store) (found : store.playbooks (o, p) = some root)
    (active : root.activeVersionId = some v) (h : store.publish o p v actorId now = .ok (result, after)) :
    after = store := by
  obtain ⟨root', version, hroot, hversion, -, h⟩ := publish_ok h
  rw [found] at hroot
  cases hroot
  obtain ⟨version', hversion', hstate⟩ := ((sound.root o p root found).published v).mp active
  rw [hversion] at hversion'
  cases hversion'
  rcases h with ⟨-, rfl⟩ | ⟨hdraft, -⟩
  · rfl
  · rw [hdraft] at hstate
    cases hstate

/-- In every run, versions are numbered contiguously, the active version alone is published, every step moves
versions from draft to published to superseded only and leaves archived playbooks as they are, and the publication of
the active version changes nothing. -/
theorem playbook_versions_kept (actions : List (PlaybookAction ι)) :
    VersionsSound (PlaybookPool.initial.run characters hashing actions).store ∧
      (∀ action, Evolution (PlaybookPool.initial.run characters hashing actions).store
        ((PlaybookPool.initial.run characters hashing actions).next characters hashing action).store) ∧
      ∀ who now organisationId playbookId versionId actorId root,
        (PlaybookPool.initial.run characters hashing actions).pending who =
          some (.publish organisationId playbookId versionId actorId) →
        (PlaybookPool.initial.run characters hashing actions).store.playbooks (organisationId, playbookId) = some root →
        root.activeVersionId = some versionId →
        ((PlaybookPool.initial.run characters hashing actions).next characters hashing (.commit who now)).store =
          (PlaybookPool.initial.run characters hashing actions).store := by
  have hsound : SoundPlaybooks (PlaybookPool.initial.run characters hashing actions) :=
    playbooks_run initial_soundPlaybooks
  refine ⟨hsound.versions, fun action => (playbooks_next hsound action).2, ?_⟩
  intro who now o p v actorId root hpending hroot hactive
  rw [PlaybookPool.next, hpending]
  unfold PlaybookPool.committed PlaybookPool.after
  dsimp only
  split
  · rename_i hpublish
    exact republish_keeps hsound.versions hroot hactive hpublish
  · rfl

end Uumi.Playbooks
