import Uumi.Foundations.Transactions
import Uumi.GitHub.Knowledge

/-! Requests of many organisations and deliveries of webhooks side by side: what is stored about an installation is of
the one organisation that its index names, and is what GitHub said to somebody who may act for that organisation. -/
namespace Uumi.GitHub
open Uumi.Contracts Uumi.Core Uumi.Foundations
open Uumi.Foundations.Program

/-- The answers of the repository. Clocks, secrets, GitHub, the inventory and queries answer anything. -/
def answers : World GitHubCall GitHubCall.Answer Error GitHubStore := fun s op answer t =>
  match op, answer with
  | .createSession session, answer => Commits (s.createSession session) answer s t
  | .session organisationId sessionId, answer =>
    t = s ∧ ∀ session, answer = .ok session → s.getSession organisationId sessionId = .ok session
  | .receipt installationId, answer => t = s ∧ ∀ receipt, answer = .ok receipt → s.receipts installationId = receipt
  | .stage session installation repositories, answer => Commits (s.stage session installation repositories) answer s t
  | .reserve session installation, answer => Commits (s.reserve session installation) answer s t
  | .finish session installation index, answer => Commits (s.finish session installation index) answer s t
  | .installation organisationId installationId, answer =>
    t = s ∧ ∀ installation, answer = .ok installation → s.getInstallation organisationId installationId = .ok installation
  | .write repositories, answer => Commits (.ok ((), s.write repositories) : Except Error _) answer s t
  | .remove repositories, answer => Commits (.ok ((), s.remove repositories) : Except Error _) answer s t
  | .recordReceipt receipt, answer => Commits (s.recordReceipt receipt) answer s t
  | .deactivate installationId occurredAt deleted, answer =>
    Commits (s.deactivate installationId occurredAt deleted) answer s t
  | .invalidate installationId occurredAt, answer => Commits (s.invalidateRepositories installationId occurredAt) answer s t
  | .index installationId, answer => t = s ∧ ∀ index, answer = .ok index → s.getIndex installationId = .ok index
  | .repository organisationId repositoryId, answer =>
    t = s ∧ ∀ repository, answer = .ok repository → s.getRepository organisationId repositoryId = .ok repository
  | _, _ => t = s

section
variable {ι : Type}

abbrev GitHubEvent (ι : Type) := Pool.Event ι GitHubCall GitHubCall.Answer Error

/-- An onboarding was begun by this administrator of the organisation, with these secrets. -/
def Begun.By (jobs : ι → Job) (events : List (GitHubEvent ι)) (session : GitHubOnboardingSession) : Prop :=
  ∃ who subject first answer, jobs who = .start session.organisationId subject ∧ session.subject.value = strip subject ∧
    (⟨who, .createSession first, answer⟩ : GitHubEvent ι) ∈ events ∧ first.id = session.id ∧
    first.organisationId = session.organisationId ∧ first.subject = session.subject ∧
    first.stateHash = session.stateHash ∧ first.verifierHash = session.verifierHash

/-- GitHub listed a repository of an installation to a discovery of the organisation: one by the administrator who had
begun the onboarding, with the secrets that it was begun with. -/
def Granted (app : GitHubApp) (jobs : ι → Job) (events : List (GitHubEvent ι)) (organisationId : Identifier)
    (installationId repositoryId : Int) (name : RepositoryName) : Prop :=
  ∃ session who state verifier code hint metadata listed item, Begun.By jobs events session ∧
    session.organisationId = organisationId ∧
    jobs who = .discover organisationId session.id session.subject.value state verifier code hint ∧
    app.onboarding.hashes.sha256 state = session.stateHash ∧
    app.onboarding.hashes.sha256 verifier = session.verifierHash ∧
    (⟨who, .verify code verifier hint, .ok (metadata, listed)⟩ : GitHubEvent ι) ∈ events ∧
    metadata.installationId = installationId ∧ item ∈ listed ∧ item.repositoryId = repositoryId ∧
    strip item.fullName = name.text

variable {app : GitHubApp} {jobs : ι → Job} {events more : List (GitHubEvent ι)} {organisationId : Identifier}
  {installationId repositoryId : Int} {name : RepositoryName} {session : GitHubOnboardingSession}

/-- What began an onboarding is still so when more has happened. -/
theorem Begun.By.mono (h : Begun.By jobs events session) (further : events ⊆ more) : Begun.By jobs more session := by
  obtain ⟨who, subject, first, answer, start, spoken, called, rest⟩ := h
  exact ⟨who, subject, first, answer, start, spoken, further called, rest⟩

/-- What GitHub listed is still so when more has happened. -/
theorem Granted.mono (h : Granted app jobs events organisationId installationId repositoryId name)
    (further : events ⊆ more) : Granted app jobs more organisationId installationId repositoryId name := by
  obtain ⟨session, who, state, verifier, code, hint, metadata, listed, item, begun, organisation, job, hstate, hverifier,
    said, rest⟩ := h
  exact ⟨session, who, state, verifier, code, hint, metadata, listed, item, begun.mono further, organisation, job, hstate,
    hverifier, further said, rest⟩

def Owns (s : GitHubStore) (installationId : Int) (organisationId : Identifier) : Prop :=
  ∃ index, s.indexes installationId = some index ∧ index.organisationId = organisationId

/-- An installation is owned by one organisation. -/
theorem Owns.unique {s : GitHubStore} {other : Identifier} (h : Owns s installationId organisationId)
    (h' : Owns s installationId other) : organisationId = other := by
  obtain ⟨index, found, rfl⟩ := h
  obtain ⟨index', found', rfl⟩ := h'
  cases found.symm.trans found'
  rfl

/-- An onboarding was begun, and its installation is the organisation's, with repositories that GitHub listed. -/
structure Onboarded (app : GitHubApp) (jobs : ι → Job) (events : List (GitHubEvent ι)) (s : GitHubStore)
    (session : GitHubOnboardingSession) : Prop where
  begun : Begun.By jobs events session
  installed : ∀ installation, session.installation = some installation →
    installation.organisationId = session.organisationId ∧
    Owns s installation.installationId session.organisationId ∧ ∀ found ∈ session.repositories,
      Granted app jobs events session.organisationId installation.installationId found.repositoryId found.fullName

/-- A repository is of an installation of the organisation, and GitHub listed it. -/
structure Connected (app : GitHubApp) (jobs : ι → Job) (events : List (GitHubEvent ι)) (s : GitHubStore)
    (repository : GitHubRepository) : Prop where
  owned : Owns s repository.installationId repository.organisationId
  granted : Granted app jobs events repository.organisationId repository.installationId repository.repositoryId
    repository.fullName

/-- A deleted installation is neither active nor ready, wherever it is written. -/
def Shut (s : GitHubStore) (installationId : Int) (index : GitHubInstallationIndex) : Prop :=
  index.active = false ∧ index.ready = false ∧ ∀ organisationId installation,
    s.installations (organisationId, installationId) = some installation →
      installation.active = false ∧ installation.ready = false

structure Consistent (app : GitHubApp) (jobs : ι → Job) (events : List (GitHubEvent ι)) (s : GitHubStore) : Prop where
  sessions : ∀ key session, s.sessions key = some session →
    key = (session.organisationId, session.id) ∧ Onboarded app jobs events s session
  repositories : ∀ key repository, s.repositories key = some repository →
    key = (repository.organisationId, repository.repositoryId) ∧ Connected app jobs events s repository
  installations : ∀ key installation, s.installations key = some installation →
    key = (installation.organisationId, installation.installationId) ∧
      Owns s installation.installationId installation.organisationId
  deleted : ∀ installationId index, s.indexes installationId = some index → index.deleted = true →
    Shut s installationId index

/-- Indexes stay, with their organisations, and what is deleted stays deleted. -/
def Extends (s t : GitHubStore) : Prop :=
  ∀ installationId index, s.indexes installationId = some index → ∃ later, t.indexes installationId = some later ∧
    later.organisationId = index.organisationId ∧ (index.deleted = true → later.deleted = true)

variable {s t u : GitHubStore} {repository : GitHubRepository}

/-- Nothing need be added. -/
theorem Extends.refl (s : GitHubStore) : Extends s s := fun _ index found => ⟨index, found, rfl, id⟩

/-- Stores may grow again. -/
theorem Extends.trans (h : Extends s t) (k : Extends t u) : Extends s u := by
  intro installationId index found
  obtain ⟨middle, hm, organisation, deleted⟩ := h installationId index found
  obtain ⟨later, hl, organisation', deleted'⟩ := k installationId middle hm
  exact ⟨later, hl, organisation'.trans organisation, deleted' ∘ deleted⟩

/-- An owner stays the owner. -/
theorem Owns.extend (h : Owns s installationId organisationId) (later : Extends s t) :
    Owns t installationId organisationId := by
  obtain ⟨index, found, rfl⟩ := h
  obtain ⟨next, hn, organisation, -⟩ := later installationId index found
  exact ⟨next, hn, organisation⟩

/-- An onboarding stays as it was begun. -/
theorem Onboarded.extend (h : Onboarded app jobs events s session) (further : events ⊆ more) (later : Extends s t) :
    Onboarded app jobs more t session where
  begun := h.begun.mono further
  installed installation stated := by
    obtain ⟨organisation, owned, granted⟩ := h.installed installation stated
    exact ⟨organisation, owned.extend later, fun found hf => (granted found hf).mono further⟩

/-- A repository stays connected. -/
theorem Connected.extend (h : Connected app jobs events s repository) (further : events ⊆ more) (later : Extends s t) :
    Connected app jobs more t repository where
  owned := h.owned.extend later
  granted := h.granted.mono further

/-- More may have happened. -/
theorem Consistent.later (h : Consistent app jobs events s) (further : events ⊆ more) : Consistent app jobs more s where
  sessions key session found :=
    ⟨(h.sessions key session found).1, (h.sessions key session found).2.extend further (.refl s)⟩
  repositories key repository found :=
    ⟨(h.repositories key repository found).1, (h.repositories key repository found).2.extend further (.refl s)⟩
  installations := h.installations
  deleted := h.deleted

private theorem Consistent.setSession (h : Consistent app jobs events s) (onboarded : Onboarded app jobs events s session) :
    Consistent app jobs events { s with sessions := s.sessions.set (session.organisationId, session.id) session } where
  sessions key other found := by
    rcases Collection.set_eq_some.mp found with ⟨rfl, rfl⟩ | ⟨-, found⟩
    · exact ⟨rfl, onboarded.extend (List.Subset.refl _) (.refl s)⟩
    · exact ⟨(h.sessions key other found).1, (h.sessions key other found).2.extend (List.Subset.refl _) (.refl s)⟩
  repositories key other found :=
    ⟨(h.repositories key other found).1, (h.repositories key other found).2.extend (List.Subset.refl _) (.refl s)⟩
  installations := h.installations
  deleted := h.deleted

private theorem Consistent.setReceipt (h : Consistent app jobs events s) (receipt : GitHubWebhookReceipt) :
    Consistent app jobs events { s with receipts := s.receipts.set receipt.installationId receipt } where
  sessions key other found :=
    ⟨(h.sessions key other found).1, (h.sessions key other found).2.extend (List.Subset.refl _) (.refl s)⟩
  repositories key other found :=
    ⟨(h.repositories key other found).1, (h.repositories key other found).2.extend (List.Subset.refl _) (.refl s)⟩
  installations := h.installations
  deleted := h.deleted

/-- Writing connected repositories keeps everything consistent. -/
theorem Consistent.write (h : Consistent app jobs events s) {repositories : List GitHubRepository}
    (connected : ∀ repository ∈ repositories, Connected app jobs events s repository) :
    Consistent app jobs events (s.write repositories) := by
  induction repositories generalizing s with
  | nil => exact h
  | cons repository rest ih =>
    have placed : Consistent app jobs events { s with
        repositories := s.repositories.set (repository.organisationId, repository.repositoryId) repository } :=
      { sessions := fun key other found =>
          ⟨(h.sessions key other found).1, (h.sessions key other found).2.extend (List.Subset.refl _) (.refl s)⟩
        repositories := fun key other found => by
          rcases Collection.set_eq_some.mp found with ⟨rfl, rfl⟩ | ⟨-, found⟩
          · exact ⟨rfl, (connected repository List.mem_cons_self).extend (List.Subset.refl _) (.refl s)⟩
          · exact ⟨(h.repositories key other found).1,
              (h.repositories key other found).2.extend (List.Subset.refl _) (.refl s)⟩
        installations := h.installations
        deleted := h.deleted }
    exact ih placed fun other ho => (connected other (List.mem_cons_of_mem _ ho)).extend (List.Subset.refl _) (.refl s)

/-- Removing repositories keeps everything consistent. -/
theorem Consistent.remove (h : Consistent app jobs events s) (repositories : List GitHubRepository) :
    Consistent app jobs events (s.remove repositories) where
  sessions key other found :=
    ⟨(h.sessions key other found).1, (h.sessions key other found).2.extend (List.Subset.refl _) (.refl s)⟩
  repositories key other found := by
    have deleted := Collection.foldl_delete s.repositories
      (fun repository : GitHubRepository => (repository.organisationId, repository.repositoryId)) repositories key
    rw [show (s.remove repositories).repositories key = _ from deleted] at found
    split at found
    · cases found
    · exact ⟨(h.repositories key other found).1,
        (h.repositories key other found).2.extend (List.Subset.refl _) (.refl s)⟩
  installations := h.installations
  deleted := h.deleted

/-- An index is replaced by one of the same organisation, perhaps together with the installation that it names. -/
theorem Consistent.replace (h : Consistent app jobs events s) (installationId : Int) (index : GitHubInstallationIndex)
    (installations : Collection (Identifier × Int) GitHubInstallation)
    (kept : ∀ old, s.indexes installationId = some old →
      index.organisationId = old.organisationId ∧ (old.deleted = true → index.deleted = true))
    (placed : ∀ key installation, installations key = some installation → s.installations key = some installation ∨
      key = (installation.organisationId, installation.installationId) ∧ key = (index.organisationId, installationId))
    (shut : index.deleted = true → index.active = false ∧ index.ready = false ∧ ∀ installation,
      installations (index.organisationId, installationId) = some installation →
        installation.active = false ∧ installation.ready = false) :
    Consistent app jobs events { s with installations, indexes := s.indexes.set installationId index } ∧
      Extends s { s with installations, indexes := s.indexes.set installationId index } := by
  have later : Extends s { s with installations, indexes := s.indexes.set installationId index } := by
    intro other old found
    by_cases same : other = installationId
    · subst same
      obtain ⟨organisation, deleted⟩ := kept old found
      exact ⟨index, Collection.set_same .., organisation, deleted⟩
    · exact ⟨old, (Collection.set_of_ne same).trans found, rfl, id⟩
  have owned : ∀ key installation, installations key = some installation →
      key = (installation.organisationId, installation.installationId) ∧
        Owns { s with installations, indexes := s.indexes.set installationId index } installation.installationId
          installation.organisationId := by
    intro key installation found
    rcases placed key installation found with old | ⟨hk, hi⟩
    · exact ⟨(h.installations key installation old).1, (h.installations key installation old).2.extend later⟩
    · obtain ⟨organisation, id⟩ := Prod.mk.inj (hk.symm.trans hi)
      exact ⟨hk, index, id ▸ Collection.set_same .., organisation.symm⟩
  refine ⟨⟨fun key session found => ?_, fun key repository found => ?_, owned, fun other next found deleted => ?_⟩, later⟩
  · exact ⟨(h.sessions key session found).1, (h.sessions key session found).2.extend (List.Subset.refl _) later⟩
  · exact ⟨(h.repositories key repository found).1,
      (h.repositories key repository found).2.extend (List.Subset.refl _) later⟩
  · rcases Collection.set_eq_some.mp found with ⟨rfl, rfl⟩ | ⟨hne, old⟩
    · obtain ⟨active, ready, idle⟩ := shut deleted
      refine ⟨active, ready, fun organisationId installation hi => ?_⟩
      -- an installation of another organisation would own the index as well
      obtain ⟨hk, own⟩ := owned _ installation hi
      obtain ⟨organisation, id⟩ := Prod.mk.inj hk
      have : organisationId = index.organisationId :=
        organisation.trans (own.unique ⟨index, id ▸ Collection.set_same .., rfl⟩)
      exact idle installation (this ▸ hi)
    · obtain ⟨active, ready, idle⟩ := h.deleted other next old deleted
      refine ⟨active, ready, fun organisationId installation hi => idle organisationId installation ?_⟩
      rcases placed _ installation hi with old | ⟨-, hk⟩
      · exact old
      · exact absurd (Prod.mk.inj hk).2 hne

private theorem session_read {other : GitHubOnboardingSession} (h : session.modelValidate = .ok other) :
    session = other := by
  simp only [GitHubOnboardingSession.modelValidate, unit_bind_ok, pure_ok] at h
  exact h.2

private theorem installation_read {installation other : GitHubInstallation}
    (h : installation.modelValidate = .ok other) : installation = other := by
  simp only [GitHubInstallation.modelValidate, unit_bind_ok, pure_ok] at h
  exact h.2

private theorem index_read {index other : GitHubInstallationIndex} (h : index.modelValidate = .ok other) :
    index = other ∧ (index.deleted = true → index.active = false ∧ index.ready = false) := by
  simp only [GitHubInstallationIndex.modelValidate, GitHubInstallationIndex.validate, unit_bind_ok, raiseIf_ok,
    pure_ok] at h
  obtain ⟨⟨-, -, gone⟩, rfl⟩ := h
  refine ⟨rfl, fun deleted => ?_⟩
  simpa [deleted] using gone

private theorem getSession_ok {sessionId : Identifier} (h : s.getSession organisationId sessionId = .ok session) :
    s.sessions (organisationId, sessionId) = some session := by
  simp only [GitHubStore.getSession, required_bind_ok] at h
  obtain ⟨document, found, valid⟩ := h
  exact session_read valid ▸ found

/-- An index that is read is the stored one. -/
theorem getIndex_ok {index : GitHubInstallationIndex} (h : s.getIndex installationId = .ok index) :
    s.indexes installationId = some index := by
  simp only [GitHubStore.getIndex, required_bind_ok] at h
  obtain ⟨document, found, valid⟩ := h
  exact (index_read valid).1 ▸ found

private theorem Consistent.claim (h : Consistent app jobs events s) {installation : GitHubInstallation}
    (free : ∀ old, s.indexes installation.installationId = some old →
      session.organisationId = old.organisationId ∧ old.deleted = false)
    (ht : t = { s with
      indexes := s.indexes.set installation.installationId (GitHubStore.newIndex session installation) }) :
    Consistent app jobs events t ∧ Extends s t := by
  subst ht
  refine h.replace _ _ _ (fun old found => ⟨(free old found).1, fun deleted => ?_⟩) (fun _ _ found => .inl found) nofun
  rw [(free old found).2] at deleted
  cases deleted

private theorem claimIndex_keeps (h : Consistent app jobs events s) {installation : GitHubInstallation}
    (claimed : s.claimIndex session installation = .ok t) :
    (Consistent app jobs events t ∧ Extends s t) ∧ Owns t installation.installationId session.organisationId ∧
      t.sessions = s.sessions := by
  rw [GitHubStore.claimIndex] at claimed
  cases found : s.indexes installation.installationId with
  | none =>
    rw [found] at claimed
    simp only [bind_ok _ _ _, pure_ok] at claimed
    obtain ⟨index, valid, rfl⟩ := claimed
    obtain ⟨rfl, -⟩ := index_read valid
    exact ⟨h.claim (by simp [found]) rfl, ⟨_, Collection.set_same .., rfl⟩, rfl⟩
  | some document =>
    rw [found] at claimed
    simp only [bind_ok _ _ _, pure_ok] at claimed
    obtain ⟨index, valid, _, same, _, -, _, -, rfl⟩ := claimed
    obtain ⟨rfl, -⟩ := index_read valid
    exact ⟨⟨h, .refl s⟩, ⟨document, found, by simpa using same⟩, rfl⟩

private theorem stage_keeps (h : Consistent app jobs events s) {installation : GitHubInstallation}
    {repositories : List GitHubRepositoryCandidate} {answer : GitHubOnboardingSession}
    (organisation : installation.organisationId = session.organisationId)
    (granted : ∀ found ∈ repositories, Granted app jobs events session.organisationId installation.installationId
      found.repositoryId found.fullName)
    (staged : s.stage session installation repositories = .ok (answer, t)) :
    Consistent app jobs events t ∧ Extends s t := by
  simp only [GitHubStore.stage, bind_ok _ _ _, required_ok] at staged
  obtain ⟨document, found, current, valid, staged⟩ := staged
  obtain rfl := session_read valid
  split at staged
  · simp only [bind_ok _ _ _, pure_ok, Prod.mk.injEq] at staged
    obtain ⟨_, same, claimed, claiming, -, rfl⟩ := staged
    obtain rfl : document = session := by simpa using same
    obtain ⟨⟨consistent, later⟩, owns, sessions⟩ := claimIndex_keeps h claiming
    have onboarded := (h.sessions _ _ found).2
    have next : Onboarded app jobs events claimed (GitHubStore.staged document installation repositories) :=
      { begun := onboarded.begun
        installed := by
          rintro _ ⟨⟩
          exact ⟨organisation, owns, granted⟩ }
    exact ⟨consistent.setSession next, later⟩
  · simp only [pure_ok, Prod.mk.injEq] at staged
    obtain ⟨-, rfl⟩ := staged
    exact ⟨h, .refl s⟩

private theorem reserve_keeps (h : Consistent app jobs events s) {installation : GitHubInstallation}
    {index : GitHubInstallationIndex} (reserved : s.reserve session installation = .ok (index, t)) :
    (Consistent app jobs events t ∧ Extends s t) ∧ index.deleted = false := by
  rw [GitHubStore.reserve] at reserved
  cases found : s.indexes installation.installationId with
  | none =>
    rw [found] at reserved
    simp only [bind_ok _ _ _, pure_ok, Prod.mk.injEq] at reserved
    obtain ⟨index, valid, rfl, rfl⟩ := reserved
    obtain ⟨rfl, -⟩ := index_read valid
    exact ⟨h.claim (by simp [found]) rfl, rfl⟩
  | some document =>
    rw [found] at reserved
    simp only [bind_ok _ _ _] at reserved
    obtain ⟨current, valid, _, same, _, present, reserved⟩ := reserved
    obtain ⟨rfl, -⟩ := index_read valid
    have same : document.organisationId = session.organisationId := by simpa using same
    have present : document.deleted = false := by simpa using present
    split at reserved
    · simp only [bind_ok _ _ _, pure_ok, Prod.mk.injEq] at reserved
      obtain ⟨_, -, index, valid, rfl, rfl⟩ := reserved
      obtain ⟨rfl, -⟩ := index_read valid
      refine ⟨h.claim ?_ rfl, rfl⟩
      rintro old hold
      cases found.symm.trans hold
      exact ⟨same.symm, present⟩
    · simp only [pure_ok, Prod.mk.injEq] at reserved
      obtain ⟨rfl, rfl⟩ := reserved
      exact ⟨⟨h, .refl s⟩, present⟩

private theorem finish_keeps (h : Consistent app jobs events s) {installation : GitHubInstallation}
    {index : GitHubInstallationIndex} {answer : GitHubOnboardingSession} (stated : session.installation = some installation)
    (present : index.deleted = false) (finished : s.finish session installation index = .ok (answer, t)) :
    Consistent app jobs events t ∧ Extends s t := by
  simp only [GitHubStore.finish, bind_ok _ _ _, required_ok] at finished
  obtain ⟨document, found, indexDocument, indexed, current, valid, currentIndex, validIndex, finished⟩ := finished
  obtain rfl := session_read valid
  obtain ⟨rfl, -⟩ := index_read validIndex
  split at finished
  · simp only [pure_ok, Prod.mk.injEq] at finished
    obtain ⟨-, rfl⟩ := finished
    exact ⟨h, .refl s⟩
  · simp only [bind_ok _ _ _, pure_ok, Prod.mk.injEq] at finished
    obtain ⟨_, same, -, rfl⟩ := finished
    obtain ⟨rfl, rfl⟩ : document = session ∧ indexDocument = index := by simpa [not_or] using same
    have onboarded := (h.sessions _ _ found).2
    obtain ⟨organisation, owned, granted⟩ := onboarded.installed installation stated
    have own : indexDocument.organisationId = installation.organisationId := by
      obtain ⟨other, hother, ho⟩ := owned
      cases indexed.symm.trans hother
      exact ho.trans organisation.symm
    obtain ⟨consistent, later⟩ := h.replace installation.installationId { indexDocument with ready := installation.ready }
      (s.installations.set (installation.organisationId, installation.installationId) installation)
      (by
        rintro old hold
        cases indexed.symm.trans hold
        exact ⟨rfl, id⟩)
      (by
        intro key other hk
        rcases Collection.set_eq_some.mp hk with ⟨rfl, rfl⟩ | ⟨-, old⟩
        · exact .inr ⟨rfl, own ▸ rfl⟩
        · exact .inl old)
      (fun deleted => by
        change indexDocument.deleted = true at deleted
        rw [present] at deleted
        cases deleted)
    have complete : Onboarded app jobs events _ (GitHubStore.completed document installation) :=
      ⟨onboarded.begun, (onboarded.extend (List.Subset.refl _) later).installed⟩
    exact ⟨consistent.setSession complete, later⟩

private theorem change_keeps (h : Consistent app jobs events s) {answer : Unit}
    {installation : GitHubInstallation → GitHubInstallation} {index : GitHubInstallationIndex → GitHubInstallationIndex}
    (same : ∀ known, (installation known).organisationId = known.organisationId ∧
      (installation known).installationId = known.installationId)
    (kept : ∀ current, (index current).organisationId = current.organisationId ∧
      (current.deleted = true → (index current).deleted = true))
    (shut : ∀ current, (index current).deleted = true →
      (current.deleted = true → current.active = false ∧ current.ready = false) →
      (index current).active = false ∧ (index current).ready = false ∧ ∀ known,
        (current.deleted = true → known.active = false ∧ known.ready = false) →
          (installation known).active = false ∧ (installation known).ready = false)
    (changed : s.change installationId installation index = .ok (answer, t)) :
    Consistent app jobs events t ∧ Extends s t := by
  rw [GitHubStore.change] at changed
  cases found : s.indexes installationId with
  | none =>
    rw [found] at changed
    cases changed
    exact ⟨h, .refl s⟩
  | some document =>
    rw [found] at changed
    obtain ⟨current, valid, changed⟩ := (bind_ok _ _ _).mp changed
    obtain ⟨rfl, gone⟩ := index_read valid
    have wrote : ∃ installations, t = { s with
        installations, indexes := s.indexes.set installationId (index document) } ∧
        (installations = s.installations ∧ s.installations (document.organisationId, installationId) = none ∨
          ∃ known, s.installations (document.organisationId, installationId) = some known ∧
            installations = s.installations.set (document.organisationId, installationId) (installation known)) := by
      split at changed
      · rename_i stored
        cases changed
        exact ⟨_, rfl, .inl ⟨rfl, stored⟩⟩
      · rename_i known stored
        obtain ⟨other, read, changed⟩ := (bind_ok _ _ _).mp changed
        obtain rfl := installation_read read
        cases changed
        exact ⟨_, rfl, .inr ⟨known, stored, rfl⟩⟩
    obtain ⟨installations, rfl, wrote⟩ := wrote
    refine h.replace _ _ _ ?_ ?_ ?_
    · rintro old hold
      cases found.symm.trans hold
      exact kept document
    · rintro key other hother
      rcases wrote with ⟨rfl, -⟩ | ⟨known, stored, rfl⟩
      · exact .inl hother
      · rcases Collection.set_eq_some.mp hother with ⟨rfl, rfl⟩ | ⟨-, old⟩
        · obtain ⟨hk, -⟩ := h.installations _ known stored
          rw [(kept document).1, (same known).1, (same known).2]
          exact .inr ⟨hk, rfl⟩
        · exact .inl old
    · intro deleted
      obtain ⟨active, ready, idle⟩ := shut document deleted gone
      refine ⟨active, ready, fun other hother => ?_⟩
      rw [(kept document).1] at hother
      rcases wrote with ⟨rfl, none⟩ | ⟨known, stored, rfl⟩
      · cases none.symm.trans hother
      · cases (Collection.set_same ..).symm.trans hother
        exact idle known fun before => (h.deleted _ document found before).2.2 _ known stored

private theorem recordReceipt_keeps (h : Consistent app jobs events s) {receipt : GitHubWebhookReceipt}
    {answer : Option GitHubInstallation} (recorded : s.recordReceipt receipt = .ok (answer, t)) :
    Consistent app jobs events t ∧ Extends s t := by
  have h' := h.setReceipt receipt
  rw [GitHubStore.recordReceipt] at recorded
  cases found : s.indexes receipt.installationId with
  | none =>
    simp only [found] at recorded
    cases recorded
    exact ⟨h', .refl s⟩
  | some document =>
    simp only [found] at recorded
    obtain ⟨index, valid, recorded⟩ := (bind_ok _ _ _).mp recorded
    obtain ⟨rfl, gone⟩ := index_read valid
    split at recorded
    · cases recorded
      exact ⟨h', .refl s⟩
    · rename_i known stored
      obtain ⟨other, read, recorded⟩ := (bind_ok _ _ _).mp recorded
      obtain rfl := installation_read read
      cases recorded
      have inactive (deleted : document.deleted = true) :
          (document.active || (receipt.action.value == "unsuspend" && !document.deleted)) = false := by
        simp [deleted, (gone deleted).1]
      obtain ⟨hk, -⟩ := h.installations _ known stored
      refine h'.replace _ _ _ ?_ ?_ ?_
      · rintro old hold
        cases found.symm.trans hold
        exact ⟨rfl, id⟩
      · rintro key other hother
        rcases Collection.set_eq_some.mp hother with ⟨rfl, rfl⟩ | ⟨-, old⟩
        · exact .inr ⟨hk, rfl⟩
        · exact .inl old
      · intro deleted
        refine ⟨inactive deleted, by simp [inactive deleted], fun other hother => ?_⟩
        cases (Collection.set_same ..).symm.trans hother
        exact ⟨inactive deleted, by simp [GitHubStore.received, inactive deleted]⟩

def Fact.Holds (app : GitHubApp) (jobs : ι → Job) (who : ι) (events : List (GitHubEvent ι)) (s : GitHubStore) :
    Fact → Prop
  | .session onboarding => Onboarded app jobs events s onboarding
  | .verified code verifier hint metadata listed =>
    (⟨who, .verify code verifier hint, .ok (metadata, listed)⟩ : GitHubEvent ι) ∈ events
  | .reserved claimed => claimed.deleted = false
  | .secret bytes => (⟨who, .secret, .ok bytes⟩ : GitHubEvent ι) ∈ events
  | .index installationId read => Owns s installationId read.organisationId
  | .repository organisationId repositoryId found => found.organisationId = organisationId ∧
    found.repositoryId = repositoryId ∧ Connected app jobs events s found
  | .connections organisationId listed =>
    (⟨who, .connections organisationId, .ok listed⟩ : GitHubEvent ι) ∈ events

/-- A fact stays so when more has happened. -/
theorem Fact.Holds.extend {who : ι} {fact : Fact} (h : fact.Holds app jobs who events s) (further : events ⊆ more)
    (later : Extends s t) : fact.Holds app jobs who more t := by
  cases fact with
  | session session => exact Onboarded.extend h further later
  | verified | secret | connections => exact further h
  | reserved index => exact h
  | index installationId index => exact Owns.extend h later
  | repository organisationId repositoryId repository => exact ⟨h.1, h.2.1, h.2.2.extend further later⟩

private theorem commit_keeps {α : Type} {result : Except Error (α × GitHubStore)} {answer : Except Error α}
    (h : Consistent app jobs events s) (kept : ∀ a u, result = .ok (a, u) → Consistent app jobs events u ∧ Extends s u)
    (committed : Commits result answer s t) : Consistent app jobs events t ∧ Extends s t := by
  rcases commits_cases committed with ⟨rfl, -⟩ | ⟨a, done, -⟩
  · exact ⟨h, .refl _⟩
  · exact kept a t done

variable {who : ι} {known : Set Fact} {op : GitHubCall} {answer : Except Error op.Answer}

private theorem justified_keeps (h : Consistent app jobs events s)
    (facts : ∀ fact ∈ known, fact.Holds app jobs who events s) (called : (⟨who, op, answer⟩ : GitHubEvent ι) ∈ events)
    (justified : Justified app (jobs who) known op) (answered : answers s op answer t) :
    Consistent app jobs events t ∧ Extends s t := by
  cases op with
  | createSession session =>
    obtain ⟨bare, subject, job, spoken⟩ := justified
    refine commit_keeps h (fun a u done => ?_) answered
    simp only [GitHubStore.createSession, unit_bind_ok, pure_ok, Prod.mk.injEq] at done
    obtain ⟨-, -, rfl⟩ := done
    have begun : Begun.By jobs events session :=
      ⟨who, subject, session, answer, job, spoken, called, rfl, rfl, rfl, rfl, rfl⟩
    refine ⟨h.setSession ⟨begun, fun installation stated => ?_⟩, .refl s⟩
    cases bare.symm.trans stated
  | stage session installation repositories =>
    refine commit_keeps h (fun a u done => stage_keeps h justified.organisationId (fun found hf => ?_) done) answered
    obtain ⟨state, verifier, code, hint, metadata, listed, job, hstate, hverifier, said, id, listing⟩ := justified.verified
    obtain ⟨item, hi, repositoryId, name⟩ := listing found hf
    exact ⟨session, who, state, verifier, code, hint, metadata, listed, item, (facts _ justified.read).begun, rfl, job,
      hstate, hverifier, facts _ said, id, hi, repositoryId, name⟩
  | reserve session installation =>
    exact commit_keeps h (fun index u done => (reserve_keeps h done).1) answered
  | finish session installation index =>
    obtain ⟨read, stated, reserved⟩ := justified
    exact commit_keeps h (fun a u done => finish_keeps h stated (facts _ reserved) done) answered
  | write repositories =>
    refine commit_keeps h (fun a u done => ?_) answered
    cases done
    refine ⟨h.write fun repository hr => ?_, .refl s⟩
    obtain ⟨session, installation, read, stated, organisation, id, found, hf, repositoryId, name⟩ := justified repository hr
    obtain ⟨-, owned, granted⟩ := (facts _ read).installed installation stated
    have listed := granted found hf
    rw [repositoryId, name] at listed
    exact ⟨by rwa [organisation, id], by rwa [organisation, id]⟩
  | remove repositories =>
    refine commit_keeps h (fun a u done => ?_) answered
    cases done
    exact ⟨h.remove repositories, .refl s⟩
  | recordReceipt receipt => exact commit_keeps h (fun a u done => recordReceipt_keeps h done) answered
  | deactivate installationId occurredAt deleted =>
    refine commit_keeps h (fun a u done => ?_) answered
    have done : s.change installationId _ _ = .ok (a, u) := done
    refine change_keeps h ?_ ?_ ?_ done
    · exact fun _ => ⟨rfl, rfl⟩
    · exact fun current => ⟨rfl, fun old => by simp [old]⟩
    · exact fun current _ _ => ⟨rfl, rfl, fun _ _ => ⟨rfl, rfl⟩⟩
  | invalidate installationId occurredAt =>
    refine commit_keeps h (fun a u done => ?_) answered
    have done : s.change installationId _ _ = .ok (a, u) := done
    refine change_keeps h ?_ ?_ ?_ done
    · exact fun _ => ⟨rfl, rfl⟩
    · exact fun current => ⟨rfl, id⟩
    · exact fun current deleted gone => ⟨(gone deleted).1, rfl, fun known idle => ⟨(idle deleted).1, rfl⟩⟩
  | session | receipt | installation | index | repository =>
    obtain ⟨rfl, -⟩ := answered
    exact ⟨h, .refl _⟩
  | clock | secret | token | newId | verify | repositories | connections | replaceConnection =>
    obtain rfl := answered
    exact ⟨h, .refl _⟩

private theorem taught_holds (h : Consistent app jobs events s)
    (facts : ∀ fact ∈ known, fact.Holds app jobs who events t) (called : (⟨who, op, answer⟩ : GitHubEvent ι) ∈ events)
    (answered : answers s op answer t) :
    ∃ after, learning known op answer after ∧ ∀ fact ∈ after, fact.Holds app jobs who events t := by
  have learns {fact : Fact} (hf : fact.Holds app jobs who events t) :
      ∀ other ∈ insert fact known, other.Holds app jobs who events t := by
    rintro other (rfl | ho)
    · exact hf
    · exact facts other ho
  cases answer with
  | error e => exact ⟨known, by cases op <;> rfl, facts⟩
  | ok value =>
    cases op with
    | session organisationId sessionId =>
      obtain ⟨rfl, read⟩ := answered
      obtain ⟨hk, onboarded⟩ := h.sessions _ value (getSession_ok (read value rfl))
      obtain ⟨organisation, id⟩ := Prod.mk.inj hk
      exact ⟨_, ⟨rfl, organisation.symm, id.symm⟩, learns onboarded⟩
    | verify code verifier hint => exact ⟨_, rfl, learns called⟩
    | reserve session installation =>
      have reserved : s.reserve session installation = .ok (value, t) := answered
      exact ⟨_, rfl, learns (reserve_keeps h reserved).2⟩
    | secret => exact ⟨_, rfl, learns called⟩
    | connections organisationId => exact ⟨_, rfl, learns called⟩
    | index installationId =>
      obtain ⟨rfl, read⟩ := answered
      exact ⟨_, rfl, learns ⟨value, getIndex_ok (read value rfl), rfl⟩⟩
    | repository organisationId repositoryId =>
      obtain ⟨rfl, read⟩ := answered
      have found := (required_ok ..).mp (read value rfl)
      obtain ⟨hk, connected⟩ := h.repositories _ value found
      obtain ⟨organisation, id⟩ := Prod.mk.inj hk
      exact ⟨_, rfl, learns ⟨organisation.symm, id.symm, connected⟩⟩
    | _ => exact ⟨known, rfl, facts⟩

/-- A justified call keeps everything consistent, and what the program learns from its answer is true. -/
theorem answers_keep (h : Consistent app jobs events s) (facts : ∀ fact ∈ known, fact.Holds app jobs who events s)
    (justified : Justified app (jobs who) known op) (answered : answers s op answer t) :
    (Consistent app jobs (events ++ [⟨who, op, answer⟩]) t ∧ Extends s t) ∧ ∃ after, learning known op answer after ∧
      ∀ fact ∈ after, fact.Holds app jobs who (events ++ [⟨who, op, answer⟩]) t := by
  have further : events ⊆ events ++ [⟨who, op, answer⟩] := List.subset_append_left ..
  have called : (⟨who, op, answer⟩ : GitHubEvent ι) ∈ events ++ [⟨who, op, answer⟩] := by simp
  obtain ⟨consistent, later⟩ := justified_keeps (h.later further)
    (fun fact hf => (facts fact hf).extend further (.refl s)) called justified answered
  exact ⟨⟨consistent, later⟩,
    taught_holds (h.later further) (fun fact hf => (facts fact hf).extend further later) called answered⟩

end

section
variable {ι : Type} [DecidableEq ι]

abbrev GitHubPool (ι : Type) := Pool ι GitHubCall GitHubCall.Answer Error JobResult GitHubStore

/-- Any of the requests makes its next call, at any time. -/
abbrev Runs (before : List (GitHubEvent ι)) (start : GitHubPool ι) (events : List (GitHubEvent ι))
    (pool : GitHubPool ι) : Prop :=
  Pool.Run answers (fun _ _ _ => True) before start events pool

abbrev Informed (app : GitHubApp) (jobs : ι → Job) (events : List (GitHubEvent ι)) (pool : GitHubPool ι)
    (known : ι → Set Fact) : Prop :=
  Pool.Informed lessons (fun who => Justified app (jobs who)) (fun who => (jobs who).Ends app)
    (Consistent app jobs) (Fact.Holds app jobs) events pool known

variable {app : GitHubApp} {jobs : ι → Job} {before events : List (GitHubEvent ι)} {start pool : GitHubPool ι}

/-- A run leaves the requests informed. -/
theorem runs_informed {known : ι → Set Fact} (informed : Informed app jobs before start known)
    (run : Runs before start events pool) : ∃ known', Informed app jobs events pool known' := by
  refine run.informed informed fun who events s op answer t known consistent facts justified answered => ?_
  obtain ⟨⟨ht, later⟩, taught⟩ := answers_keep consistent facts justified answered
  exact ⟨ht, fun _ _ hf => hf.extend (List.subset_append_left ..) later, taught⟩

def beginning (app : GitHubApp) (jobs : ι → Job) : GitHubPool ι where
  state := .empty
  programs who := (jobs who).program app

omit [DecidableEq ι] in
private theorem empty_consistent : Consistent app jobs [] .empty where
  sessions _ _ found := by simp [GitHubStore.empty, Collection.empty] at found
  repositories _ _ found := by simp [GitHubStore.empty, Collection.empty] at found
  installations _ _ found := by simp [GitHubStore.empty, Collection.empty] at found
  deleted _ _ found := by simp [GitHubStore.empty, Collection.empty] at found

omit [DecidableEq ι] in
/-- The requests begin informed of nothing. -/
theorem beginning_informed : Informed app jobs [] (beginning app jobs) fun _ => ∅ where
  consistent := empty_consistent
  facts _ _ hf := hf.elim
  follows who := (program_keeps (jobs who)).mono fun _ _ ⟨_, ends⟩ => ends

end

end Uumi.GitHub
