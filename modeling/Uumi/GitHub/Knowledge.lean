import Uumi.Contracts.Audit
import Uumi.Foundations.Learning
import Uumi.GitHub.Webhooks

/-! What the requests of onboarding and the webhooks have learnt when they make a call, and that they write only what
GitHub has said to somebody who may act for the organisation. -/
namespace Uumi.GitHub
open Uumi.Contracts Uumi.Core Uumi.Foundations
open Uumi.Foundations.Program

/-- The application, and the endpoint of its webhooks. -/
structure GitHubApp where
  onboarding : GitHubOnboardingService
  webhook : GitHubWebhook

/-- A request of an administrator, or a delivery of GitHub's. -/
inductive Job where
  | start (organisationId : Identifier) (subject : String)
  | discover (organisationId sessionId : Identifier) (subject state verifier code : String) (installationId : Option Int)
  | complete (organisationId sessionId : Identifier) (subject : String)
  | webhook (delivery : Delivery)

inductive JobResult where
  | begun (answer : Begun)
  | discovered (answer : Discovered)
  | completed (answer : Completed)
  | delivered (event : Option IngestionEvent)

def Job.program (app : GitHubApp) : Job → GitHubM JobResult
  | .start organisationId subject => do
    let answer : Begun ← app.onboarding.start organisationId subject
    return .begun answer
  | .discover organisationId sessionId subject state verifier code installationId => do
    let answer : Discovered ←
      app.onboarding.discover organisationId sessionId subject state verifier code installationId
    return .discovered answer
  | .complete organisationId sessionId subject => do
    let answer : Completed ← GitHubOnboardingService.complete organisationId sessionId subject
    return .completed answer
  | .webhook delivery => do
    let event : Option IngestionEvent ← app.webhook.github delivery
    return .delivered event

inductive Fact where
  | session (session : GitHubOnboardingSession)
  /-- What GitHub said for an authorisation code. -/
  | verified (code verifier : String) (hint : Option Int) (installation : VerifiedInstallation)
      (repositories : List VerifiedRepository)
  /-- An index was reserved, so it is not deleted. -/
  | reserved (index : GitHubInstallationIndex)
  | secret (bytes : List UInt8)
  | index (installationId : Int) (index : GitHubInstallationIndex)
  | repository (organisationId : Identifier) (repositoryId : Int) (repository : GitHubRepository)
  | connections (organisationId : Identifier) (connections : List Connection)

/-- What a program learns from the answers to its calls. -/
def learning : World GitHubCall GitHubCall.Answer Error (Set Fact) := fun known op answer after =>
  match op, answer with
  | .session organisationId sessionId, .ok session =>
    after = insert (.session session) known ∧ session.organisationId = organisationId ∧ session.id = sessionId
  | .verify code verifier hint, .ok (installation, repositories) =>
    after = insert (.verified code verifier hint installation repositories) known
  | .reserve _ _, .ok index => after = insert (.reserved index) known
  | .secret, .ok bytes => after = insert (.secret bytes) known
  | .index installationId, .ok index => after = insert (.index installationId index) known
  | .repository organisationId repositoryId, .ok repository =>
    after = insert (.repository organisationId repositoryId repository) known
  | .connections organisationId, .ok connections => after = insert (.connections organisationId connections) known
  | _, _ => after = known

private theorem learning_grows {known after : Set Fact} {op : GitHubCall} {answer : Except Error op.Answer}
    (h : learning known op answer after) : known ⊆ after := by
  cases op <;> cases answer <;> simp only [learning] at h
  case session.ok => exact h.1 ▸ Set.subset_insert ..
  all_goals first | exact h.ge | exact h ▸ Set.subset_insert ..

def lessons : Learning GitHubCall GitHubCall.Answer Error Fact := ⟨learning, learning_grows⟩

/-- A discovery stages what GitHub said, to whoever holds the secrets that the onboarding was begun with. -/
structure Discovers (service : GitHubOnboardingService) (job : Job) (known : Set Fact)
    (session : GitHubOnboardingSession) (installation : GitHubInstallation)
    (repositories : List GitHubRepositoryCandidate) : Prop where
  read : .session session ∈ known
  organisationId : installation.organisationId = session.organisationId
  verified : ∃ state verifier code hint metadata listed,
    job = .discover session.organisationId session.id session.subject.value state verifier code hint ∧
    service.hashes.sha256 state = session.stateHash ∧ service.hashes.sha256 verifier = session.verifierHash ∧
    .verified code verifier hint metadata listed ∈ known ∧ metadata.installationId = installation.installationId ∧
    ∀ repository ∈ repositories, ∃ item ∈ listed,
      item.repositoryId = repository.repositoryId ∧ strip item.fullName = repository.fullName.text

/-- A repository is one of those that an onboarding has discovered. -/
def Selected (known : Set Fact) (repository : GitHubRepository) : Prop :=
  ∃ session installation, .session session ∈ known ∧ session.installation = some installation ∧
    repository.organisationId = session.organisationId ∧ repository.installationId = installation.installationId ∧
    ∃ found ∈ session.repositories, found.repositoryId = repository.repositoryId ∧ found.fullName = repository.fullName

/-- The calls that a request may make when it has learnt this much. -/
def Justified (app : GitHubApp) (job : Job) (known : Set Fact) : GitHubCall → Prop
  | .createSession session => session.installation = none ∧
    ∃ subject, job = .start session.organisationId subject ∧ session.subject.value = strip subject
  | .stage session installation repositories => Discovers app.onboarding job known session installation repositories
  | .reserve session installation => .session session ∈ known ∧ session.installation = some installation
  | .finish session installation index =>
    .session session ∈ known ∧ session.installation = some installation ∧ .reserved index ∈ known
  | .write repositories => ∀ repository ∈ repositories, Selected known repository
  | _ => True

def Plain : GitHubCall → Prop
  | .createSession _ | .stage .. | .reserve .. | .finish .. | .write _ => False
  | _ => True

/-- A request calls only what it may, never forgets, and returns in its postcondition. -/
abbrev Keeps {α : Type} (app : GitHubApp) (job : Job) (p : GitHubM α) (known : Set Fact) (post : α → Set Fact → Prop) :
    Prop :=
  Learns lessons (Justified app job) p known post

variable {app : GitHubApp} {job : Job} {known : Set Fact}

/-- A program that asks nothing learns nothing and writes nothing. -/
theorem Keeps.plain {α : Type} {p : GitHubM α} (h : p.Calls Plain) : Keeps app job p known fun _ _ => True :=
  Learns.plain h fun _ op hp => by cases op <;> first | exact hp.elim | trivial

section
-- texts are not to be built while programs are unfolded
attribute [local irreducible] Text.build

private theorem start_keeps (organisationId : Identifier) (subject : String) :
    Keeps app (.start organisationId subject) (app.onboarding.start organisationId subject) known fun _ _ => True := by
  refine Learns.call trivial fun (now : AwareDatetime) _ _ _ => ?_
  refine Learns.call trivial fun (state : String) _ _ _ => ?_
  refine Learns.call trivial fun (verifier : String) _ _ _ => ?_
  refine Learns.call trivial fun (id : Identifier) _ _ _ => ?_
  refine Learns.lifted fun text built => ?_
  refine Learns.call ⟨rfl, subject, rfl, Text.build_ok.mp built⟩ fun (session : GitHubOnboardingSession) _ _ _ => ?_
  exact Learns.pure trivial

private theorem name_built {value : String} {name : RepositoryName} (h : RepositoryName.build value = .ok name) :
    strip value = name.text := by
  rw [RepositoryName.build] at h
  split at h
  · cases h
    rfl
  · cases h

private theorem candidate_ok {repository : VerifiedRepository} {found : GitHubRepositoryCandidate}
    (h : GitHubOnboardingService.candidate repository = .ok found) :
    repository.repositoryId = found.repositoryId ∧ strip repository.fullName = found.fullName.text := by
  simp only [GitHubOnboardingService.candidate, GitHubRepositoryCandidate.build, bind_ok _ _ _, pure_ok] at h
  obtain ⟨_, -, _, -, fullName, built, _, -, rfl⟩ := h
  exact ⟨rfl, name_built built⟩

private theorem discoveredInstallation_ok {organisationId : Identifier} {metadata : VerifiedInstallation}
    {receipt : Option GitHubWebhookReceipt} {repositories : List GitHubRepositoryCandidate} {now : AwareDatetime}
    {installation : GitHubInstallation} (h : GitHubOnboardingService.discoveredInstallation organisationId metadata
      receipt repositories now = .ok installation) :
    installation.organisationId = organisationId ∧ installation.installationId = metadata.installationId := by
  simp only [GitHubOnboardingService.discoveredInstallation, GitHubInstallation.modelValidate, bind_ok _ _ _,
    pure_ok] at h
  obtain ⟨_, -, _, -, _, -, rfl⟩ := h
  exact ⟨rfl, rfl⟩

private theorem authorise_ok {service : GitHubOnboardingService} {session : GitHubOnboardingSession}
    {subject state verifier : String} {now : AwareDatetime} {u : Unit}
    (h : service.authorise session subject state verifier now = .ok u) :
    session.subject.value = subject ∧ service.hashes.sha256 state = session.stateHash ∧
      service.hashes.sha256 verifier = session.verifierHash := by
  simp only [GitHubOnboardingService.authorise, GitHubOnboardingService.owner, unit_bind_ok, raiseIf_ok,
    not_not] at h
  exact ⟨h.1.1, h.2⟩

private theorem verified_keeps (code verifier : String) (hint : Option Int) :
    Keeps app job (GitHubOnboardingService.verified code verifier hint) known fun answer after =>
      .verified code verifier hint answer.1 answer.2 ∈ after := by
  refine Learns.handled (Learns.lastCall trivial ?_) fun e after _ => ?_
  · rintro ⟨metadata, listed⟩ after learnt
    exact learnt ▸ Set.mem_insert ..
  · cases e with
    | connector code message retryable =>
      refine Learns.choice (fun _ => Learns.raised) fun _ => ?_
      exact Learns.choice (fun _ => Learns.raised) fun _ => Learns.raised
    | _ => exact Learns.raised

private theorem discover_keeps (organisationId sessionId : Identifier) (subject state verifier code : String)
    (hint : Option Int) :
    Keeps app (.discover organisationId sessionId subject state verifier code hint)
      (app.onboarding.discover organisationId sessionId subject state verifier code hint) known fun _ _ => True := by
  refine Learns.call trivial fun (session : GitHubOnboardingSession) after _ learnt => ?_
  obtain ⟨rfl, rfl, rfl⟩ := learnt
  refine Learns.call trivial fun (now : AwareDatetime) later grown _ => ?_
  refine Learns.lifted fun _ authorised => ?_
  obtain ⟨rfl, hstate, hverifier⟩ := authorise_ok authorised
  cases status : session.status with
  | complete =>
    refine Learns.lifted fun installationId _ => ?_
    refine Learns.call trivial fun (installation : GitHubInstallation) _ _ _ => ?_
    refine Learns.call trivial fun (stored : List GitHubRepository) _ _ _ => ?_
    exact Learns.lifted fun repositories _ => Learns.pure trivial
  | discovered => exact Learns.lifted fun installation _ => Learns.pure trivial
  | pending =>
    refine (verified_keeps code verifier hint).bind fun (metadata, listed) last further answered => ?_
    refine Learns.lifted fun _ _ => ?_
    refine Learns.call trivial fun (receipt : Option GitHubWebhookReceipt) _ grown₁ _ => ?_
    refine Learns.call trivial fun (moment : AwareDatetime) _ grown₂ _ => ?_
    refine Learns.lifted fun repositories listing => Learns.lifted fun _ _ => Learns.lifted fun installation built => ?_
    obtain ⟨organisation, installationId⟩ := discoveredInstallation_ok built
    refine Learns.call ⟨?_, organisation, state, verifier, code, hint, metadata, listed, rfl, hstate, hverifier, ?_,
      installationId.symm, fun repository hr => ?_⟩ fun (staged : GitHubOnboardingSession) _ _ _ => Learns.pure trivial
    · exact grown₂ (grown₁ (further (grown (Set.mem_insert ..))))
    · exact grown₂ (grown₁ answered)
    · obtain ⟨item, hi, found⟩ := collect_result listing hr
      exact ⟨item, hi, candidate_ok found⟩

private theorem batches_keep {call : List GitHubRepository → GitHubM Unit} {batches : List (List GitHubRepository)}
    (h : ∀ batch ∈ batches, ∀ after, known ⊆ after → Keeps app job (call batch) after fun _ _ => True) :
    Keeps app job (GitHub.batches call batches) known fun _ _ => True := by
  induction batches generalizing known with
  | nil => exact Learns.pure trivial
  | cons batch rest ih =>
    refine (h batch List.mem_cons_self known subset_rfl).bind fun _ after grown _ => ih fun other ho later further => ?_
    exact h other (List.mem_cons_of_mem _ ho) later (grown.trans further)

private theorem Selected.mono {after : Set Fact} {repository : GitHubRepository} (h : Selected known repository)
    (grown : known ⊆ after) : Selected after repository := by
  obtain ⟨session, installation, read, rest⟩ := h
  exact ⟨session, installation, grown read, rest⟩

private theorem completeOnboarding_keeps {session : GitHubOnboardingSession} {installation : GitHubInstallation}
    {repositories : List GitHubRepository} (read : .session session ∈ known)
    (stated : session.installation = some installation) (selected : ∀ repository ∈ repositories, Selected known repository) :
    Keeps app job (completeOnboarding session installation repositories) known fun _ _ => True := by
  refine Learns.call ⟨read, stated⟩ fun (index : GitHubInstallationIndex) after grown learnt => ?_
  refine Learns.call trivial fun (existing : List GitHubRepository) known₁ grown₁ _ => ?_
  have reserved : .reserved index ∈ known₁ := grown₁ (learnt ▸ Set.mem_insert ..)
  have written : ∀ batch ∈ slices 400 repositories, ∀ after, known₁ ⊆ after →
      Keeps app job (gitHubCall (.write batch)) after fun _ _ => True := by
    refine fun batch hb after later => Learns.lastCall (fun repository hr => ?_) fun _ _ _ => trivial
    exact (selected repository (mem_of_slices hb hr)).mono ((grown.trans grown₁).trans later)
  refine (batches_keep written).bind fun _ known₂ grown₂ _ => ?_
  refine (batches_keep fun batch _ after _ => Learns.lastCall trivial fun _ _ _ => trivial).bind fun _ known₃ grown₃ _ => ?_
  refine Learns.lastCall ⟨?_, stated, grown₃ (grown₂ reserved)⟩ fun _ _ _ => trivial
  exact grown₃ (grown₂ (grown₁ (grown read)))

private theorem repository_ok {candidate : GitHubRepositoryCandidate} {installationId : Int} {organisationId : Identifier}
    {now : AwareDatetime} {repository : GitHubRepository}
    (h : GitHubRepository.build candidate installationId organisationId now = .ok repository) :
    repository.organisationId = organisationId ∧ repository.installationId = installationId ∧
      candidate.repositoryId = repository.repositoryId ∧ candidate.fullName = repository.fullName := by
  simp only [GitHubRepository.build, unit_bind_ok, pure_ok] at h
  obtain ⟨-, -, rfl⟩ := h
  exact ⟨rfl, rfl, rfl, rfl⟩

private theorem complete_keeps (organisationId sessionId : Identifier) (subject : String) :
    Keeps app (.complete organisationId sessionId subject)
      (GitHubOnboardingService.complete organisationId sessionId subject) known fun _ _ => True := by
  refine Learns.call trivial fun (session : GitHubOnboardingSession) after _ learnt => ?_
  obtain ⟨rfl, rfl, rfl⟩ := learnt
  refine Learns.call trivial fun (now : AwareDatetime) later grown _ => Learns.lifted fun _ _ => ?_
  cases status : session.status with
  | complete =>
    refine Learns.lifted fun installationId _ => ?_
    refine Learns.call trivial fun (installation : GitHubInstallation) _ _ _ => ?_
    exact Learns.call trivial fun (stored : List GitHubRepository) _ _ _ => Learns.pure trivial
  | pending => exact Learns.raised
  | discovered =>
    refine Learns.lifted fun installation stated => Learns.call trivial fun (moment : AwareDatetime) last further _ => ?_
    have stated : session.installation = some installation := (required_ok ..).mp stated
    have read : .session session ∈ last := further (grown (Set.mem_insert ..))
    refine Learns.lifted fun repositories built => ?_
    refine (completeOnboarding_keeps read stated fun repository hr => ?_).bind fun _ _ _ _ => Learns.pure trivial
    obtain ⟨item, hi, made⟩ := collect_result built hr
    obtain ⟨organisation, installationId, id, name⟩ := repository_ok made
    exact ⟨session, installation, read, stated, organisation, installationId, item, hi, id, name⟩

/-- An alert that was signed with the secret, about a repository that the index of its installation led to, becomes an
event of that index's organisation, with the one connection that is ready for it. -/
structure Admitted (webhook : GitHubWebhook) (delivery : Delivery) (known : Set Fact) (event : IngestionEvent)
    (installationId repositoryId : Int) (index : GitHubInstallationIndex) (repository : GitHubRepository) : Prop where
  signed : ∃ secret, .secret secret ∈ known ∧ webhook.verify delivery.body delivery.signature secret = .ok ()
  about : ∃ payload action, webhook.payloadOf delivery.body = .ok payload ∧
    GitHubWebhook.installationOf payload = .ok (.int installationId, action) ∧
    GitHubWebhook.repositoryOf payload = .ok (.int repositoryId, repository.fullName.text)
  indexed : .index installationId index ∈ known
  active : index.active = true
  organisationId : index.organisationId = event.organisationId
  found : .repository event.organisationId repositoryId repository ∈ known
  mapped : repository.installationId = installationId
  connected : ∃ connections connection, .connections event.organisationId connections ∈ known ∧
    GitHubWebhook.readyConnection connections installationId repository.fullName.text = .ok connection ∧
    event.resource.connectionId = some connection.id
  resource : event.resource.repository.map (·.value) = some (strip repository.fullName.text)

private theorem route_keeps (installationId repositoryId : IntValue) :
    Keeps app job (route installationId repositoryId) known fun routed after =>
      ∀ organisationId repository, routed = some (organisationId, repository) →
        ∃ (installation id : Int) (index : GitHubInstallationIndex), installationId = .int installation ∧
          repositoryId = .int id ∧ .index installation index ∈ after ∧ index.active = true ∧
          index.organisationId = organisationId ∧ .repository organisationId id repository ∈ after ∧
          repository.installationId = installation := by
  cases installationId with
  | bool b => exact Learns.raised
  | int installation =>
    refine Learns.call trivial fun (index : GitHubInstallationIndex) after _ read => ?_
    refine Learns.choice (fun active => Learns.lifted fun _ _ => ?_) fun _ => Learns.pure (by simp)
    cases repositoryId with
    | bool b => exact Learns.raised
    | int id =>
      refine Learns.call trivial fun (repository : GitHubRepository) last grown found => ?_
      refine Learns.lifted fun _ mapped => Learns.pure ?_
      rintro _ _ ⟨⟩
      refine ⟨installation, id, index, rfl, rfl, grown (read ▸ Set.mem_insert ..), active, rfl, found ▸ Set.mem_insert .., ?_⟩
      simpa using mapped

private theorem normalise_ok {webhook : GitHubWebhook} {organisationId : Identifier} {eventType : String}
    {payload : List (String × Json)} {receivedAt : AwareDatetime} {connectionId : Option Identifier}
    {event : IngestionEvent} {repositoryId : IntValue} {name : String}
    (named : GitHubWebhook.repositoryOf payload = .ok (repositoryId, name))
    (h : webhook.normalise organisationId eventType payload receivedAt connectionId = .ok event) :
    event.organisationId = organisationId ∧ event.resource.connectionId = connectionId ∧
      event.resource.repository.map (·.value) = some (strip name) := by
  simp only [GitHubWebhook.repositoryOf, required_bind_ok, pure_ok, Prod.mk.injEq] at named
  obtain ⟨repository, hrepository, _, -, written, hname, -, rfl⟩ := named
  simp only [GitHubWebhook.normalise, bind_ok _ _ _, pure_ok] at h
  obtain ⟨_, -, _, -, alert, -, object, hobject, text, htext, _, -, _, -, _, -, _, -, id, -, _, -, _, -, _, -,
    stripped, built, _, -, rfl⟩ := h
  obtain rfl : repository = object := Option.some.inj (hrepository.symm.trans ((required_ok ..).mp hobject))
  obtain rfl := Option.some.inj (hname.symm.trans ((required_ok ..).mp htext))
  exact ⟨rfl, rfl, congrArg some (Text.build_ok.mp built)⟩

attribute [local irreducible] GitHubWebhook.verify GitHubWebhook.payloadOf GitHubWebhook.installationOf
  GitHubWebhook.repositoryOf GitHubWebhook.normalise

private def Known (webhook : GitHubWebhook) (delivery : Delivery) (answer : Option IngestionEvent) (known : Set Fact) :
    Prop :=
  ∀ event, answer = some event → ∃ installationId repositoryId index repository,
    Admitted webhook delivery known event installationId repositoryId index repository

private theorem known_none {webhook : GitHubWebhook} {delivery : Delivery} : Known webhook delivery none known :=
  fun _ found => by cases found

private theorem alertEvent_keeps {delivery : Delivery} {payload : List (String × Json)} {installationId : IntValue}
    {action : String} {secret : List UInt8} (signing : .secret secret ∈ known)
    (signed : app.webhook.verify delivery.body delivery.signature secret = .ok ())
    (decoded : app.webhook.payloadOf delivery.body = .ok payload)
    (named : GitHubWebhook.installationOf payload = .ok (installationId, action)) :
    Keeps app job (app.webhook.alertEvent delivery payload installationId action) known
      (Known app.webhook delivery) := by
  refine Learns.choice (fun _ => Learns.pure known_none) fun _ => ?_
  refine Learns.lifted fun (repositoryId, name) about => ?_
  refine (route_keeps installationId repositoryId).bind fun routed after grown led => ?_
  match routed with
  | none => exact Learns.pure known_none
  | some (organisationId, repository) =>
    obtain ⟨installation, id, index, rfl, rfl, indexed, active, rfl, found, mapped⟩ := led organisationId repository rfl
    refine Learns.lifted fun _ same => ?_
    obtain rfl : repository.fullName.text = name := by simpa using same
    refine Learns.call trivial fun (connections : List Connection) after₁ grown₁ listed => ?_
    refine Learns.lifted fun connection connected => Learns.call trivial fun (now : AwareDatetime) after₂ grown₂ _ => ?_
    refine Learns.lifted fun event normalised => Learns.pure ?_
    rintro _ ⟨⟩
    obtain ⟨organisation, connectionId, resource⟩ := normalise_ok about normalised
    refine ⟨installation, id, index, repository, ?_⟩
    rw [← organisation] at found
    exact {
      signed := ⟨secret, grown₂ (grown₁ (grown signing)), signed⟩
      about := ⟨payload, action, decoded, named, about⟩
      indexed := grown₂ (grown₁ indexed)
      active, mapped, resource
      organisationId := organisation.symm
      found := grown₂ (grown₁ found)
      connected := ⟨connections, connection, grown₂ (organisation ▸ listed ▸ Set.mem_insert ..), connected, connectionId⟩ }

private theorem reconcileConnection_calls (installation : GitHubInstallation) :
    (GitHubWebhook.reconcileConnection installation).Calls Plain := by
  refine (calls_perform trivial).bind fun (connections : List Connection) => ?_
  split
  · exact calls_pure ..
  · exact Calls.choice (calls_pure ..) (calls_perform trivial)
  · exact calls_lift ..

private theorem installationEvent_keeps (delivery : Delivery) (installationId : IntValue) (action : String) :
    Keeps app job (GitHubWebhook.installationEvent delivery installationId action) known fun _ _ => True := by
  refine Keeps.plain (Calls.choice ?_ (Calls.choice ?_ (calls_pure ..)))
  · refine (calls_perform trivial).bind fun (now : AwareDatetime) => ?_
    refine (calls_lift ..).bind fun receipt => ?_
    refine (calls_perform trivial).bind fun (changed : Option GitHubInstallation) => ?_
    cases changed with
    | none => exact calls_pure ..
    | some installation => exact reconcileConnection_calls installation
  · refine (calls_perform trivial).bind fun (now : AwareDatetime) => ?_
    cases installationId with
    | int id => exact calls_perform trivial
    | bool b => exact calls_pure ..

private theorem repositoriesEvent_keeps (installationId : IntValue) (action : String) :
    Keeps app job (GitHubWebhook.repositoriesEvent installationId action) known fun _ _ => True := by
  refine Keeps.plain ((calls_lift ..).bind fun _ => (calls_perform trivial).bind fun (now : AwareDatetime) => ?_)
  cases installationId with
  | int id => exact calls_perform trivial
  | bool b => exact calls_pure ..

private theorem github_keeps (delivery : Delivery) :
    Keeps app job (app.webhook.github delivery) known (Known app.webhook delivery) := by
  refine Learns.lifted fun _ _ => Learns.call trivial fun (secret : List UInt8) after _ learnt => ?_
  refine Learns.lifted fun _ signed => Learns.lifted fun payload decoded => ?_
  refine Learns.choice (fun _ => Learns.pure known_none) fun _ => Learns.lifted fun (installationId, action) named => ?_
  refine Learns.choice (fun _ => ?_) fun _ => Learns.choice (fun _ => ?_) fun _ => Learns.lifted fun _ _ => ?_
  · exact (installationEvent_keeps delivery installationId action).bind fun _ _ _ _ => Learns.pure known_none
  · exact (repositoriesEvent_keeps installationId action).bind fun _ _ _ _ => Learns.pure known_none
  · exact alertEvent_keeps (learnt ▸ Set.mem_insert ..) signed decoded named

end

def Job.Ends (app : GitHubApp) (job : Job) (result : JobResult) (known : Set Fact) : Prop :=
  ∀ delivery event, job = .webhook delivery → result = .delivered (some event) →
    ∃ installationId repositoryId index repository,
      Admitted app.webhook delivery known event installationId repositoryId index repository

/-- Every request writes only what it may. -/
theorem program_keeps (job : Job) : Keeps app job (job.program app) known (job.Ends app) := by
  cases job with
  | start organisationId subject =>
    exact (start_keeps organisationId subject).bind fun _ _ _ _ => Learns.pure fun _ _ hj => by cases hj
  | discover organisationId sessionId subject state verifier code hint =>
    exact (discover_keeps organisationId sessionId subject state verifier code hint).bind fun _ _ _ _ =>
      Learns.pure fun _ _ hj => by cases hj
  | complete organisationId sessionId subject =>
    exact (complete_keeps organisationId sessionId subject).bind fun _ _ _ _ => Learns.pure fun _ _ hj => by cases hj
  | webhook delivery =>
    refine (github_keeps delivery).bind fun answer after _ admitted => Learns.pure ?_
    rintro _ event ⟨⟩ hr
    exact admitted event (JobResult.delivered.inj hr)

end Uumi.GitHub
