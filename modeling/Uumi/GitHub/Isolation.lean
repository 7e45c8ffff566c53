import Uumi.Coordinator.Rollout
import Uumi.Foundations.Answering
import Uumi.GitHub.Tenancy

/-! Alerts become events of the organisation that their installation belongs to, and of nobody once it is deleted. -/
namespace Uumi.GitHub
open Uumi.Contracts Uumi.Core Uumi.Foundations
open Uumi.Foundations.Program

/-- A delivery is about an installation. -/
def Names (webhook : GitHubWebhook) (delivery : Delivery) (installationId : Int) : Prop :=
  ∃ payload action, webhook.payloadOf delivery.body = .ok payload ∧
    GitHubWebhook.installationOf payload = .ok (.int installationId, action)

/-- A delivery is about one installation. -/
theorem Names.unique {webhook : GitHubWebhook} {delivery : Delivery} {installationId other : Int}
    (h : Names webhook delivery installationId) (h' : Names webhook delivery other) : installationId = other := by
  obtain ⟨payload, action, decoded, named⟩ := h
  obtain ⟨payload', action', decoded', named'⟩ := h'
  cases decoded.symm.trans decoded'
  cases named.symm.trans named'
  rfl

section
variable {ι : Type} [DecidableEq ι]

/-- A signed alert about a repository that GitHub listed to the organisation of its event, which names the one
connection of the organisation that is ready for it. -/
structure Routed (app : GitHubApp) (jobs : ι → Job) (events : List (GitHubEvent ι)) (who : ι) (delivery : Delivery)
    (installationId : Int) (event : IngestionEvent) : Prop where
  named : Names app.webhook delivery installationId
  signed : ∃ secret, (⟨who, .secret, .ok secret⟩ : GitHubEvent ι) ∈ events ∧
    app.webhook.verify delivery.body delivery.signature secret = .ok ()
  granted : ∃ payload repositoryId name, app.webhook.payloadOf delivery.body = .ok payload ∧
    GitHubWebhook.repositoryOf payload = .ok (.int repositoryId, name.text) ∧
    Granted app jobs events event.organisationId installationId repositoryId name ∧
    event.resource.repository.map (·.value) = some (strip name.text)
  connected : ∃ (connections : List Connection) (connection : Connection),
    (⟨who, .connections event.organisationId, .ok connections⟩ : GitHubEvent ι) ∈ events ∧ connection ∈ connections ∧
    GitHubWebhook.isIncidentConnection connection installationId = true ∧ connection.status = .ready ∧
    event.resource.connectionId = some connection.id

variable {app : GitHubApp} {jobs : ι → Job} {events after : List (GitHubEvent ι)} {pool middle : GitHubPool ι}

private theorem readyConnection_ok {connections : List Connection} {installationId : Int} {name : String}
    {connection : Connection} (h : GitHubWebhook.readyConnection connections installationId name = .ok connection) :
    connection ∈ connections ∧ GitHubWebhook.isIncidentConnection connection installationId = true ∧
      connection.status = .ready := by
  rw [GitHubWebhook.readyConnection] at h
  split at h
  · rename_i only
    cases h
    have mem : connection ∈ connections.filter fun connection =>
        GitHubWebhook.isIncidentConnection connection installationId && connection.status == .ready &&
          connection.allowedResources.contains name := only ▸ List.mem_singleton_self _
    obtain ⟨hc, hf⟩ := List.mem_filter.mp mem
    simp only [Bool.and_eq_true, beq_iff_eq] at hf
    exact ⟨hc, hf.1.1, hf.1.2⟩
  · cases h

omit [DecidableEq ι] in
private theorem Admitted.routed {who : ι} {known : Set Fact} {s : GitHubStore} {delivery : Delivery}
    {event : IngestionEvent} {installationId repositoryId : Int} {index : GitHubInstallationIndex}
    {repository : GitHubRepository}
    (h : Admitted app.webhook delivery known event installationId repositoryId index repository)
    (facts : ∀ fact ∈ known, fact.Holds app jobs who events s) :
    Routed app jobs events who delivery installationId event ∧ Owns s installationId event.organisationId := by
  obtain ⟨secret, held, signed⟩ := h.signed
  obtain ⟨payload, action, decoded, named, about⟩ := h.about
  obtain ⟨connections, connection, listed, ready, connectionId⟩ := h.connected
  obtain ⟨organisation, id, connected⟩ := facts _ h.found
  obtain ⟨hc, incident, status⟩ := readyConnection_ok ready
  have granted := connected.granted
  rw [organisation, id, h.mapped] at granted
  have owned : Owns s installationId index.organisationId := facts _ h.indexed
  rw [h.organisationId] at owned
  exact ⟨⟨⟨payload, action, decoded, named⟩, ⟨secret, facts _ held, signed⟩,
    ⟨payload, repositoryId, repository.fullName, decoded, about, granted, h.resource⟩,
    connections, connection, facts _ listed, hc, incident, status, connectionId⟩, owned⟩

/-- Every alert that became an event is one that GitHub listed the repository of to that organisation, and alerts of one
installation become events of one organisation. -/
theorem alerts_isolated (run : Runs [] (beginning app jobs) events pool) {who : ι} {delivery : Delivery}
    {event : IngestionEvent} (job : jobs who = .webhook delivery)
    (ended : pool.programs who = .finish (.ok (.delivered (some event)))) :
    ∃ installationId, Routed app jobs events who delivery installationId event ∧
      ∀ other delivery' event', jobs other = .webhook delivery' →
        pool.programs other = .finish (.ok (.delivered (some event'))) →
        Names app.webhook delivery' installationId → event'.organisationId = event.organisationId := by
  obtain ⟨known, informed⟩ := runs_informed beginning_informed run
  have admitted {i : ι} {sent : Delivery} {made : IngestionEvent} (job : jobs i = .webhook sent)
      (ended : pool.programs i = .finish (.ok (.delivered (some made)))) : ∃ installationId,
      Routed app jobs events i sent installationId made ∧ Owns pool.state installationId made.organisationId := by
    have ends := informed.follows i
    rw [ended] at ends
    obtain ⟨installationId, repositoryId, index, repository, admitted⟩ := ends _ rfl sent made job rfl
    exact ⟨installationId, admitted.routed (informed.facts i)⟩
  obtain ⟨installationId, routed, owned⟩ := admitted job ended
  refine ⟨installationId, routed, fun other delivery' event' job' ended' named => ?_⟩
  obtain ⟨installationId', routed', owned'⟩ := admitted job' ended'
  obtain rfl := named.unique routed'.named
  exact owned'.unique owned

omit [DecidableEq ι] in
private theorem index_learnt {known later : Set Fact} {op : GitHubCall} {answer : Except Error op.Answer}
    {installationId : Int} {read : GitHubInstallationIndex} {s t : GitHubStore} (learnt : learning known op answer later)
    (answered : answers s op answer t) (mem : .index installationId read ∈ later) :
    .index installationId read ∈ known ∨ s.indexes installationId = some read := by
  cases answer with
  | error e =>
    have same : later = known := by cases op <;> exact learnt
    exact .inl (same ▸ mem)
  | ok value =>
    cases op with
    | index id =>
      have grown : later = insert (.index id value) known := learnt
      rw [grown] at mem
      rcases mem with same | mem
      · obtain ⟨rfl, rfl⟩ := Fact.index.inj same
        exact .inr (getIndex_ok (answered.2 read rfl))
      · exact .inl mem
    | session organisationId sessionId =>
      rw [learnt.1] at mem
      exact .inl (mem.resolve_left fun same => by cases same)
    | secret | verify | reserve | repository | connections =>
      have grown : later = insert _ known := learnt
      rw [grown] at mem
      exact .inl (mem.resolve_left fun same => by cases same)
    | _ =>
      have same : later = known := learnt
      exact .inl (same ▸ mem)

/-- A fact that is so, and that for a request that had not begun tells nothing of the installation as active. -/
def Fact.HoldsSince (app : GitHubApp) (jobs : ι → Job) (middle : GitHubPool ι) (installationId : Int) (who : ι)
    (events : List (GitHubEvent ι)) (s : GitHubStore) (fact : Fact) : Prop :=
  fact.Holds app jobs who events s ∧ (middle.programs who = (jobs who).program app →
    ∀ read, fact = .index installationId read → read.active = false)

/-- The requests follow what they have learnt, while what was stored only grows. -/
abbrev InformedSince (app : GitHubApp) (jobs : ι → Job) (middle : GitHubPool ι) (installationId : Int)
    (events : List (GitHubEvent ι)) (pool : GitHubPool ι) (known : ι → Set Fact) : Prop :=
  Pool.Informed lessons (fun who => Justified app (jobs who)) (fun who => (jobs who).Ends app)
    (fun events s => Consistent app jobs events s ∧ Extends middle.state s)
    (Fact.HoldsSince app jobs middle installationId) events pool known

omit [DecidableEq ι] in
private theorem informed_since {known : ι → Set Fact} (installationId : Int)
    (informed : Informed app jobs events middle known) :
    ∃ known', InformedSince app jobs middle installationId events middle known' := by
  classical
  refine ⟨fun who => if middle.programs who = (jobs who).program app then ∅ else known who, ?_⟩
  exact {
    consistent := ⟨informed.consistent, .refl _⟩
    facts := fun who fact hf => by
      split at hf
      · exact hf.elim
      · rename_i other
        exact ⟨informed.facts who fact hf, fun fresh => absurd fresh other⟩
    follows := fun who => by
      by_cases fresh : middle.programs who = (jobs who).program app
      · rw [if_pos fresh, fresh]
        exact (program_keeps (jobs who)).mono fun _ _ keeps => keeps.2
      · rw [if_neg fresh]
        exact informed.follows who }

private theorem runs_informed_since {installationId : Int} {index : GitHubInstallationIndex} {known : ι → Set Fact}
    (found : middle.state.indexes installationId = some index) (deleted : index.deleted = true)
    (informed : InformedSince app jobs middle installationId events middle known) (late : Runs events middle after pool) :
    ∃ known', InformedSince app jobs middle installationId after pool known' := by
  refine late.informed informed ?_
  rintro who events s op answer t known ⟨consistent, later⟩ facts justified answered
  obtain ⟨⟨ht, further⟩, learnt, taught, holds⟩ :=
    answers_keep consistent (fun fact hf => (facts fact hf).1) justified answered
  refine ⟨⟨ht, later.trans further⟩, fun i fact hf => ?_, learnt, taught, fun fact hf => ⟨holds fact hf, ?_⟩⟩
  · exact ⟨hf.1.extend (List.subset_append_left ..) further, hf.2⟩
  · rintro fresh read rfl
    rcases index_learnt taught answered hf with old | now
    · exact (facts _ old).2 fresh read rfl
    · obtain ⟨last, hl, -, gone⟩ := later installationId index found
      cases hl.symm.trans now
      exact (consistent.deleted installationId _ now (gone deleted)).1

/-- A deleted installation stays deleted, with its organisation, and is neither active nor ready again, whichever
onboardings and deliveries are under way. No alert that is delivered from then on becomes an event. -/
theorem deletion_lasts (early : Runs [] (beginning app jobs) events middle) {installationId : Int}
    {index : GitHubInstallationIndex} (found : middle.state.indexes installationId = some index)
    (deleted : index.deleted = true) (late : Runs events middle after pool) :
    (∃ last, pool.state.indexes installationId = some last ∧ last.organisationId = index.organisationId ∧
      last.deleted = true ∧ Shut pool.state installationId last) ∧
    ∀ who delivery event, jobs who = .webhook delivery → Names app.webhook delivery installationId →
      middle.programs who = (jobs who).program app →
      pool.programs who ≠ .finish (.ok (.delivered (some event))) := by
  obtain ⟨known, informed⟩ := runs_informed beginning_informed early
  obtain ⟨_, begun⟩ := informed_since installationId informed
  obtain ⟨known', ⟨⟨consistent, later⟩, facts, follows⟩⟩ := runs_informed_since found deleted begun late
  obtain ⟨last, hl, organisation, gone⟩ := later installationId index found
  refine ⟨⟨last, hl, organisation, gone deleted, consistent.deleted _ last hl (gone deleted)⟩, ?_⟩
  intro who delivery event job named fresh ended
  have ends := follows who
  rw [ended] at ends
  obtain ⟨id, repositoryId, read, repository, admitted⟩ := ends _ rfl delivery event job rfl
  obtain ⟨payload, action, decoded, about, -⟩ := admitted.about
  obtain rfl := named.unique ⟨payload, action, decoded, about⟩
  have inactive := (facts who _ admitted.indexed).2 fresh read rfl
  rw [admitted.active] at inactive
  cases inactive

end

def sampleInstallation : Json := .obj [("id", .int 1)]

def sampleBodies : List UInt8 → Option Json
  | [0] => some (.obj [("action", .str "created"), ("installation", sampleInstallation)])
  | [1] => some (.obj [("action", .str "deleted"), ("installation", sampleInstallation)])
  | _ => some (.obj [("action", .str "created"), ("installation", sampleInstallation),
      ("repository", .obj [("id", .int 7), ("full_name", .str "acme/app")]),
      ("alert", .obj [("number", .int 1), ("html_url", .str "https://github.com"), ("created_at", .str "now")])])

def sampleApp : GitHubApp where
  onboarding := {
    hashes := Coordinator.Hashes.sample
    challenge := id
    urlencode := fun _ => ""
    appSlug := "uumi"
    clientId := "client"
    redirectUri := "https://uumi.dev" }
  webhook := {
    hashes := Coordinator.Hashes.sample
    hmac := fun _ _ => "digest"
    loads := sampleBodies
    fromisoformat := fun _ => none
    maxBodyBytes := 1024 }

def sampleDelivery (body : UInt8) (eventType : String) : Delivery := ⟨[body], "sha256=digest", "delivery", eventType⟩

def sampleJobs : Nat → Job
  | 0 => .webhook (sampleDelivery 0 "installation")
  | 1 => .start organisationOne "alice"
  | 2 => .discover organisationOne runOne "alice" "token" "token" "code" none
  | 3 => .complete organisationOne runOne "alice"
  | 4 => .webhook (sampleDelivery 1 "installation")
  | _ => .webhook (sampleDelivery 2 "secret_scanning_alert")

def sampleVerified : VerifiedInstallation × List VerifiedRepository :=
  (⟨1, 2, "acme", "Organization", .all, [("secret_scanning_alerts", "read")], ["secret_scanning_alert"]⟩,
    [⟨7, "acme/app", true, "main", "enabled"⟩])

def sampleAlerts : Connection where
  id := connectionOne
  organisationId := organisationOne
  platform := ⟨"github", by decide⟩
  roles := {.incident}
  interface := .api
  authorization := .oauth
  authorizationReference := some "oauth://github/installation/1"
  capabilities := {"incident.receive"}
  allowedResources := ["acme/app"]
  status := .ready
  accepted := by decide

def sampleServe (s : GitHubStore) : (op : GitHubCall) → Except Error op.Answer × GitHubStore
  | .clock => (.ok ⟨5, 0⟩, s)
  | .secret => (.ok [], s)
  | .token _ => (.ok "token", s)
  | .newId => (.ok runOne, s)
  | .verify .. => (.ok sampleVerified, s)
  | .createSession session => committed (s.createSession session) s
  | .session organisationId sessionId => (s.getSession organisationId sessionId, s)
  | .receipt installationId => (.ok (s.receipts installationId), s)
  | .stage session installation repositories => committed (s.stage session installation repositories) s
  | .reserve session installation => committed (s.reserve session installation) s
  | .finish session installation index => committed (s.finish session installation index) s
  | .installation organisationId installationId => (s.getInstallation organisationId installationId, s)
  | .repositories .. => (.ok [], s)
  | .write repositories => (.ok (), s.write repositories)
  | .remove repositories => (.ok (), s.remove repositories)
  | .recordReceipt receipt => committed (s.recordReceipt receipt) s
  | .deactivate installationId occurredAt deleted => committed (s.deactivate installationId occurredAt deleted) s
  | .invalidate installationId occurredAt => committed (s.invalidateRepositories installationId occurredAt) s
  | .index installationId => (s.getIndex installationId, s)
  | .repository organisationId repositoryId => (s.getRepository organisationId repositoryId, s)
  | .connections _ => (.ok [sampleAlerts], s)
  | .replaceConnection .. => (.ok (), s)

private theorem sample_served (s : GitHubStore) (op : GitHubCall) :
    answers s op (sampleServe s op).1 (sampleServe s op).2 := by
  cases op with
  | createSession | stage | reserve | finish | recordReceipt | deactivate | invalidate =>
    exact committed_commits ..
  | write | remove => rfl
  | session | installation | index | repository => exact ⟨rfl, fun _ found => found⟩
  | receipt => exact ⟨rfl, fun _ found => Except.ok.inj found⟩
  | _ => rfl

def samplePool (order : List Nat) : GitHubPool Nat := (beginning sampleApp sampleJobs).inTurn sampleServe order

def delivered (pool : GitHubPool Nat) (who : Nat) : Bool :=
  match pool.programs who with
  | .finish (.ok (.delivered (some _))) => true
  | _ => false

private theorem delivered_event {pool : GitHubPool Nat} {who : Nat} (h : delivered pool who = true) :
    ∃ event, pool.programs who = .finish (.ok (.delivered (some event))) := by
  unfold delivered at h
  split at h
  · exact ⟨_, ‹_›⟩
  · cases h

private theorem sample_checked : delivered (samplePool [0, 1, 2, 3, 5]) 5 = true ∧
    ((samplePool [0, 1, 2, 3, 4]).state.indexes 1).map (·.deleted) = some true := by
  refine ⟨?_, ?_⟩ <;> decide +kernel

/-- The alert of a connected installation becomes an event. -/
theorem sampleAlert_isolated : ∃ events installationId event, Routed sampleApp sampleJobs events 5
    (sampleDelivery 2 "secret_scanning_alert") installationId event := by
  obtain ⟨events, run⟩ := Pool.Run.inTurn sample_served [0, 1, 2, 3, 5] (beginning sampleApp sampleJobs) []
  obtain ⟨event, ended⟩ := delivered_event sample_checked.1
  obtain ⟨installationId, routed, -⟩ := alerts_isolated run rfl ended
  exact ⟨events, installationId, event, routed⟩

/-- After the deletion, the same alert becomes none. -/
theorem sampleDeletion_lasts : ∃ last,
    (samplePool [0, 1, 2, 3, 4, 5]).state.indexes 1 = some last ∧ last.deleted = true ∧
      ∀ event, (samplePool [0, 1, 2, 3, 4, 5]).programs 5 ≠ .finish (.ok (.delivered (some event))) := by
  obtain ⟨events, early⟩ := Pool.Run.inTurn sample_served [0, 1, 2, 3, 4] (beginning sampleApp sampleJobs) []
  obtain ⟨after, late⟩ := Pool.Run.inTurn sample_served [5] (samplePool [0, 1, 2, 3, 4]) events
  obtain ⟨index, found, deleted⟩ := Option.map_eq_some_iff.mp sample_checked.2
  obtain ⟨⟨last, stored, -, gone, -⟩, silent⟩ := deletion_lasts early found deleted late
  exact ⟨last, stored, gone, fun event => silent 5 _ event rfl ⟨_, _, rfl, rfl⟩ rfl⟩

end Uumi.GitHub
