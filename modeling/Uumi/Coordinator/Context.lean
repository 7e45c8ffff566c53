import Uumi.Contracts.Approval
import Uumi.Contracts.Playbook
import Uumi.Contracts.Tool
import Uumi.Policy.Payloads
import Uumi.Storage.Inventory

/-! What the coordinator works with: the documents of the catalog, the hashes that name things, and
the peers that it calls during one stage execution. -/
namespace Uumi.Coordinator
open Uumi.Contracts Uumi.Core Uumi.Foundations Uumi.Policy Uumi.Storage

/-- The documents that the coordinator reads and writes. -/
structure Catalog extends InventoryStore where
  plans : Collection (Identifier × Identifier) RotationPlan
  recoveries : Collection (Identifier × Identifier) RecoveryPlan
  /-- Under organisation, recovery and result. -/
  recoveryResults : Collection (Identifier × Identifier × Identifier) RecoveryResult
  /-- Under organisation, playbook and version. -/
  playbooks : Collection (Identifier × Identifier × Identifier) PlaybookVersion
  approvals : Collection (Identifier × Identifier) Approval
  actions : Collection (Identifier × Identifier) ProtectedAction

def hexadecimal (c : Char) : Bool := ('0' ≤ c && c ≤ '9') || ('a' ≤ c && c ≤ 'f')

/-- The first forty hexadecimal digits of a hash. -/
structure Checksum where
  text : String
  digits : text.length = 40 ∧ text.toList.all hexadecimal = true
  deriving DecidableEq

/-- The pure functions on texts from outside: hashes, the lower case of a text, and whether a text consists
of letters and digits. -/
structure Hashes extends Hashing where
  checksum : String → Checksum
  lower : String → String
  isalnum : String → Bool

/-- What a derived identifier names. -/
inductive IdKind where
  | report | verify | action | tool | task | recoveryStep | recoveryTool | recoveryResult
  deriving DecidableEq

def IdKind.text : IdKind → String
  | .report => "report"
  | .verify => "verify"
  | .action => "action"
  | .tool => "tool"
  | .task => "task"
  | .recoveryStep => "recovery-step"
  | .recoveryTool => "recovery-tool"
  | .recoveryResult => "recovery-result"

/-- A hexadecimal digit may follow in an identifier. -/
theorem hexadecimal_follows {c : Char} (h : hexadecimal c = true) :
    (identifierAccepts.lower c || ('0' ≤ c && c ≤ '9') || c == '_' || c == '-') = true := by
  simp only [hexadecimal, Bool.or_eq_true, Bool.and_eq_true, decide_eq_true_eq] at h
  rcases h with h | h
  · simp [h]
  · have : c ≤ 'z' := le_trans h.2 (by decide)
    simp [identifierAccepts.lower, h.1, this]

private theorem identify_accepts (kind : IdKind) (checksum : Checksum) :
    identifierAccepts (kind.text ++ "_" ++ checksum.text) = true := by
  obtain ⟨text, hlength, hdigits⟩ := checksum
  have hall : text.toList.all (fun d => identifierAccepts.lower d || ('0' ≤ d && d ≤ '9') || d == '_' || d == '-') =
      true := by
    simp only [List.all_eq_true] at hdigits ⊢
    exact fun c hc => hexadecimal_follows (hdigits c hc)
  cases kind <;>
    simp [identifierAccepts, IdKind.text, String.toList_append, String.length_append, hlength, hall] <;> decide

def joined (values : List String) : String := "\x00".intercalate values

private theorem split_at_null {a a' rest rest' : List Char} (h : '\x00' ∉ a) (h' : '\x00' ∉ a')
    (heq : a ++ '\x00' :: rest = a' ++ '\x00' :: rest') : a = a' := by
  induction a generalizing a' with
  | nil =>
    cases a' with
    | nil => rfl
    | cons c _ =>
      rw [List.nil_append, List.cons_append, List.cons.injEq] at heq
      exact absurd (heq.1 ▸ List.mem_cons_self) h'
  | cons c a ih =>
    cases a' with
    | nil =>
      rw [List.nil_append, List.cons_append, List.cons.injEq] at heq
      exact absurd (heq.1 ▸ List.mem_cons_self) h
    | cons d a' =>
      rw [List.cons_append, List.cons_append, List.cons.injEq] at heq
      rw [heq.1, ih (fun hm => h (List.mem_cons_of_mem _ hm)) (fun hm => h' (List.mem_cons_of_mem _ hm)) heq.2]

private theorem identifier_no_null (i : Identifier) : '\x00' ∉ i.text.toList := by
  intro hmem
  have haccepted := i.accepted
  unfold identifierAccepts at haccepted
  split at haccepted
  · cases haccepted
  · rename_i c cs heq
    simp only [Bool.and_eq_true, List.all_eq_true] at haccepted
    obtain ⟨⟨⟨hc, hcs⟩, -⟩, -⟩ := haccepted
    rw [heq] at hmem
    rcases List.mem_cons.mp hmem with rfl | hmem
    · exact absurd hc (by decide)
    · exact absurd (hcs _ hmem) (by decide)

/-- Joined texts with one first part that is followed by identifiers have the same identifier there. -/
theorem joined_second {first c d c' d' : String} {b b' : Identifier}
    (h : joined [first, b.text, c, d] = joined [first, b'.text, c', d']) : b = b' := by
  have ht := congrArg String.toList h
  simp only [joined, String.intercalate_cons_cons, String.intercalate_singleton, String.toList_append,
    List.append_assoc, List.append_cancel_left_eq] at ht
  exact Identifier.text_injective (String.toList_injective
    (split_at_null (identifier_no_null b) (identifier_no_null b') ht))

/-- `_id`: a prefix, and the checksum of the values joined by null characters. -/
def identify (hashes : Hashes) (kind : IdKind) (values : List String) : Identifier where
  text := kind.text ++ "_" ++ (hashes.checksum (joined values)).text
  accepted := identify_accepts kind _

/-- Two texts have one checksum only if they are one text. -/
def NoCollision (hashes : Hashes) (a b : String) : Prop := hashes.checksum a = hashes.checksum b → a = b

/-- Identifiers of one kind are equal only if their values collide. -/
theorem identify_eq {hashes : Hashes} {kind : IdKind} {values others : List String}
    (h : identify hashes kind values = identify hashes kind others) :
    hashes.checksum (joined values) = hashes.checksum (joined others) := by
  have ht := congrArg (fun i : Identifier => i.text.toList) h
  simp only [identify, String.toList_append, List.append_cancel_left_eq] at ht
  generalize hashes.checksum (joined values) = a at ht ⊢
  generalize hashes.checksum (joined others) = b at ht ⊢
  obtain ⟨a, _⟩ := a
  obtain ⟨b, _⟩ := b
  obtain rfl : a = b := String.toList_injective ht
  rfl

namespace FirestorePaths

def document (o : Identifier) (family : String) (key : Identifier) : String :=
  s!"organisations/{o.text}/{family}/{key.text}"

def credential (o c : Identifier) : String := document o "credentials" c
def connection (o c : Identifier) : String := document o "connections" c
def generation (o g : Identifier) : String := document o "generations" g
def probeVersion (o p : Identifier) : String := document o "probe-versions" p
def plan (o p : Identifier) : String := document o "plans" p
def recovery (o r : Identifier) : String := document o "recovery" r
def recoveryResult (o r i : Identifier) : String := s!"{recovery o r}/results/{i.text}"
def action (o a : Identifier) : String := document o "actions" a
def controlVersion (o c v : Identifier) : String := s!"{credential o c}/control-versions/{v.text}"
def playbookVersion (o p v : Identifier) : String := document o "playbooks" p ++ s!"/versions/{v.text}"

end FirestorePaths

def found {δ : Type} (document : Option δ) (path : String) : Except Error δ :=
  required document (.resourceNotFound s!"resource {path} was not found")

@[simp] theorem found_ok {δ : Type} {document : Option δ} {path : String} {value : δ} :
    found document path = .ok value ↔ document = some value := required_ok ..

@[simp] theorem found_bind_ok {δ β : Type} {document : Option δ} {path : String} {f : δ → Except Error β} {b : β} :
    (found document path >>= f) = .ok b ↔ ∃ value, document = some value ∧ f value = .ok b :=
  required_bind_ok ..

/-- `_required`: an identifier that is set. -/
def requiredId (value : Option Identifier) (label : String) : Except Error Identifier :=
  required value (.value s!"{label} is missing")

@[simp] theorem requiredId_ok {value : Option Identifier} {label : String} {i : Identifier} :
    requiredId value label = .ok i ↔ value = some i := required_ok ..

@[simp] theorem requiredId_bind_ok {β : Type} {value : Option Identifier} {label : String}
    {f : Identifier → Except Error β} {b : β} :
    (requiredId value label >>= f) = .ok b ↔ ∃ i, value = some i ∧ f i = .ok b := required_bind_ok ..

def credential (catalog : Catalog) (run : RotationRun) : Except Error ManagedCredential := do
  let fields ← found (catalog.credentials (run.organisationId, run.credentialId))
    (FirestorePaths.credential run.organisationId run.credentialId)
  ManagedCredential.modelValidate fields

/-- The credential of a run is the one stored under its id. -/
theorem credential_ok {catalog : Catalog} {run : RotationRun} {value : ManagedCredential} :
    credential catalog run = .ok value ↔
      catalog.credentials (run.organisationId, run.credentialId) = some value.toCredentialFields := by
  simp only [credential, found_bind_ok, ManagedCredential.modelValidate_ok]
  exact ⟨fun ⟨_, hf, he⟩ => he ▸ hf, fun h => ⟨_, h, rfl⟩⟩

/-- `_control`: the version that the run pinned. An earlier read may be kept, as versions never change. -/
def control (hashes : Hashes) (catalog : Catalog) (run : RotationRun) : Except Error ControlVersion := do
  let version ← found (catalog.controls (run.organisationId, run.credentialId, run.controlVersion))
    (FirestorePaths.controlVersion run.organisationId run.credentialId run.controlVersion)
  raiseIf (version.organisationId ≠ run.organisationId ∨ version.credentialId ≠ run.credentialId ∨
      version.id ≠ run.controlVersion ∨
      version.digest ≠ hashes.digest (definitionPayload version.definition.toControlFields))
    (.value "run control version is not immutable and authorised")
  return version

/-- The controls of a run are stored under its version, and say so themselves. -/
theorem control_ok {hashes : Hashes} {s : Catalog} {run : RotationRun} {version : ControlVersion} :
    control hashes s run = .ok version ↔
      s.controls (run.organisationId, run.credentialId, run.controlVersion) = some version ∧
      version.organisationId = run.organisationId ∧ version.credentialId = run.credentialId ∧
      version.id = run.controlVersion ∧
      version.digest = hashes.digest (definitionPayload version.definition.toControlFields) := by
  simp only [control, found_bind_ok, unit_bind_ok, raiseIf_ok, not_or, not_not, pure_ok]
  constructor
  · rintro ⟨_, hf, hchecks, rfl⟩
    exact ⟨hf, hchecks⟩
  · rintro ⟨hf, hchecks⟩
    exact ⟨_, hf, hchecks, rfl⟩

def getConnection (catalog : Catalog) (o c : Identifier) : Except Error Connection :=
  found (catalog.connections (o, c)) (FirestorePaths.connection o c)

def getGeneration (catalog : Catalog) (o g : Identifier) : Except Error CredentialGeneration :=
  found (catalog.generations (o, g)) (FirestorePaths.generation o g)

def getPlan (catalog : Catalog) (run : RotationRun) : Except Error RotationPlan := do
  let id ← requiredId run.planId "rotation plan"
  found (catalog.plans (run.organisationId, id)) (FirestorePaths.plan run.organisationId id)

def optionalGeneration (catalog : Catalog) (o : Identifier) :
    Option Identifier → Except Error (Option CredentialGeneration)
  | none => return none
  | some g => do return some (← getGeneration catalog o g)

/-- A probe definition with the target, secret reference and generation of a run. -/
structure BoundProbe where
  definition : ProbeDefinition
  target : String
  secretReference : Option (Text 0 1024)
  expectedGenerationId : Option Identifier
  deriving DecidableEq

/-- What a connector is told about the call that it serves. -/
structure ConnectorContext where
  requestId : Identifier
  agentId : Identifier
  connection : Connection
  run : RotationRun
  now : AwareDatetime
  idempotencyKey : Identifier

/-- A task of an agent. What it is told in prose stays outside. -/
structure AgentTask where
  id : Identifier
  organisationId : Identifier
  runId : Identifier
  skill : String
  deriving DecidableEq

structure AgentResult where
  succeeded : Bool
  output : List (String × Json) := []
  evidenceIds : List Identifier := []
  error : Option String := none

/-- What the console operator decides about one browser step. -/
structure OperatorDecision where
  stepId : String
  ready : Bool
  expectedCheckpoint : String
  driftDetected : Bool
  pauseReason : Option String := none
  deriving DecidableEq

/-- The moments at which the clock is read. -/
inductive Moment where
  | calling (request : Identifier)
  | verifying (report : Identifier)
  | verified (report : Identifier)
  | approving (step : Identifier)
  | revoking (report : Identifier)
  deriving DecidableEq

/-- The clock, the queries and the remote services during one stage execution. -/
structure Peers where
  clock : Moment → AwareDatetime
  /-- The bindings of a credential. -/
  queryBindings : Collection (Identifier × Identifier) ConsumerBinding → Identifier → Identifier →
    List ConsumerBinding
  /-- The reports of a run about a generation. -/
  queryReports : Collection (Identifier × Identifier) VerificationReport → Identifier → Identifier →
    Option Identifier → List VerificationReport
  /-- The approvals of a run. -/
  queryApprovals : Collection (Identifier × Identifier) Approval → Identifier → Identifier → List Approval
  /-- The probe of a report, on its connection and the one of its secret. -/
  executeProbe : Identifier → BoundProbe → Connection → ConnectorContext → Option Connection →
    Except Error ProbeResult
  broker : RotationRun → ToolRequest → Option Identifier → Except Error ToolResult
  agents : AgentTask → Except Error AgentResult
  readDecision : List (String × Json) → Option OperatorDecision
  browser : RotationRun → Connection → PlaybookVersion → PlaybookStep → Option Approval →
    Except Error (List (String × Json))

/-- A query that returns what the collection holds. -/
def Exact {δ : Type} (answer : List δ) (collection : Collection (Identifier × Identifier) δ) (o : Identifier)
    (selects : δ → Prop) : Prop :=
  ∀ document, document ∈ answer ↔ (∃ key, collection (o, key) = some document) ∧ selects document

def coordinatorId : Identifier := coordinatorOne

def bindings (peers : Peers) (catalog : Catalog) (run : RotationRun) (credential : ManagedCredential) :
    Except Error (List ConsumerBinding) := do
  let documents := peers.queryBindings catalog.bindings run.organisationId credential.id
  forEach documents ConsumerBinding.validate
  return documents

/-- The documents that the coordinator needs about one rotation. -/
structure RotationContext where
  credential : ManagedCredential
  provider : Connection
  secretStore : Connection
  bindings : List ConsumerBinding
  browserPlaybook : Option PlaybookVersion

def checkRuntime (catalog : Catalog) (run : RotationRun) (binding : ConsumerBinding) : Except Error Unit := do
  let connection ← getConnection catalog run.organisationId binding.runtimeConnectionId
  raiseIf (.runtime ∉ connection.roles ∨ connection.interface ≠ .api)
    (.value "consumer runtime connection changed")

def browserPlaybook (hashes : Hashes) (catalog : Catalog) (run : RotationRun) (provider : Connection) :
    Except Error (Option PlaybookVersion) :=
  if provider.interface = .browser then do
    let playbookId ← requiredId provider.playbookId "browser connection playbook"
    let versionId ← requiredId provider.playbookVersionId "browser connection playbook version"
    let version ← found (catalog.playbooks (run.organisationId, playbookId, versionId))
      (FirestorePaths.playbookVersion run.organisationId playbookId versionId)
    raiseIf (version.state ≠ .published ∨
        version.digest ≠ hashes.digest (playbookPayload version.definition.toDraftFields) ∨
        version.definition.platform ≠ provider.platform)
      (.value "browser connection playbook is not published and immutable")
    raiseIf (run.browserPlaybookVersion ≠ none ∧ run.browserPlaybookVersion ≠ some version.id)
      (.value "run browser playbook binding changed")
    return some version
  else do
    raiseIf (run.browserPlaybookVersion ≠ none) (.value "API rotation cannot acquire a browser playbook")
    return none

def rotationContext (hashes : Hashes) (peers : Peers) (catalog : Catalog) (run : RotationRun) :
    Except Error RotationContext := do
  let credential ← credential catalog run
  let provider ← getConnection catalog run.organisationId credential.connectionId
  let secretStore ← getConnection catalog run.organisationId credential.secretStoreConnectionId
  raiseIf (.provider ∉ provider.roles ∨ provider.platform ≠ credential.provider)
    (.value "credential provider connection changed")
  raiseIf (.secretStore ∉ secretStore.roles ∨ secretStore.interface ≠ .api)
    (.value "credential secret-store connection changed")
  let bindings ← bindings peers catalog run credential
  forEach bindings (checkRuntime catalog run)
  let browserPlaybook ← browserPlaybook hashes catalog run provider
  return { credential, provider, secretStore, bindings, browserPlaybook }

end Uumi.Coordinator
