import Uumi.Broker.Calls
import Uumi.Coordinator.Rollout

/-! Which tools a request may run, and what the broker has checked about its capability by then. -/
namespace Uumi.Broker
open Uumi.Contracts Uumi.Core Uumi.Foundations Uumi.Policy Uumi.Storage Uumi.Coordinator
open Uumi.Foundations.Program (Calls Steps Spec lift)

/-- A connector executes a tool only after something was established. -/
def MayRun (request : ToolRequest) (established : Prop) : Call → Prop
  | .execute _ tool _ _ => established ∧ RunsTool request tool
  | _ => True

private theorem mayRun_of_outside {request : ToolRequest} {established : Prop} (op : Call)
    (h : Outside request established op) : MayRun request established op := by
  cases op <;> trivial

section
variable (broker : BrokerService) (request : ToolRequest) {established : Prop}

private theorem finish_calls (result : ToolResult) : (finish broker request result).Calls (MayRun request established) :=
  Calls.bind (Program.calls_perform trivial) fun _ => Program.calls_perform trivial

private theorem settle_calls (h : established) (admission : Admission) (response : ConnectorResponse) :
    (settle broker request admission response).Calls (MayRun request established) := by
  unfold settle
  refine Calls.bind ((storeProviderSecret_calls broker request h _ response _).mono mayRun_of_outside) fun _ => ?_
  refine Calls.bind ((writeEvidence_calls request _ _).mono mayRun_of_outside) fun _ => ?_
  exact Calls.bind (Program.calls_perform trivial) fun _ => trivial

private theorem executeTool_calls (h : established) (connector : Connector) (admission : Admission) :
    (executeTool broker connector request admission).Calls (MayRun request established) := by
  unfold executeTool
  refine Calls.bind (Calls.tryCatch ?_ fun e => ?_) fun result => ?_
  · unfold mutate
    exact Calls.bind (Program.calls_perform ⟨h, .inl rfl⟩) fun response => settle_calls broker request h admission response
  · have ends (f : Unit → BrokerM ToolResult) (hf : ∀ u, (f u).Calls (MayRun request established)) :
        (finish broker request (failure request "broker-internal-error" false) >>= f).Calls (MayRun request established) :=
      Calls.bind (finish_calls broker request _) hf
    unfold Broker.failed
    cases e <;> first | trivial | exact ends _ fun _ => trivial
  · refine Calls.bind (finish_calls broker request result) fun _ => ?_
    exact Calls.bind (Program.calls_perform trivial) fun _ => trivial

private theorem proceed_calls (h : established) (admission : Admission) :
    (proceed broker request admission).Calls (MayRun request established) := by
  unfold proceed
  split
  · refine Calls.bind (Program.calls_lift _) fun connector => ?_
    refine Calls.bind ((prepare_calls broker request connector _ _).mono mayRun_of_outside) fun _ => ?_
    exact Calls.bind (Program.calls_perform trivial) fun _ => executeTool_calls broker request h connector admission
  · rename_i previous _
    split
    · exact Program.calls_lift _
    · refine Calls.bind (Program.calls_lift _) fun connector => ?_
      split
      · exact Calls.bind (finish_calls broker request _) fun _ => trivial
      · unfold resumeAttempt
        refine Calls.bind (Program.calls_lift _) fun _ => Calls.bind (Program.calls_perform trivial) fun _ => ?_
        refine Calls.bind ((reconcile_calls broker request connector _ _ _).mono mayRun_of_outside) fun reconciled => ?_
        cases reconciled with
        | none => exact executeTool_calls broker request h connector admission
        | some response =>
          refine Calls.bind (settle_calls broker request h admission response) fun _ => ?_
          exact Calls.bind (finish_calls broker request _) fun _ => trivial

end

/-- The documents that the broker reads. -/
structure Records extends Catalog where
  runs : Collection (Identifier × Identifier) RotationRun

/-- Documents are read as they are stored; every call may raise, and all others answer anything. -/
def reads (records : Records) : Program.World Call Call.Answer Error Unit := fun _ op answer _ =>
  match op, answer with
  | .run o r, .ok run => records.runs (o, r) = some run
  | .connection o c, .ok connection => records.connections (o, c) = some connection
  | .credential o c, .ok credential => records.credentials (o, c) = some credential.toCredentialFields
  | .controls o c v, .ok controls => records.controls (o, c, v) = some controls
  | .approval o a, .ok approval => records.approvals (o, a) = some approval
  | .action o a, .ok action => records.actions (o, a) = some action
  | _, _ => True

/-- The token names the stored approval of a stored action. -/
structure Names (broker : BrokerService) (records : Records) (request : ToolRequest) (token : Option String)
    (approval : Approval) (action : ProtectedAction) : Prop where
  claimed : ∃ text ∈ token, ∃ claims, broker.capabilities.read text = .ok claims ∧
    ∃ id, claims.approvalId = some id ∧ ∃ segmented, segment id = .ok segmented ∧
      records.approvals (request.organisationId, segmented) = some approval
  stored : records.actions (request.organisationId, approval.actionId) = some action

/-- What the token names is unique. -/
theorem Names.unique {broker : BrokerService} {records : Records} {request : ToolRequest} {token : Option String}
    {approval approval' : Approval} {action action' : ProtectedAction}
    (h : Names broker records request token approval action)
    (h' : Names broker records request token approval' action') : approval = approval' ∧ action = action' := by
  obtain ⟨text, ht, claims, hr, id, hi, segmented, hs, ha⟩ := h.claimed
  obtain ⟨text', ht', claims', hr', id', hi', segmented', hs', ha'⟩ := h'.claimed
  rw [Option.mem_def] at ht ht'
  cases ht.symm.trans ht'
  cases hr.symm.trans hr'
  cases hi.symm.trans hi'
  cases hs.symm.trans hs'
  cases ha.symm.trans ha'
  cases h.stored.symm.trans h'.stored
  exact ⟨rfl, rfl⟩

/-- The approval is consumed, of the run, and binds an action of this kind by its digest. -/
structure Grants (broker : BrokerService) (request : ToolRequest) (tool : String) (approval : Approval)
    (action : ProtectedAction) : Prop where
  approved : approval.decision = .approved
  consumed : approval.consumedAt ≠ none
  run : approval.runId = request.runId
  kind : action.kind.value = tool
  bound : approval.actionDigest = broker.hashes.digest (protectedActionPayload action)

/-- The parameters of the action, besides its step, and its connection are those of the request. -/
structure Covers (action : ProtectedAction) (request : ToolRequest) : Prop where
  parameters : (Json.obj ((action.parameters.filter (·.1 ≠ "step_id")).map fun entry =>
      (entry.1, ParameterValue.payload entry.2))).sortKeys.text =
    (Json.obj (request.payload.filter (·.1 ≠ "step_id"))).sortKeys.text
  connection : action.preconditions.lookup "connection_id" = some (some (.text request.connectionId.text))

/-- What the broker has checked before it proceeds with a request that is no read. -/
def Authorised (broker : BrokerService) (records : Records) (request : ToolRequest) (token : Option String) : Prop :=
  ∃ text ∈ token, ∃ claims, broker.capabilities.read text = .ok claims ∧
    (claims.approvalId = none ∨ ∃ approval action, Names broker records request token approval action ∧
      Grants broker request request.tool.value approval action)

section
variable (broker : BrokerService) (records : Records) (request : ToolRequest) {established : Prop}

private theorem validateApproval_spec (text : String) (claims : CapabilityClaims) (id : String)
    (hr : broker.capabilities.read text = .ok claims) (hi : claims.approvalId = some id) :
    Spec (reads records) (fun _ => MayRun request established) (validateApproval broker request claims id) () fun outcome _ =>
      outcome = .ok () → ∃ approval action, Names broker records request (some text) approval action ∧
        Grants broker request request.tool.value approval action := by
  unfold validateApproval
  refine Spec.liftThen (fun segmented hs => ?_) fun _ _ => nofun
  refine Spec.callThen trivial (fun approval _ ha => ?_) fun _ _ _ => nofun
  refine Spec.callThen trivial (fun action _ hx => ?_) fun _ _ _ => nofun
  refine Spec.liftThen (fun _ hdecision => ?_) fun _ _ => nofun
  refine Spec.liftThen (fun _ hrun => ?_) fun _ _ => nofun
  refine Spec.liftThen (fun _ hkind => ?_) fun _ _ => nofun
  intro hdigest
  simp only [raiseIf_ok, not_or, not_not] at hdecision hrun hkind hdigest
  exact ⟨approval, action, ⟨⟨text, rfl, claims, hr, id, hi, segmented, hs, ha⟩, hx⟩,
    hdecision.1, hdecision.2, hrun.1, hkind, hdigest.2⟩

private theorem authorizeMutation_spec (run : RotationRun) (requestHash : Digest) (token : Option String) :
    Spec (reads records) (fun _ => MayRun request established) (authorizeMutation broker request run requestHash token) ()
      fun outcome _ => outcome = .ok () → Authorised broker records request token := by
  unfold authorizeMutation
  refine Spec.liftThen (fun text ht => ?_) fun _ _ => nofun
  refine Spec.callThen trivial (fun now _ _ => ?_) fun _ _ _ => nofun
  refine Spec.liftThen (fun claims hv => ?_) fun _ _ => nofun
  refine Spec.liftThen (fun _ _ => ?_) fun _ _ => nofun
  rw [required_ok] at ht
  subst ht
  have hr := verify_ok hv
  cases hi : claims.approvalId with
  | none => exact fun _ => ⟨text, rfl, claims, hr, .inl hi⟩
  | some id =>
    refine (validateApproval_spec broker records request text claims id hr hi).mono fun outcome _ h ho => ?_
    exact ⟨text, rfl, claims, hr, .inr (h ho)⟩

private theorem admit_spec (token : Option String) :
    Spec (reads records) (fun _ => MayRun request established) (admission broker request token) () fun outcome _ =>
      ∀ admission, outcome = .ok admission → request.tool.value ∉ readTools →
        Authorised broker records request token := by
  unfold admission
  refine Spec.callThen trivial (fun previous _ _ => ?_) fun _ _ _ _ => nofun
  unfold admitted
  refine Spec.callThen trivial (fun run _ _ => ?_) fun _ _ _ _ => nofun
  refine Spec.callThen trivial (fun connection _ _ => ?_) fun _ _ _ _ => nofun
  refine Spec.callThen trivial (fun credential _ _ => ?_) fun _ _ _ _ => nofun
  refine Spec.callThen trivial (fun bindings _ _ => ?_) fun _ _ _ _ => nofun
  refine Spec.callThen trivial (fun controls _ _ => ?_) fun _ _ _ _ => nofun
  refine Spec.callThen trivial (fun now _ _ => ?_) fun _ _ _ _ => nofun
  refine Spec.liftThen (fun _ _ => ?_) fun _ _ _ => nofun
  split
  · refine Spec.andThen (authorizeMutation_spec broker records request run _ token) (fun _ _ h => ?_) fun _ _ _ _ => nofun
    exact fun _ _ _ => h rfl
  · rename_i hread
    exact fun _ _ h => absurd h hread

private theorem execute_spec (token : Option String) :
    Spec (reads records)
      (fun _ => MayRun request (request.tool.value ∉ readTools → Authorised broker records request token))
      (execute broker request token) () fun _ _ => True := by
  unfold execute
  refine Spec.andThen (admit_spec broker records request token) (fun admission _ h => ?_) fun _ _ _ => trivial
  exact (proceed_calls broker request (h admission rfl) admission).spec

end

/-- A tool runs under a consumed approval of an action of this kind, with the parameters and the connection of the
request. -/
def Backed (broker : BrokerService) (records : Records) (request : ToolRequest) (token : Option String)
    (tool : String) : Prop :=
  ∃ approval action, Names broker records request token approval action ∧
    Grants broker request tool approval action ∧ Covers action request

/-- The tool is the one of the request, and the token names an action that covers the request. The token of a read
is not looked at: its approval has to grant the action besides. -/
def NamesCovering (broker : BrokerService) (records : Records) (request : ToolRequest) (token : Option String)
    (tool : String) : Prop :=
  tool = request.tool.value ∧ ∃ approval action, Names broker records request token approval action ∧
    Covers action request ∧ (tool ∈ readTools → Grants broker request tool approval action)

/-- When a connector executes a protected tool, this is backed by an approval exactly if the tool is the one of the
request and the token names an action that covers the request. -/
theorem protected_backed_iff (broker : BrokerService) (records : Records) (request : ToolRequest)
    (token : Option String) {connector : Connector} {tool : String} {payload : List (String × Json)}
    {context : ConnectorContext} {next : Except Error ConnectorResponse → BrokerM ToolResult}
    (reached : Steps (reads records) () (execute broker request token) ()
      (.call (.execute connector tool payload context) next)) (controls : ControlVersion) :
    (tool ∈ controls.definition.protectedTools → Backed broker records request token tool) ↔
      (tool ∈ controls.definition.protectedTools → NamesCovering broker records request token tool) := by
  refine imp_congr_right fun _ => ?_
  obtain ⟨hauth, hruns⟩ := (execute_spec broker records request token).reaches reached
  constructor
  · rintro ⟨approval, action, hnames, hgrants, hcovers⟩
    refine ⟨?_, approval, action, hnames, hcovers, fun _ => hgrants⟩
    rcases hruns with rfl | ⟨rfl, hcreate⟩
    · rfl
    · -- A clean-up runs under an approval of the creation, if any.
      have hnoread : request.tool.value ∉ readTools := by
        rw [hcreate]
        decide
      obtain ⟨text, ht, claims, hr, hnone | ⟨approval', action', hnames', hgrants'⟩⟩ := hauth hnoread
      · obtain ⟨text', ht', claims', hr', id, hi, -⟩ := hnames.claimed
        rw [Option.mem_def] at ht ht'
        cases ht.symm.trans ht'
        cases hr.symm.trans hr'
        rw [hnone] at hi
        cases hi
      · obtain ⟨-, rfl⟩ := hnames.unique hnames'
        rw [← hgrants.kind, ← hgrants'.kind]
  · rintro ⟨rfl, approval, action, hnames, hcovers, hread⟩
    refine ⟨approval, action, hnames, ?_, hcovers⟩
    by_cases hr : request.tool.value ∈ readTools
    · exact hread hr
    · obtain ⟨text, ht, claims, hc, hnone | ⟨approval', action', hnames', hgrants⟩⟩ := hauth hr
      · obtain ⟨text', ht', claims', hc', id, hi, -⟩ := hnames.claimed
        rw [Option.mem_def] at ht ht'
        cases ht.symm.trans ht'
        cases hc.symm.trans hc'
        rw [hnone] at hi
        cases hi
      · obtain ⟨rfl, rfl⟩ := hnames.unique hnames'
        exact hgrants

def sampleProviderTools : Connection where
  toConnectionFields :=
    { sampleProvider.toConnectionFields with
      capabilities := {"provider.createCredential", "provider.revokeCredential"}
      allowedResources := ["platform-1:credentials:*"] }
  accepted := by decide

def sampleToolControls : ControlVersion where
  id := sampleCredential.controlVersion
  organisationId := sampleCredential.organisationId
  credentialId := sampleCredential.id
  number := 1
  definition := {
    requiredChecks := requiredChecks
    allowedTools := {"provider.createCredential", "provider.revokeCredential", "runtime.deployCandidate"}
    protectedTools := {"provider.revokeCredential"}
    allowedRecoveryModes := {.rollback}
    maximumObservationSeconds := 3600
    requireRevokeApproval := true
    requireGenerationTelemetry := false
    accepted := by decide }
  digest := ""
  createdBy := operatorOne
  createdAt := ⟨0, 0⟩

def sampleRevocation : ToolRequest where
  id := ⟨"tool-1", by decide⟩
  organisationId := sampleCredential.organisationId
  runId := RotationRun.sample.id
  agentId := coordinatorId
  tool := ⟨"provider.revokeCredential", by decide⟩
  connectionId := sampleProvider.id
  payload := [("provider_id", .str "key-1")]
  fencingToken := 1
  token_pos := Nat.one_pos

def sampleClaims : CapabilityClaims :=
  claimsFor Hashing.sample (sampleDeployed .revoke 9) sampleRevocation none 300

def sampleBrokerOf (claims : CapabilityClaims) : BrokerService where
  hashes := Hashes.sample
  capabilities := { mint := fun _ => "token", read := fun _ => .ok claims }
  connectors := ConnectorRegistry.registered

def sampleBroker : BrokerService := sampleBrokerOf sampleClaims

def sampleRecordsOf (approvals : Collection (Identifier × Identifier) Approval)
    (actions : Collection (Identifier × Identifier) ProtectedAction) : Records where
  toCatalog :=
    { sampleCatalog with
      approvals, actions
      connections := sampleCatalog.connections.set (sampleProvider.organisationId, sampleProvider.id)
        sampleProviderTools
      controls := sampleCatalog.controls.set
        (sampleToolControls.organisationId, sampleToolControls.credentialId, sampleToolControls.id)
        sampleToolControls }
  runs := Collection.empty.set (sampleCredential.organisationId, RotationRun.sample.id) (sampleDeployed .revoke 9)

def sampleRecords : Records := sampleRecordsOf Collection.empty Collection.empty

def sampleAdmission : Admission where
  previous := none
  run := sampleDeployed .revoke 9
  connection := sampleProviderTools
  credential := sampleCredential
  now := ⟨10, 0⟩

private theorem sampleRevocation_valid : validateRequest Hashes.sample.lower sampleRevocation
    (sampleDeployed .revoke 9) sampleProviderTools sampleCredential [] sampleToolControls ⟨10, 0⟩ = .ok () := by
  rfl

private theorem sampleRevocation_authorised : Steps (reads sampleRecords) ()
    (authorizeMutation sampleBroker sampleRevocation (sampleDeployed .revoke 9)
      (sampleBroker.requestHash sampleRevocation) (some "token")) () (.finish (.ok ())) := by
  unfold authorizeMutation
  refine Steps.liftThen (rfl : _ = Except.ok "token") ?_
  refine Steps.callThen ⟨10, 0⟩ () trivial ?_
  refine Steps.liftThen (rfl : _ = Except.ok sampleClaims) ?_
  refine Steps.liftThen (rfl : _ = Except.ok ()) ?_
  exact .refl ..

section
variable {claims : CapabilityClaims} {approvals : Collection (Identifier × Identifier) Approval}
  {actions : Collection (Identifier × Identifier) ProtectedAction}

private theorem sampleRevocation_admitted
    (authorised : Steps (reads (sampleRecordsOf approvals actions)) ()
      (authorizeMutation (sampleBrokerOf claims) sampleRevocation (sampleDeployed .revoke 9)
        ((sampleBrokerOf claims).requestHash sampleRevocation) (some "token")) () (.finish (.ok ()))) :
    Steps (reads (sampleRecordsOf approvals actions)) ()
      (admission (sampleBrokerOf claims) sampleRevocation (some "token")) () (.finish (.ok sampleAdmission)) := by
  unfold admission
  refine Steps.callThen none () trivial ?_
  unfold admitted
  refine Steps.callThen (sampleDeployed .revoke 9) () (by rfl) ?_
  refine Steps.callThen sampleProviderTools () (by rfl) ?_
  refine Steps.callThen sampleCredential () (by rfl) ?_
  refine Steps.callThen [] () trivial ?_
  refine Steps.callThen sampleToolControls () (by rfl) ?_
  refine Steps.callThen ⟨10, 0⟩ () trivial ?_
  refine Steps.liftThen sampleRevocation_valid ?_
  rw [if_pos (by decide)]
  exact Steps.andThen authorised (.refl ..)

private theorem sampleRevocation_runs
    (authorised : Steps (reads (sampleRecordsOf approvals actions)) ()
      (authorizeMutation (sampleBrokerOf claims) sampleRevocation (sampleDeployed .revoke 9)
        ((sampleBrokerOf claims).requestHash sampleRevocation) (some "token")) () (.finish (.ok ()))) :
    ∃ next, Steps (reads (sampleRecordsOf approvals actions)) ()
      (execute (sampleBrokerOf claims) sampleRevocation (some "token")) ()
      (.call (.execute httpProviderConnector "provider.revokeCredential" sampleRevocation.payload
        (sampleAdmission.context sampleRevocation)) next) := by
  apply Exists.intro
  refine Steps.andThen (sampleRevocation_admitted authorised) ?_
  unfold proceed
  refine Steps.liftThen (rfl : _ = Except.ok httpProviderConnector) ?_
  have prepared : Steps (reads (sampleRecordsOf approvals actions)) () (prepare (sampleBrokerOf claims)
      httpProviderConnector sampleRevocation (sampleAdmission.context sampleRevocation) sampleCredential) ()
      (.finish (.ok [])) :=
    Steps.callThen [] () trivial (.refl ..)
  refine Steps.andThen prepared ?_
  refine Steps.callThen () () trivial ?_
  exact .refl ..

end

/-- A capability for the request itself is enough to run a protected tool. -/
theorem protected_not_backed : ¬ ∀ (broker : BrokerService) (records : Records) (request : ToolRequest)
    (token : Option String) (connector : Connector) (tool : String) (payload : List (String × Json))
    (context : ConnectorContext) (next : Except Error ConnectorResponse → BrokerM ToolResult) (controls : ControlVersion),
    Steps (reads records) () (execute broker request token) () (.call (.execute connector tool payload context) next) →
    records.controls (request.organisationId, context.run.credentialId, context.run.controlVersion) = some controls →
    tool ∈ controls.definition.protectedTools → Backed broker records request token tool := by
  intro h
  obtain ⟨next, reached⟩ := sampleRevocation_runs sampleRevocation_authorised
  obtain ⟨approval, action, hnames, -⟩ := h _ _ _ _ _ _ _ _ _ sampleToolControls reached rfl (by decide)
  obtain ⟨text, ht, claims, hc, id, hi, -⟩ := hnames.claimed
  cases hc
  cases hi

private theorem sampleKey_bounded : 1 ≤ "key-1".length ∧ "key-1".length ≤ 256 := by decide

def sampleApprovedAction : ProtectedAction where
  id := actionOne
  organisationId := sampleCredential.organisationId
  runId := RotationRun.sample.id
  kind := ⟨"provider.revokeCredential", by decide⟩
  resource := ⟨"keys/key-1", by decide⟩
  credentialId := sampleCredential.id
  generationId := generationOne
  providerId := ⟨"key-1", sampleKey_bounded⟩
  controlVersion := sampleToolControls.id
  planHash := "plan"
  evidenceHash := "evidence"
  preconditions := [("connection_id", some (.text sampleProvider.id.text))]
  parameters := [("step_id", .text "revoke"), ("provider_id", .text "key-1")]

def sampleActionDigest : Digest := Hashes.sample.digest (protectedActionPayload sampleApprovedAction)

def sampleConsumed : Approval where
  id := approvalOne
  organisationId := sampleCredential.organisationId
  runId := RotationRun.sample.id
  actionId := sampleApprovedAction.id
  actionDigest := sampleActionDigest
  planHash := "plan"
  evidenceHash := "evidence"
  generationId := generationOne
  requestedBy := workerOne
  capabilityHash := "capability"
  decision := .approved
  approverId := some operatorOne
  expiresAt := ⟨100, 0⟩
  createdAt := ⟨1, 0⟩
  decidedAt := some ⟨2, 0⟩
  consumedAt := some ⟨3, 0⟩
  decided := by decide
  consumed := by decide
  in_time := by decide

def sampleApprovedClaims : CapabilityClaims :=
  claimsFor Hashing.sample (sampleDeployed .revoke 9) sampleRevocation
    (some (sampleConsumed.id.text, sampleActionDigest)) 300

def sampleApprovedRecords : Records :=
  sampleRecordsOf (Collection.empty.set (sampleConsumed.organisationId, sampleConsumed.id) sampleConsumed)
    (Collection.empty.set (sampleApprovedAction.organisationId, sampleApprovedAction.id) sampleApprovedAction)

private theorem sampleApproved_authorised : Steps (reads sampleApprovedRecords) ()
    (authorizeMutation (sampleBrokerOf sampleApprovedClaims) sampleRevocation (sampleDeployed .revoke 9)
      ((sampleBrokerOf sampleApprovedClaims).requestHash sampleRevocation) (some "token")) () (.finish (.ok ())) := by
  unfold authorizeMutation
  refine Steps.liftThen (rfl : _ = Except.ok "token") ?_
  refine Steps.callThen ⟨10, 0⟩ () trivial ?_
  refine Steps.liftThen (rfl : _ = Except.ok sampleApprovedClaims) ?_
  refine Steps.liftThen (rfl : _ = Except.ok ()) ?_
  show Steps _ _ (validateApproval _ _ _ sampleConsumed.id.text) _ _
  unfold validateApproval
  refine Steps.liftThen (rfl : _ = Except.ok sampleConsumed.id) ?_
  refine Steps.callThen sampleConsumed () (by rfl) ?_
  refine Steps.callThen sampleApprovedAction () (by rfl) ?_
  refine Steps.liftThen ((raiseIf_ok _ _ ()).mpr (by decide)) ?_
  refine Steps.liftThen ((raiseIf_ok _ _ ()).mpr (by decide)) ?_
  refine Steps.liftThen ((raiseIf_ok _ _ ()).mpr (by decide)) ?_
  have hdigest : (lift (raiseIf (sampleApprovedClaims.actionDigest ≠ sampleActionDigest ∨
      sampleConsumed.actionDigest ≠ sampleActionDigest)
        (.approval "protected action digest changed after approval")) : BrokerM Unit) = .finish (.ok ()) := by
    unfold Foundations.Program.lift
    rw [(raiseIf_ok _ _ ()).mpr fun h => h.elim (fun h => h rfl) fun h => h rfl]
  exact hdigest ▸ .refl ..

/-- A revocation that is approved runs, and the approval that its token names backs it. -/
theorem sampleRevocation_backed : ∃ next, Steps (reads sampleApprovedRecords) ()
    (execute (sampleBrokerOf sampleApprovedClaims) sampleRevocation (some "token")) ()
    (.call (.execute httpProviderConnector "provider.revokeCredential" sampleRevocation.payload
      (sampleAdmission.context sampleRevocation)) next) ∧
    "provider.revokeCredential" ∈ sampleToolControls.definition.protectedTools ∧
    Backed (sampleBrokerOf sampleApprovedClaims) sampleApprovedRecords sampleRevocation (some "token")
      "provider.revokeCredential" := by
  obtain ⟨next, reached⟩ := sampleRevocation_runs sampleApproved_authorised
  have hprotected : "provider.revokeCredential" ∈ sampleToolControls.definition.protectedTools := by decide
  have hnames : Names (sampleBrokerOf sampleApprovedClaims) sampleApprovedRecords sampleRevocation (some "token")
      sampleConsumed sampleApprovedAction :=
    ⟨⟨"token", rfl, sampleApprovedClaims, rfl, sampleConsumed.id.text, rfl, sampleConsumed.id, rfl, rfl⟩, rfl⟩
  have hcovers : Covers sampleApprovedAction sampleRevocation := ⟨rfl, rfl⟩
  refine ⟨next, reached, hprotected, (protected_backed_iff _ _ _ _ reached sampleToolControls).mpr ?_ hprotected⟩
  exact fun _ => ⟨rfl, sampleConsumed, sampleApprovedAction, hnames, hcovers, fun hread => absurd hread (by decide)⟩

end Uumi.Broker
