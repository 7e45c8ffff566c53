import Uumi.Broker.Service

/-! What the parts of an execution call outside: no part but the executing ones touches the attempt. -/
namespace Uumi.Broker
open Uumi.Contracts Uumi.Core Uumi.Foundations Uumi.Coordinator
open Uumi.Foundations.Program (Calls Returns)

/-- The tool that a connector executes is the one of the request, or the revocation after a creation. -/
def RunsTool (request : ToolRequest) (tool : String) : Prop :=
  tool = request.tool.value ∨
    (tool = "provider.revokeCredential" ∧ request.tool.value = "provider.createCredential")

/-- Calls besides the attempt. A connector executes a tool only after something was established. -/
def Outside (request : ToolRequest) (established : Prop) : Call → Prop
  | .attempt .. | .begin .. | .reclaim .. | .checkpoint .. | .finish .. => False
  | .execute _ tool _ _ => established ∧ RunsTool request tool
  | _ => True

def Reads : Call → Prop
  | .run .. | .connection .. | .credential .. | .bindings .. | .controls .. | .approval .. | .action .. | .clock => True
  | _ => False

/-- A call that only reads establishes nothing. -/
theorem outside_of_reads {request : ToolRequest} {established : Prop} (op : Call) (h : Reads op) :
    Outside request established op := by
  cases op <;> trivial

variable (broker : BrokerService) (request : ToolRequest) {established : Prop}

private theorem authorizeMutation_calls (run : RotationRun) (requestHash : Digest) (token : Option String) :
    (authorizeMutation broker request run requestHash token).Calls Reads := by
  unfold authorizeMutation
  refine Calls.bind (Program.calls_lift _) fun _ => Calls.bind (Program.calls_perform trivial) fun _ => ?_
  refine Calls.bind (Program.calls_lift _) fun _ => Calls.bind (Program.calls_lift _) fun _ => ?_
  split
  · exact Program.calls_lift _
  · unfold validateApproval
    refine Calls.bind (Program.calls_lift _) fun _ => Calls.bind (Program.calls_perform trivial) fun _ => ?_
    refine Calls.bind (Program.calls_perform trivial) fun _ => Calls.bind (Program.calls_lift _) fun _ => ?_
    refine Calls.bind (Program.calls_lift _) fun _ => Calls.bind (Program.calls_lift _) fun _ => ?_
    exact Program.calls_lift _

/-- After it has read the attempt, the admission of a request reads the other documents and the clock. -/
theorem admitted_calls (previous : Option ToolAttempt) (token : Option String) :
    (admitted broker request token previous).Calls Reads := by
  unfold admitted
  refine Calls.bind (Program.calls_perform trivial) fun _ => Calls.bind (Program.calls_perform trivial) fun _ => ?_
  refine Calls.bind (Program.calls_perform trivial) fun _ => Calls.bind (Program.calls_perform trivial) fun _ => ?_
  refine Calls.bind (Program.calls_perform trivial) fun _ => Calls.bind (Program.calls_perform trivial) fun _ => ?_
  refine Calls.bind (Program.calls_lift _) fun _ => ?_
  split
  · exact Calls.bind (authorizeMutation_calls broker request _ _ token) fun _ => trivial
  · trivial

/-- What is admitted is the attempt that was read. -/
theorem admitted_previous (previous : Option ToolAttempt) (token : Option String) :
    (admitted broker request token previous).Returns fun admission => admission.previous = previous := by
  unfold admitted
  refine Returns.bind _ fun _ => Returns.bind _ fun _ => Returns.bind _ fun _ => Returns.bind _ fun _ => ?_
  refine Returns.bind _ fun _ => Returns.bind _ fun _ => Returns.bind _ fun _ => ?_
  split
  · exact Returns.bind _ fun _ => rfl
  · rfl

private theorem secretSink_calls (credential : ManagedCredential) :
    (secretSink broker request credential).Calls (Outside request established) := by
  unfold secretSink
  refine Calls.bind (Program.calls_lift _) fun _ => ?_
  refine Calls.bind (Program.calls_lift _) fun _ => ?_
  refine Calls.bind (Program.calls_lift _) fun _ => ?_
  refine Calls.bind (Program.calls_perform trivial) fun _ => ?_
  refine Calls.bind (Program.calls_lift _) fun _ => ?_
  refine Calls.bind (Program.calls_lift _) fun _ => ?_
  exact Calls.bind (Program.calls_lift _) fun _ => trivial

private theorem compensate_calls (h : established) (created : request.tool.value = "provider.createCredential")
    (response : ConnectorResponse) (context : ConnectorContext) :
    (compensate broker response context).Calls (Outside request established) := by
  unfold compensate
  refine Calls.bind (Program.calls_lift _) fun _ => ?_
  refine Calls.bind (Program.calls_lift _) fun _ => ?_
  refine Calls.tryCatch (Calls.bind (Program.calls_perform ⟨h, .inr ⟨rfl, created⟩⟩) fun _ => trivial) fun e => ?_
  cases e <;> trivial

private theorem addVersion_calls (h : established) (created : request.tool.value = "provider.createCredential")
    (sink : Connection) (secretResource secret : String) (response : ConnectorResponse) (context : ConnectorContext) :
    (addVersion broker sink secretResource secret response context).Calls (Outside request established) := by
  unfold addVersion
  refine Calls.tryCatch (Program.calls_perform trivial) fun _ => ?_
  refine Calls.bind ?_ fun _ => trivial
  exact Calls.tryCatch (compensate_calls broker request h created response context) fun _ => trivial

/-- Storing what a provider returns is a call of the broker after the checks of the request. -/
theorem storeProviderSecret_calls (h : established) (credential : ManagedCredential) (response : ConnectorResponse)
    (context : ConnectorContext) :
    (storeProviderSecret broker request credential response context).Calls (Outside request established) := by
  unfold storeProviderSecret
  split
  · cases response.secret <;> trivial
  · rename_i created
    have created := not_not.mp created
    cases response.secret with
    | none => trivial
    | some secret =>
      refine Calls.tryCatch ?_ fun e => ?_
      · refine Calls.bind (secretSink_calls broker request credential) fun sink => ?_
        exact Calls.bind (addVersion_calls broker request h created sink.1 sink.2 secret response context)
          fun _ => trivial
      · have cleanup (f : Unit → BrokerM ConnectorResponse) (hf : ∀ u, (f u).Calls (Outside request established)) :
            (compensate broker response context >>= f).Calls (Outside request established) :=
          Calls.bind (compensate_calls broker request h created response context) hf
        unfold abandonTransfer
        cases e <;> first | trivial | exact cleanup _ fun _ => trivial

/-- Writing evidence is a call of the broker after the checks of the request. -/
theorem writeEvidence_calls (now : AwareDatetime) (evidence : List (String × String × String)) :
    (writeEvidence request now evidence).Calls (Outside request established) := by
  induction evidence with
  | nil => trivial
  | cons piece rest ih =>
    exact Calls.bind (Program.calls_perform trivial) fun _ => Calls.bind ih fun _ => trivial

/-- Preparing a tool calls only what the checks of the request allow. -/
theorem prepare_calls (connector : Connector) (context : ConnectorContext) (credential : ManagedCredential) :
    (prepare broker connector request context credential).Calls (Outside request established) := by
  unfold prepare
  split
  · refine Calls.bind (Program.calls_perform trivial) fun _ => ?_
    refine Calls.bind ?_ fun _ => Calls.bind (Program.calls_lift _) fun _ => trivial
    unfold sinkState
    split
    · refine Calls.bind (secretSink_calls broker request credential) fun _ => ?_
      exact Calls.bind (Program.calls_perform trivial) fun _ => trivial
    · trivial
  · trivial

/-- Reconciling a tool calls only what the checks of the request allow. -/
theorem reconcile_calls (connector : Connector) (context : ConnectorContext)
    (credential : ManagedCredential) (state : Parameters) :
    (reconcile broker connector request context credential state).Calls (Outside request established) := by
  unfold reconcile
  refine Calls.bind (Program.calls_lift _) fun _ => Calls.bind (Program.calls_perform trivial) fun _ => ?_
  split
  · refine Calls.bind ?_ fun _ => trivial
    unfold reconcileSecretSink
    refine Calls.bind (secretSink_calls broker request credential) fun _ => ?_
    refine Calls.bind (Program.calls_lift _) fun _ => Calls.bind (Program.calls_perform trivial) fun _ => ?_
    split
    · trivial
    · exact Program.calls_perform trivial
    · trivial
  · trivial

end Uumi.Broker
