import Uumi.Contracts.Playbook

/-! Browser sessions: one document for the browser of a run, with the policy that binds it. -/
namespace Uumi.Contracts
open Uumi.Core Uumi.Foundations

inductive BrowserStatus where
  | provisioning | ready | running | paused | takeover | capturing | complete | failed | terminated
  deriving DecidableEq, Repr

inductive BrowserActionKind where
  | navigate | click | type | select | scroll | key | wait
  deriving DecidableEq

def BrowserActionKind.all : Finset BrowserActionKind :=
  {.navigate, .click, .type, .select, .scroll, .key, .wait}

/-- The list of action kinds is complete. -/
theorem BrowserActionKind.mem_all (kind : BrowserActionKind) : kind ∈ all := by
  cases kind <;> decide

inductive BrowserActionStatus where
  | authorized | succeeded | failed
  deriving DecidableEq

/-- What a browser may do, and the tools that need an approval. -/
structure BrowserPolicy where
  allowedDomains : List String
  allowedActions : Finset BrowserActionKind
  protectedTools : Finset String := ∅
  maxSteps : Nat := 40
  allowDownloads : Bool := false
  allowUploads : Bool := false
  allowClipboard : Bool := false
  loginUrlPattern : Option (Text 0 1024) := none
  domains_nonempty : allowedDomains ≠ []
  actions_nonempty : allowedActions ≠ ∅
  steps_bounded : 1 ≤ maxSteps ∧ maxSteps ≤ 200
  deriving DecidableEq

/-- An action in the browser, held by the fence of its session. -/
structure BrowserAction where
  id : Identifier
  sessionId : Identifier
  kind : BrowserActionKind
  selector : Option Selector := none
  value : Option (Text 0 4096) := none
  url : Option (Text 0 2048) := none
  isProtected : Bool := false
  expectedUrl : Option (Text 0 2048) := none
  expectedText : List String := []
  forbiddenText : List String := []
  fencingToken : Nat
  token_pos : 0 < fencingToken
  navigates : kind = .navigate → ((url.map Text.value).getD "") ≠ ""
  selects : kind ∈ [.click, .type, .select] → selector.isSome
  enters : kind ∈ [.type, .select] → value.isSome

instance : DecidableEq BrowserAction := fun a b =>
  decidable_of_iff
    (a.id = b.id ∧ a.sessionId = b.sessionId ∧ a.kind = b.kind ∧ a.selector = b.selector ∧
      a.value = b.value ∧ a.url = b.url ∧ a.isProtected = b.isProtected ∧
      a.expectedUrl = b.expectedUrl ∧ a.expectedText = b.expectedText ∧
      a.forbiddenText = b.forbiddenText ∧ a.fencingToken = b.fencingToken)
    (by cases a; cases b; simp only [BrowserAction.mk.injEq])

/-- The action as it is recorded, with typed text redacted and its URL cut short. -/
structure RecordedAction where
  id : Identifier
  sessionId : Identifier
  kind : BrowserActionKind
  selector : Option Selector
  value : Option String
  url : Option String
  isProtected : Bool
  expectedUrl : Option (Text 0 2048)
  expectedText : List String
  forbiddenText : List String
  fencingToken : Nat
  deriving DecidableEq

structure BrowserActionRecord where
  id : Identifier
  organisationId : Identifier
  sessionId : Identifier
  action : RecordedAction
  status : BrowserActionStatus
  error : Option String := none
  authorisedAt : AwareDatetime
  completedAt : Option AwareDatetime := none
  deriving DecidableEq

/-- The result of a secure capture: where the secret went, and what was masked. -/
structure SecureCaptureResult where
  id : Identifier
  organisationId : Identifier
  sessionId : Identifier
  fieldName : Identifier
  providerId : Text 1 256
  providerDisplayName : Option (Text 0 256) := none
  secretReference : Text 1 1024
  fingerprint : Digest
  maskedValueDigest : Digest
  capturedAt : AwareDatetime
  deriving DecidableEq

/-- The fields of a session document. The service changes them without validating them again. -/
structure SessionFields where
  id : Identifier
  organisationId : Identifier
  runId : Identifier
  playbookId : Identifier
  playbookVersion : Identifier
  providerConnectionId : Identifier
  secretStoreConnectionId : Identifier
  secretResource : Text 1 1024
  workerInstance : Option String := none
  internalAddress : Option String := none
  status : BrowserStatus
  policy : BrowserPolicy
  fencingToken : Nat
  stepCount : Nat := 0
  modelPaused : Bool := true
  recordingPaused : Bool := true
  takeoverSubject : Option String := none
  createdAt : AwareDatetime
  expiresAt : AwareDatetime
  updatedAt : AwareDatetime
  terminatedAt : Option AwareDatetime := none
  revision : Nat := 0
  deriving DecidableEq

def fitsIn (text : Option String) (bound : Nat) : Bool := text.all fun t => t.length ≤ bound

/-- The free texts of a session are stripped when it is read. -/
def SessionFields.stripped (session : SessionFields) : SessionFields :=
  { session with
    workerInstance := session.workerInstance.map strip
    internalAddress := session.internalAddress.map strip
    takeoverSubject := session.takeoverSubject.map strip }

private theorem map_strip_strip (text : Option String) : (text.map strip).map strip = text.map strip := by
  cases text with
  | none => rfl
  | some value => rw [Option.map_some, Option.map_some, strip_strip]

/-- Stripping a session twice strips it once. -/
theorem SessionFields.stripped_stripped (session : SessionFields) : session.stripped.stripped = session.stripped := by
  simp only [stripped, map_strip_strip]

/-- What reading a session document checks: the bounds of its fields, then `validate_lifecycle`. -/
def SessionFields.validateLifecycle (session : SessionFields) : Except Error Unit := do
  raiseIf (fitsIn session.workerInstance 512 = false)
    (.validation "worker_instance should have at most 512 characters")
  raiseIf (fitsIn session.internalAddress 128 = false)
    (.validation "internal_address should have at most 128 characters")
  raiseIf (session.fencingToken = 0) (.validation "fencing_token should be greater than 0")
  raiseIf (fitsIn session.takeoverSubject 512 = false)
    (.validation "takeover_subject should have at most 512 characters")
  raiseIf (session.policy.maxSteps < session.stepCount) (.validation "browser session exceeded its step budget")
  raiseIf (session.status = .capturing ∧ (session.modelPaused = false ∨ session.recordingPaused = false))
    (.validation "secure capture requires model and recording barriers")
  raiseIf (session.status = .terminated ∧ session.terminatedAt = none)
    (.validation "terminated browser sessions require a termination time")

/-- What a valid session satisfies. -/
structure SessionFields.Valid (session : SessionFields) : Prop where
  instance_fits : fitsIn session.workerInstance 512 = true
  address_fits : fitsIn session.internalAddress 128 = true
  fence_pos : 0 < session.fencingToken
  subject_fits : fitsIn session.takeoverSubject 512 = true
  budget : session.stepCount ≤ session.policy.maxSteps
  barriers : session.status = .capturing → session.modelPaused = true ∧ session.recordingPaused = true
  ended : session.status = .terminated → session.terminatedAt.isSome

private theorem SessionFields.validateLifecycle_ok (session : SessionFields) :
    session.validateLifecycle = .ok () ↔ session.Valid := by
  simp only [validateLifecycle, unit_bind_ok, raiseIf_ok, Bool.not_eq_false, not_lt, not_and, not_or]
  constructor
  · rintro ⟨hinstance, haddress, hfence, hsubject, hbudget, hbarriers, hended⟩
    exact ⟨hinstance, haddress, Nat.pos_of_ne_zero hfence, hsubject, hbudget, hbarriers,
      fun hs => Option.isSome_iff_ne_none.mpr (hended hs)⟩
  · rintro ⟨hinstance, haddress, hfence, hsubject, hbudget, hbarriers, hended⟩
    exact ⟨hinstance, haddress, Nat.pos_iff_ne_zero.mp hfence, hsubject, hbudget, hbarriers,
      fun hs => Option.isSome_iff_ne_none.mp (hended hs)⟩

/-- A session that its model validator accepts. -/
structure BrowserSession extends SessionFields where
  normal : SessionFields.stripped toSessionFields = toSessionFields
  accepted : SessionFields.validateLifecycle toSessionFields = .ok ()
  deriving DecidableEq

namespace BrowserSession

def modelValidate (fields : SessionFields) : Except Error BrowserSession :=
  match h : fields.stripped.validateLifecycle with
  | .ok () => .ok ⟨fields.stripped, fields.stripped_stripped, h⟩
  | .error e => .error e

/-- The validator accepts a session exactly when it is the stripped fields. -/
theorem modelValidate_ok {fields : SessionFields} {session : BrowserSession} :
    modelValidate fields = .ok session ↔ session.toSessionFields = fields.stripped := by
  have haccepted := session.accepted
  unfold modelValidate
  constructor
  · split
    · intro h
      cases h
      rfl
    · nofun
  · intro h
    rw [h] at haccepted
    split
    · rw [Except.ok.injEq]
      cases session
      cases h
      rfl
    · rename_i e he
      rw [haccepted] at he
      cases he

/-- Every session satisfies its own validator. -/
theorem valid (session : BrowserSession) : session.Valid :=
  (SessionFields.validateLifecycle_ok _).mp session.accepted

/-- A document can be read exactly when its stripped fields are valid. -/
theorem readable_iff (fields : SessionFields) : (∃ session, modelValidate fields = .ok session) ↔ fields.stripped.Valid := by
  constructor
  · rintro ⟨session, h⟩
    rw [← modelValidate_ok.mp h]
    exact session.valid
  · intro h
    exact ⟨⟨fields.stripped, fields.stripped_stripped, (SessionFields.validateLifecycle_ok _).mpr h⟩,
      modelValidate_ok.mpr rfl⟩

end BrowserSession
end Uumi.Contracts
