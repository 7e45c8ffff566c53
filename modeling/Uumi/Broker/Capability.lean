import Uumi.Contracts.Tool
import Uumi.Policy.Digest

/-! Capabilities for single tool calls: signed claims that bind the exact request. -/
namespace Uumi.Broker
open Uumi.Contracts Uumi.Core Uumi.Foundations Uumi.Policy

structure CapabilityClaims where
  organisationId : String
  runId : String
  agentId : String
  tool : String
  connectionId : String
  stage : Stage
  fencingToken : Int
  requestDigest : Digest
  actionDigest : Digest
  expiresAt : Int
  nonce : String
  approvalId : Option String := none
  deriving DecidableEq

/-- The signing key and the verification key. `mint` encodes claims and signs them; `read` checks the signature and
decodes the claims. -/
structure CapabilityKeys where
  mint : CapabilityClaims → String
  read : String → Except Error CapabilityClaims

def roundHalfEven (n d : Nat) : Nat :=
  if 2 * (n % d) < d then n / d
  else if d < 2 * (n % d) then n / d + 1
  else n / d + n / d % 2

/-- The whole seconds in the double nearest to a number of microseconds, which keeps 53 significant bits. -/
def wholeSeconds (n : Nat) : Nat :=
  let bits := 52 - Nat.log2 (n / 1000000)
  roundHalfEven (n * 2 ^ bits) 1000000 / 2 ^ bits

def timestamp (now : AwareDatetime) : Int := now.instant.sign * wholeSeconds now.instant.natAbs

def verify (keys : CapabilityKeys) (token : String) (now : AwareDatetime) : Except Error CapabilityClaims := do
  let claims ← keys.read token
  raiseIf (claims.expiresAt ≤ timestamp now) (.capability "action capability has expired")
  return claims

/-- A token that is verified has been read under one of the keys. -/
theorem verify_ok {keys : CapabilityKeys} {token : String} {now : AwareDatetime} {claims : CapabilityClaims}
    (h : verify keys token now = .ok claims) : keys.read token = .ok claims := by
  simp only [verify] at h
  rw [bind_ok] at h
  obtain ⟨claims', hr, h⟩ := h
  rw [unit_bind_ok, pure_ok] at h
  rwa [h.2] at hr

def requestDigest (hashing : Hashing) (tool : String) (payload : List (String × Json)) : Digest :=
  hashing.digest (Json.obj [("payload", .obj payload), ("tool", .str tool)]).sortKeys

/-- The claims of `McpBrokerClient._capability`: of the digest of an approved action, or of the request itself. -/
def claimsFor (hashing : Hashing) (run : RotationRun) (request : ToolRequest)
    (approved : Option (String × Digest)) (expiresAt : Int) : CapabilityClaims where
  organisationId := run.organisationId.text
  runId := run.id.text
  agentId := request.agentId.text
  tool := request.tool.value
  connectionId := request.connectionId.text
  stage := run.stage
  fencingToken := run.fencingToken
  requestDigest := requestDigest hashing request.tool.value request.payload
  actionDigest := (approved.map Prod.snd).getD (requestDigest hashing request.tool.value request.payload)
  expiresAt := expiresAt
  nonce := request.id.text
  approvalId := approved.map Prod.fst

end Uumi.Broker
