import Uumi.Broker.Validate
import Uumi.Foundations.Base64
import Uumi.Foundations.JsonReader

/-! Capability tokens: a header and claims as JSON in base64, with a signature over both. A token that is accepted
carries claims that were minted, and minted claims are read back as they are. -/
namespace Uumi.Broker
open Uumi.Contracts Uumi.Core Uumi.Foundations Uumi.Policy

def utf8 (text : String) : List UInt8 := text.toUTF8.data.toList

def decodeUtf8 (bytes : List UInt8) : Option String := String.fromUTF8? ⟨bytes.toArray⟩

@[simp] theorem decodeUtf8_utf8 (text : String) : decodeUtf8 (utf8 text) = some text := by
  have hbytes : (⟨(utf8 text).toArray⟩ : ByteArray) = text.toByteArray := by
    rw [utf8, Array.toArray_toList]
    rfl
  rw [decodeUtf8, String.fromUTF8?, hbytes, dif_pos text.isValidUTF8]
  rfl

private theorem utf8_injective : Function.Injective utf8 := by
  intro a b h
  have hread := congrArg decodeUtf8 h
  rw [decodeUtf8_utf8, decodeUtf8_utf8] at hread
  exact Option.some.inj hread

def urlsafe (bytes : List UInt8) : String := String.ofList (Base64.encode bytes)

/-- `base64.urlsafe_b64decode`, with the padding put back. -/
def urlsafeBytes (text : String) : Option (List UInt8) := Base64.decode (Base64.padded text.toList)

@[simp] theorem urlsafeBytes_urlsafe (bytes : List UInt8) : urlsafeBytes (urlsafe bytes) = some bytes := by
  rw [urlsafeBytes, urlsafe, String.toList_ofList, Base64.decode_encode]

/-- `_encode`, for fields in alphabetical order. -/
def encodeFields (fields : List (String × Json)) : String := urlsafe (utf8 (Json.obj fields).ascii)

/-- `_decode`. -/
def decodeFields (text : String) : Except Error (List (String × Json)) := do
  let value ← required ((urlsafeBytes text).bind fun bytes => (decodeUtf8 bytes).bind Json.parse)
    (.capability "action capability encoding is invalid")
  match value with
  | .obj fields => .ok fields
  | _ => .error (.capability "action capability body is invalid")

private theorem decodeFields_raises (text : String) :
    RaisesOnly (fun e => ∃ message, e = .capability message) (decodeFields text) := by
  refine raisesOnly_bind (raisesOnly_required _ ⟨_, rfl⟩) fun value _ => ?_
  cases value with
  | obj fields => exact raisesOnly_ok _ _
  | _ =>
    intro e he
    cases he
    exact ⟨_, rfl⟩

private theorem decodeFields_encodeFields {fields : List (String × Json)} (hfields : ∀ field ∈ fields, field.2.isScalar = true)
    (hkeys : (fields.map Prod.fst).Nodup) : decodeFields (encodeFields fields) = .ok fields := by
  rw [decodeFields, encodeFields, urlsafeBytes_urlsafe, Option.bind_some, decodeUtf8_utf8, Option.bind_some,
    Json.parse_ascii hfields hkeys]
  rfl

def headerFields : List (String × Json) := [("alg", .str "EdDSA"), ("typ", .str "FKC"), ("v", .int 2)]

namespace CapabilityClaims

def fields (claims : CapabilityClaims) : List (String × Json) := [
  ("action_digest", .str claims.actionDigest), ("agent_id", .str claims.agentId),
  ("approval_id", claims.approvalId.elim .null .str), ("connection_id", .str claims.connectionId),
  ("expires_at", .int claims.expiresAt), ("fencing_token", .int claims.fencingToken), ("nonce", .str claims.nonce),
  ("organisation_id", .str claims.organisationId), ("request_digest", .str claims.requestDigest),
  ("run_id", .str claims.runId), ("stage", .str claims.stage.value), ("tool", .str claims.tool)]

private theorem fields_scalar (claims : CapabilityClaims) : ∀ field ∈ claims.fields, field.2.isScalar = true := by
  simp only [fields, List.forall_mem_cons, List.not_mem_nil, false_implies, implies_true, and_true]
  cases claims.approvalId <;> exact ⟨rfl, rfl, rfl, rfl, rfl, rfl, rfl, rfl, rfl, rfl, rfl, rfl⟩

private theorem fields_keys (claims : CapabilityClaims) : (claims.fields.map Prod.fst).Nodup := by
  change ["action_digest", "agent_id", "approval_id", "connection_id", "expires_at", "fencing_token", "nonce",
    "organisation_id", "request_digest", "run_id", "stage", "tool"].Nodup
  decide

end CapabilityClaims

/-- `_claim` for a text. -/
def textClaim (fields : List (String × Json)) (key : String) : Option String :=
  match fields.lookup key with
  | some (.str value) => some value
  | _ => none

/-- `_claim` for a number. -/
def intClaim (fields : List (String × Json)) (key : String) : Option Int :=
  match fields.lookup key with
  | some (.int value) => some value
  | _ => none

def optionalClaim (fields : List (String × Json)) (key : String) : Option (Option String) :=
  match fields.lookup key with
  | none | some .null => some none
  | some (.str value) => some (some value)
  | _ => none

def readClaims (fields : List (String × Json)) : Option CapabilityClaims := do
  let organisationId ← textClaim fields "organisation_id"
  let runId ← textClaim fields "run_id"
  let agentId ← textClaim fields "agent_id"
  let tool ← textClaim fields "tool"
  let connectionId ← textClaim fields "connection_id"
  let stageValue ← textClaim fields "stage"
  let stage ← Stage.all.find? (·.value = stageValue)
  let fencingToken ← intClaim fields "fencing_token"
  let requestDigest ← textClaim fields "request_digest"
  let actionDigest ← textClaim fields "action_digest"
  let expiresAt ← intClaim fields "expires_at"
  let nonce ← textClaim fields "nonce"
  let approvalId ← optionalClaim fields "approval_id"
  return {
    organisationId := organisationId
    runId, agentId, tool, connectionId, stage, fencingToken, requestDigest, actionDigest, expiresAt, nonce, approvalId }

/-- The claims of a dictionary of claims are these claims. -/
theorem readClaims_fields (claims : CapabilityClaims) : readClaims claims.fields = some claims := by
  obtain ⟨_, _, _, _, _, stage, _, _, _, _, _, approvalId⟩ := claims
  cases approvalId <;> cases stage <;> rfl

def supportedHeader (fields : List (String × Json)) : Bool :=
  fields.length = 3 ∧ textClaim fields "alg" = some "EdDSA" ∧ textClaim fields "typ" = some "FKC" ∧
    (fields.lookup "v").any (Json.equalsInt 2)

/-- A private key as it signs bytes, and its public key as it accepts a signature of bytes. -/
structure SigningKey where
  sign : List UInt8 → List UInt8
  accepts : List UInt8 → List UInt8 → Bool

def signedText (claims : CapabilityClaims) : String :=
  s!"{encodeFields headerFields}.{encodeFields claims.fields}"

def malformedSignature : Error := .capability "action capability signature is invalid"

namespace SigningKey
variable (key : SigningKey)

def mint (claims : CapabilityClaims) : String :=
  s!"{signedText claims}.{urlsafe (key.sign (utf8 (signedText claims)))}"

/-- `CapabilityVerifier.verify` up to the expiry. -/
def read (token : String) : Except Error CapabilityClaims :=
  match token.toList.splitOn '.' with
  | [header, payload, signature] => do
    let header := String.ofList header
    let payload := String.ofList payload
    let raw ← required (urlsafeBytes (String.ofList signature)) malformedSignature
    raiseIf (key.accepts raw (utf8 s!"{header}.{payload}") = false) malformedSignature
    let headerValue ← decodeFields header
    raiseIf (supportedHeader headerValue = false) (.capability "action capability header is unsupported")
    let value ← decodeFields payload
    required (readClaims value) (.capability "action capability claims are invalid")
  | _ => .error (.capability "action capability is malformed")

def capabilities : CapabilityKeys where
  mint := key.mint
  read := key.read

/-- Signatures as they are relied on: the key accepts what it signed for minted claims, and nothing else. -/
structure Unforgeable (minted : Set CapabilityClaims) : Prop where
  accepted : ∀ claims ∈ minted, key.accepts (key.sign (utf8 (signedText claims))) (utf8 (signedText claims)) = true
  signed : ∀ signature message, key.accepts signature message = true →
    ∃ claims ∈ minted, message = utf8 (signedText claims)

end SigningKey

private theorem dot_notMem_encodeFields (fields : List (String × Json)) : '.' ∉ (encodeFields fields).toList := by
  rw [encodeFields, urlsafe, String.toList_ofList]
  exact Base64.dot_notMem_encode _

private theorem dot_notMem_urlsafe (bytes : List UInt8) : '.' ∉ (urlsafe bytes).toList := by
  rw [urlsafe, String.toList_ofList]
  exact Base64.dot_notMem_encode _

private theorem decode_header : decodeFields (encodeFields headerFields) = .ok headerFields :=
  decodeFields_encodeFields (by simp [headerFields, Json.isScalar]) (by decide)

private theorem header_supported : ¬ supportedHeader headerFields = false := by
  decide +kernel

private theorem interpolated (a b : String) : s!"{a}.{b}".toList = a.toList ++ '.' :: b.toList := by
  change (a ++ "." ++ b).toList = _
  rw [String.toList_append, String.toList_append, List.append_assoc]
  rfl

private theorem splitOn_notMem {cs part : List Char} (h : part ∈ cs.splitOn '.') : '.' ∉ part := by
  induction cs generalizing part with
  | nil =>
    rw [List.splitOn_nil, List.mem_singleton] at h
    exact h ▸ List.not_mem_nil
  | cons c cs ih =>
    rw [List.splitOn_cons_eq_if_modifyHead] at h
    split at h
    · rcases List.mem_cons.mp h with rfl | h
      · exact List.not_mem_nil
      · exact ih h
    · rename_i hc
      obtain ⟨first, rest, hparts⟩ := List.exists_cons_of_ne_nil (List.splitOn_ne_nil '.' cs)
      rw [hparts] at h ih
      rcases List.mem_cons.mp h with rfl | h
      · refine List.not_mem_cons_of_ne_of_not_mem ?_ (ih List.mem_cons_self)
        rintro rfl
        exact hc (beq_self_eq_true '.')
      · exact ih (List.mem_cons_of_mem _ h)

private theorem parts_eq {a b c d : List Char} (ha : '.' ∉ a) (hb : '.' ∉ b) (hc : '.' ∉ c) (hd : '.' ∉ d)
    (h : a ++ '.' :: b = c ++ '.' :: d) : a = c ∧ b = d := by
  have hparts := congrArg (List.splitOn '.') h
  rw [List.splitOn_append_cons_self_of_not_mem ha, List.splitOn_append_cons_self_of_not_mem hc,
    List.splitOn_eq_singleton hb, List.splitOn_eq_singleton hd] at hparts
  obtain ⟨hfirst, hsecond⟩ := List.cons.inj hparts
  exact ⟨hfirst, (List.cons.inj hsecond).1⟩

namespace SigningKey
variable {key : SigningKey} {minted : Set CapabilityClaims}

private theorem read_parts {claims : CapabilityClaims} {raw : List UInt8} {token signature : String}
    (hparts : token.toList.splitOn '.' = [(encodeFields headerFields).toList, (encodeFields claims.fields).toList,
      signature.toList])
    (hraw : urlsafeBytes signature = some raw) (haccepts : key.accepts raw (utf8 (signedText claims)) = true) :
    key.read token = .ok claims := by
  have hpayload : decodeFields (encodeFields claims.fields) = .ok claims.fields :=
    decodeFields_encodeFields claims.fields_scalar claims.fields_keys
  have haccepts : ¬ key.accepts raw (utf8 s!"{encodeFields headerFields}.{encodeFields claims.fields}") = false := by
    rw [Bool.not_eq_false]
    exact haccepts
  unfold read
  rw [hparts]
  simp only [String.ofList_toList]
  rw [hraw]
  change (do
    raiseIf (key.accepts raw (utf8 s!"{encodeFields headerFields}.{encodeFields claims.fields}") = false)
      malformedSignature
    let headerValue ← decodeFields (encodeFields headerFields)
    raiseIf (supportedHeader headerValue = false) (.capability "action capability header is unsupported")
    let value ← decodeFields (encodeFields claims.fields)
    required (readClaims value) (.capability "action capability claims are invalid")) = _
  rw [raiseIf_bind_of_not haccepts, decode_header, ok_bind, raiseIf_bind_of_not header_supported, hpayload,
    ok_bind, readClaims_fields]
  rfl

/-- Minted claims are read back. -/
theorem read_mint (h : key.Unforgeable minted) {claims : CapabilityClaims} (hclaims : claims ∈ minted) :
    key.read (key.mint claims) = .ok claims := by
  refine read_parts ?_ (urlsafeBytes_urlsafe _) (h.accepted claims hclaims)
  rw [mint, interpolated, signedText, interpolated, List.append_assoc, List.cons_append,
    List.splitOn_append_cons_self_of_not_mem (dot_notMem_encodeFields _),
    List.splitOn_append_cons_self_of_not_mem (dot_notMem_encodeFields _),
    List.splitOn_eq_singleton (dot_notMem_urlsafe _)]

/-- What is read was minted. -/
theorem read_minted (h : key.Unforgeable minted) {token : String} {claims : CapabilityClaims}
    (hread : key.read token = .ok claims) : claims ∈ minted := by
  have hkept := hread
  unfold read at hread
  split at hread
  · rename_i header payload signature hparts
    have hdot (part : List Char) (hpart : part ∈ [header, payload, signature]) : '.' ∉ part :=
      splitOn_notMem (hparts ▸ hpart)
    simp only [required_bind_ok, unit_bind_ok, raiseIf_ok, Bool.not_eq_false] at hread
    obtain ⟨raw, hraw, haccepts, -⟩ := hread
    obtain ⟨other, hother, hsigned⟩ := h.signed _ _ haccepts
    have htext := congrArg String.toList (utf8_injective hsigned)
    rw [interpolated, signedText, interpolated, String.toList_ofList, String.toList_ofList] at htext
    obtain ⟨hheader, hpayload⟩ := parts_eq (hdot _ List.mem_cons_self)
      (hdot _ (List.mem_cons_of_mem _ List.mem_cons_self)) (dot_notMem_encodeFields _) (dot_notMem_encodeFields _) htext
    rw [hheader, hpayload] at hparts
    rw [← String.toList_ofList (l := signature)] at hparts
    have hread := read_parts hparts hraw (hsigned ▸ haccepts)
    rw [hkept, Except.ok.injEq] at hread
    exact hread ▸ hother
  · cases hread

/-- Whatever the token is, reading it raises nothing but capability errors. -/
theorem read_raises (token : String) : RaisesOnly (fun e => ∃ message, e = .capability message) (key.read token) := by
  unfold read
  split
  · refine raisesOnly_bind (raisesOnly_required _ ⟨_, rfl⟩) fun raw _ => ?_
    refine raisesOnly_guard (raisesOnly_raiseIf _ ⟨_, rfl⟩) fun _ => ?_
    refine raisesOnly_bind (decodeFields_raises _) fun headerValue _ => ?_
    refine raisesOnly_guard (raisesOnly_raiseIf _ ⟨_, rfl⟩) fun _ => ?_
    exact raisesOnly_bind (decodeFields_raises _) fun value _ => raisesOnly_required _ ⟨_, rfl⟩
  · intro e he
    cases he
    exact ⟨_, rfl⟩

end SigningKey

private theorem roundHalfEven_bounds {n d : Nat} (hd : 0 < d) :
    n / d ≤ roundHalfEven n d ∧ 2 * (roundHalfEven n d * d) ≤ 2 * n + d := by
  have hdiv : n / d * d + n % d = n := Nat.div_add_mod' n d
  have hmod := Nat.mod_lt n hd
  unfold roundHalfEven
  split
  · exact ⟨Nat.le_refl _, by omega⟩
  · split
    · refine ⟨Nat.le_succ _, ?_⟩
      rw [Nat.add_mul, Nat.one_mul]
      omega
    · have hparity : n / d % 2 ≤ 1 := by omega
      refine ⟨Nat.le_add_right _ _, ?_⟩
      have hterm : n / d % 2 * d ≤ d := by
        calc n / d % 2 * d ≤ 1 * d := Nat.mul_le_mul_right d hparity
          _ = d := Nat.one_mul d
      rw [Nat.add_mul]
      omega

private theorem le_wholeSeconds (n : Nat) : n / 1000000 ≤ wholeSeconds n := by
  have hbounds := roundHalfEven_bounds (n := n * 2 ^ (52 - Nat.log2 (n / 1000000))) (d := 1000000) (by decide)
  refine (Nat.le_div_iff_mul_le (Nat.two_pow_pos _)).mpr (le_trans ?_ hbounds.1)
  exact (Nat.le_div_iff_mul_le (by decide)).mpr (by
    calc n / 1000000 * 2 ^ _ * 1000000 = n / 1000000 * 1000000 * 2 ^ (52 - Nat.log2 (n / 1000000)) := by ring
      _ ≤ n * 2 ^ (52 - Nat.log2 (n / 1000000)) := Nat.mul_le_mul_right _ (Nat.div_mul_le_self n 1000000))

private theorem wholeSeconds_le {n t : Nat} (h : n ≤ t * 1000000) : wholeSeconds n ≤ t := by
  have hbounds := (roundHalfEven_bounds (n := n * 2 ^ (52 - Nat.log2 (n / 1000000))) (d := 1000000) (by decide)).2
  have hpos : 0 < 2 ^ (52 - Nat.log2 (n / 1000000)) := Nat.two_pow_pos _
  simp only [wholeSeconds]
  revert hpos hbounds
  generalize 2 ^ (52 - Nat.log2 (n / 1000000)) = p
  intro hbounds hpos
  refine Nat.div_le_of_le_mul ?_
  have hscaled : n * p ≤ t * 1000000 * p := Nat.mul_le_mul_right p h
  have hwhole : t * 1000000 * p = p * t * 1000000 := by ring
  omega

private theorem wholeSeconds_eq {n : Nat} (h : n < 2 ^ 33 * 1000000) : wholeSeconds n = n / 1000000 := by
  refine le_antisymm ?_ (le_wholeSeconds n)
  have hlog : Nat.log2 (n / 1000000) ≤ 32 := by
    by_cases hs : n / 1000000 = 0
    · rw [hs]
      decide
    · exact Nat.lt_succ_iff.mp ((Nat.log2_lt hs).mpr (Nat.div_lt_of_lt_mul (by omega)))
  have hbits : 2 ^ 20 ≤ 2 ^ (52 - Nat.log2 (n / 1000000)) := Nat.pow_le_pow_right (by decide) (by omega)
  have hbounds := (roundHalfEven_bounds (n := n * 2 ^ (52 - Nat.log2 (n / 1000000))) (d := 1000000) (by decide)).2
  simp only [wholeSeconds]
  revert hbits hbounds
  generalize 2 ^ (52 - Nat.log2 (n / 1000000)) = p
  intro hbits hbounds
  have hpos : 0 < p := lt_of_lt_of_le (by decide) hbits
  refine Nat.le_of_lt_succ ((Nat.div_lt_iff_lt_mul hpos).mpr ?_)
  have hn : n + 1 ≤ (n / 1000000 + 1) * 1000000 := by omega
  have hscaled : (n + 1) * p ≤ (n / 1000000 + 1) * 1000000 * p := Nat.mul_le_mul_right p hn
  have hnext : (n / 1000000).succ * p * 1000000 = (n / 1000000 + 1) * 1000000 * p := by
    rw [Nat.succ_eq_add_one]
    ring
  rw [Nat.add_mul, Nat.one_mul] at hscaled
  omega

/-- A time is not before the whole seconds that it is compared by, and within 2³³ seconds of the epoch these are
the whole seconds that passed. -/
theorem timestamp_spec (now : AwareDatetime) :
    (∀ seconds, timestamp now < seconds → now.instant < seconds * 1000000) ∧
    (0 ≤ now.instant → now.instant < 2 ^ 33 * 1000000 → ∀ seconds,
      (timestamp now < seconds ↔ now.instant < seconds * 1000000)) := by
  obtain ⟨instant, offset⟩ := now
  cases instant with
  | ofNat n =>
    have hstamp : timestamp ⟨.ofNat n, offset⟩ = wholeSeconds n := by
      cases n with
      | zero =>
        have hzero : wholeSeconds 0 = 0 := Nat.le_zero.mp (wholeSeconds_le (Nat.zero_le _))
        rw [hzero]
        exact zero_mul _
      | succ n => exact one_mul _
    have hle := le_wholeSeconds n
    rw [hstamp]
    refine ⟨fun seconds h => ?_, fun _ hbound seconds => ?_⟩
    · change (n : Int) < seconds * 1000000
      omega
    · have hbound : n < 2 ^ 33 * 1000000 := Int.ofNat_lt.mp hbound
      rw [wholeSeconds_eq hbound]
      change _ ↔ (n : Int) < seconds * 1000000
      omega
  | negSucc n =>
    have hstamp : timestamp ⟨.negSucc n, offset⟩ = -(wholeSeconds (n + 1) : Int) := neg_one_mul _
    rw [hstamp]
    refine ⟨fun seconds h => ?_, fun hnonneg => absurd hnonneg (by simp)⟩
    by_contra hlate
    have hlate : seconds * 1000000 ≤ Int.negSucc n := not_lt.mp hlate
    have hle : wholeSeconds (n + 1) ≤ (-seconds).toNat := wholeSeconds_le (by omega)
    omega

section
variable {key : SigningKey} {minted : Set CapabilityClaims}

private theorem verify_eq {token : String} {claims : CapabilityClaims} (h : key.read token = .ok claims)
    (now : AwareDatetime) : verify key.capabilities token now =
      if claims.expiresAt ≤ timestamp now then .error (.capability "action capability has expired") else .ok claims := by
  change (do
    let claims ← key.read token
    raiseIf (claims.expiresAt ≤ timestamp now) (.capability "action capability has expired")
    return claims) = _
  rw [h, ok_bind]
  split
  · rename_i hexpired
    exact raiseIf_bind_of hexpired _ _
  · rename_i hlive
    exact raiseIf_bind_of_not hlive _ _

/-- Minted claims come back exactly while they have not expired. Any token at all gives claims that were minted and have
not expired, or a capability error. -/
theorem capabilities_verify (h : key.Unforgeable minted) :
    (∀ claims ∈ minted, ∀ now : AwareDatetime, 0 ≤ now.instant → now.instant < 2 ^ 33 * 1000000 →
      (verify key.capabilities (key.mint claims) now = .ok claims ↔ now.instant < claims.expiresAt * 1000000)) ∧
    ∀ token now,
      (∃ claims ∈ minted, now.instant < claims.expiresAt * 1000000 ∧ verify key.capabilities token now = .ok claims) ∨
        ∃ message, verify key.capabilities token now = .error (.capability message) := by
  refine ⟨fun claims hclaims now hepoch hbound => ?_, fun token now => ?_⟩
  · rw [verify_eq (SigningKey.read_mint h hclaims), ← (timestamp_spec now).2 hepoch hbound]
    split
    · rename_i hexpired
      exact iff_of_false (by simp) (not_lt.mpr hexpired)
    · rename_i hlive
      exact iff_of_true rfl (not_le.mp hlive)
  · rcases (raisesOnly_iff _ _).mp (key.read_raises token) with ⟨e, herror, message, rfl⟩ | ⟨claims, hread⟩
    · refine .inr ⟨message, ?_⟩
      change (do
        let claims ← key.read token
        raiseIf (claims.expiresAt ≤ timestamp now) (.capability "action capability has expired")
        return claims) = _
      rw [herror, error_bind]
    · rw [verify_eq hread]
      split
      · exact .inr ⟨_, rfl⟩
      · rename_i hlive
        exact .inl ⟨claims, SigningKey.read_minted h hread, (timestamp_spec now).1 _ (not_le.mp hlive), rfl⟩

def SigningKey.sample (minted : List CapabilityClaims) : SigningKey where
  sign message := message
  accepts signature message := decide (signature = message ∧ ∃ claims ∈ minted, message = utf8 (signedText claims))

private theorem sample_accepts (minted : List CapabilityClaims) (signature message : List UInt8) :
    (SigningKey.sample minted).accepts signature message = true ↔
      signature = message ∧ ∃ claims ∈ minted, message = utf8 (signedText claims) :=
  decide_eq_true_iff

private theorem SigningKey.sample_unforgeable (minted : List CapabilityClaims) :
    (SigningKey.sample minted).Unforgeable {claims | claims ∈ minted} := by
  refine ⟨fun claims hclaims => ?_, fun signature message h => ?_⟩
  · exact (sample_accepts minted _ _).mpr ⟨rfl, claims, hclaims, rfl⟩
  · obtain ⟨-, claims, hclaims, hmessage⟩ := (sample_accepts minted _ _).mp h
    exact ⟨claims, hclaims, hmessage⟩

def sampleBinding : CapabilityClaims where
  organisationId := "org-1"
  runId := "run-1"
  agentId := "coordinator"
  tool := "provider.revokeCredential"
  connectionId := "connection-1"
  stage := .revoke
  fencingToken := 1
  requestDigest := "7f3a"
  actionDigest := "7f3a"
  expiresAt := 300
  nonce := "request-1"

/-- The claims of the sample come back a second before they expire. -/
theorem sampleBinding_verified :
    verify (SigningKey.sample [sampleBinding]).capabilities ((SigningKey.sample [sampleBinding]).mint sampleBinding)
      ⟨299000000, 0⟩ = .ok sampleBinding :=
  have hminted : sampleBinding ∈ {claims | claims ∈ [sampleBinding]} := List.mem_singleton_self _
  ((capabilities_verify (SigningKey.sample_unforgeable [sampleBinding])).1 sampleBinding hminted
    ⟨299000000, 0⟩ (Int.le_of_lt (by decide)) (by norm_num)).mpr (by norm_num [sampleBinding])

end

/-- One capability for two requests binds them in everything that it names: they differ at most in their ids. -/
theorem validateCapability_binds {hashing : Hashing} (hinjective : Function.Injective hashing.sha256)
    {run later : RotationRun} {claims : CapabilityClaims} {request other : ToolRequest}
    (h : validateCapability hashing request run claims = .ok ())
    (hother : validateCapability hashing other later claims = .ok ()) :
    request.organisationId = other.organisationId ∧ request.runId = other.runId ∧ request.agentId = other.agentId ∧
      request.tool = other.tool ∧ request.connectionId = other.connectionId ∧ run.stage = later.stage ∧
      request.fencingToken = other.fencingToken ∧
      (Json.obj request.payload).sortKeys = (Json.obj other.payload).sortKeys := by
  rw [validateCapability, raiseIf_ok, not_not] at h hother
  obtain ⟨horganisation, hrun, hagent, htool, hconnection, hstage, htoken, hdigest⟩ := h
  obtain ⟨horganisation', hrun', hagent', htool', hconnection', hstage', htoken', hdigest'⟩ := hother
  have hpayload := Json.text_injective (hinjective (hdigest.symm.trans hdigest'))
  refine ⟨Identifier.text_injective (horganisation.symm.trans horganisation'),
    Identifier.text_injective (hrun.symm.trans hrun'), Identifier.text_injective (hagent.symm.trans hagent'),
    Text.value_injective (htool.symm.trans htool'), Identifier.text_injective (hconnection.symm.trans hconnection'),
    hstage.symm.trans hstage', Int.ofNat_inj.mp (htoken.symm.trans htoken'), ?_⟩
  have hsorted (payload : List (String × Json)) (tool : String) :
      (Json.obj [("payload", .obj payload), ("tool", .str tool)]).sortKeys =
        .obj [("payload", (Json.obj payload).sortKeys), ("tool", .str tool)] := by
    have hordered : ("payload" : String) ≤ "tool" := by decide
    rw [Json.sortKeys, Json.sortFields, Json.sortFields, Json.sortFields, Json.sortKeys.eq_7, List.insertionSort_cons,
      List.insertionSort_cons, List.insertionSort_nil, List.orderedInsert_nil, List.orderedInsert_cons, if_pos hordered]
  rw [hsorted, hsorted, Json.obj.injEq] at hpayload
  exact congrArg Prod.snd (List.cons.inj hpayload).1

def sampleCall (id : Identifier) (payload : List (String × Json)) : ToolRequest where
  id := id
  organisationId := organisationOne
  runId := runOne
  agentId := coordinatorOne
  tool := ⟨"secretStore.getVersion", by decide⟩
  connectionId := connectionTwo
  payload := payload
  fencingToken := 1
  token_pos := Nat.one_pos

def sampleCallClaims : CapabilityClaims := { sampleBinding with
  agentId := "coordinator_one"
  tool := "secretStore.getVersion"
  connectionId := "connection-2"
  stage := .trigger
  requestDigest := requestDigest Hashing.sample "secretStore.getVersion"
    [("secret_resource", .str "key"), ("version", .str "2")] }

def sampleLaterRun : RotationRun :=
  { RotationRun.sample with updatedAt := ⟨5, 0⟩, revision := 1, accepted := RotationRun.sample.accepted }

/-- The sample claims bind one payload, in whatever order its keys stand. -/
theorem sampleCall_bound :
    (Json.obj [("version", .str "2"), ("secret_resource", .str "key")]).sortKeys =
      (Json.obj [("secret_resource", .str "key"), ("version", .str "2")]).sortKeys :=
  (validateCapability_binds Function.injective_id
    (show validateCapability Hashing.sample (sampleCall commandOne [("version", .str "2"), ("secret_resource", .str "key")])
        RotationRun.sample sampleCallClaims = .ok () from
      (raiseIf_ok _ _ _).mpr (not_not.mpr (by decide +kernel)))
    (show validateCapability Hashing.sample (sampleCall commandTwo [("secret_resource", .str "key"), ("version", .str "2")])
        sampleLaterRun sampleCallClaims = .ok () from
      (raiseIf_ok _ _ _).mpr (not_not.mpr (by decide +kernel)))).2.2.2.2.2.2.2

end Uumi.Broker
