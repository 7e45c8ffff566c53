import Uumi.Account.Storage

/-! The members of an organisation in every run: who may change whom, and when an administrator is left. -/
namespace Uumi.Account
open Uumi.Contracts Uumi.Core Uumi.Foundations

variable (texts : TextFunctions)

def createOrganisation (store : AccountStore) (id : Identifier) (identity : AuthenticatedIdentity) (name : String)
    (now : AwareDatetime) : Except Error AccountStore := do
  let value := strip name
  raiseIf (value = "") (.resourceConflict "organisation name cannot be empty")
  raiseIf (identity.email = none ∨ identity.emailVerified = false)
    (.resourceConflict "verify your email before creating an organisation")
  if h : 1 ≤ value.length ∧ value.length ≤ 120 then
    store.createOrganisation texts { id, name := ⟨value, h⟩, createdAt := now, updatedAt := now } identity now
  else .error (.validation "name should have between 1 and 120 characters")

/-- A call of `update_member`. -/
structure MemberCall where
  organisationId : Identifier
  identity : AuthenticatedIdentity
  memberId : String
  expectedRevision : Int
  role : MemberRole
  enabled : Bool

namespace MemberCall
variable (call : MemberCall)

def check : Except Error Unit :=
  raiseIf (call.memberId = principalId texts call.identity.subject)
    (.resourceConflict "change your own access from another administrator account")

def own : Identifier × String := (call.organisationId, call.identity.documentId texts)

def target : Identifier × String := (call.organisationId, removePrefix "principal_" call.memberId)

def commit (store : AccountStore) (now : AwareDatetime) : Except Error (PrincipalGrant × AccountStore) :=
  store.updateMember call.organisationId call.memberId call.expectedRevision call.role.role call.enabled now

/-- The caller is enabled and may write the team. -/
def HoldsTeamWrite (store : AccountStore) : Prop :=
  ∃ grant, store.principals (call.own texts) = some grant ∧ grant.enabled = true ∧ grant.Permits .teamWrite

end MemberCall

/-- The documents, and the calls of `update_member` that have been authorised and have not committed yet. -/
structure AccountPool (ι : Type) where
  store : AccountStore
  pending : ι → Option MemberCall

inductive AccountAction (ι : Type) where
  | create (id : Identifier) (identity : AuthenticatedIdentity) (name : String) (now : AwareDatetime)
  /-- Signing in, which accepts an invitation. -/
  | signIn (organisationId : Identifier) (identity : AuthenticatedIdentity) (now : AwareDatetime)
  | profile (organisationId : Identifier) (identity : AuthenticatedIdentity) (now : AwareDatetime)
  | updateProfile (organisationId : Identifier) (identity : AuthenticatedIdentity) (expectedRevision : Int)
      (displayName : String) (now : AwareDatetime)
  | invite (invitation : TeamInvitation)
  | cancelInvitation (organisationId : Identifier) (invitationId : String) (expectedRevision : Nat)
      (now : AwareDatetime)
  /-- A call of `update_member` arrives: `require`, and the check of the service. -/
  | authorise (who : ι) (call : MemberCall) (now : AwareDatetime)
  /-- The transaction of an authorised call. -/
  | commit (who : ι) (now : AwareDatetime)

namespace AccountPool
variable {ι : Type} [DecidableEq ι] (pool : AccountPool ι)

def initial : AccountPool ι := ⟨.empty, fun _ => none⟩

def after {α : Type} (result : Except Error (α × AccountStore)) : AccountPool ι :=
  match result with
  | .ok (_, store) => { pool with store }
  | .error _ => pool

def next : AccountAction ι → AccountPool ι
  | .create id identity name now => pool.after ((createOrganisation texts pool.store id identity name now).map ((), ·))
  | .signIn organisationId identity now => pool.after (pool.store.get texts organisationId identity now)
  | .profile organisationId identity now => pool.after (pool.store.syncIdentity texts organisationId identity now)
  | .updateProfile organisationId identity expectedRevision displayName now =>
    pool.after (pool.store.updateProfile texts organisationId identity expectedRevision displayName now)
  | .invite invitation => pool.after (pool.store.saveInvitation texts invitation)
  | .cancelInvitation organisationId invitationId expectedRevision now =>
    pool.after (pool.store.revokeInvitation texts organisationId invitationId expectedRevision now)
  | .authorise who call now =>
    match pool.store.get texts call.organisationId call.identity now with
    | .error _ => pool
    | .ok (grant, store) =>
      match (do requirePermission grant .teamWrite; call.check texts : Except Error Unit) with
      | .error _ => { pool with store }
      | .ok () => { store, pending := Function.update pool.pending who (some call) }
  | .commit who now =>
    match pool.pending who with
    | none => pool
    | some call => { pool.after (call.commit pool.store now) with pending := Function.update pool.pending who none }

def run (actions : List (AccountAction ι)) : AccountPool ι := actions.foldl (next texts) pool

/-- A commit is by a caller who still may write the team, and does not spell the caller's own document without the
prefix of a principal. -/
def Admissible : AccountAction ι → Prop
  | .commit who _ => ∀ call, pool.pending who = some call →
      call.memberId ≠ call.identity.documentId texts ∧ call.HoldsTeamWrite texts pool.store
  | _ => True

/-- Every action of a run is admissible where it happens. -/
def AdmissibleRun : AccountPool ι → List (AccountAction ι) → Prop
  | _, [] => True
  | pool, action :: actions => pool.Admissible texts action ∧ AdmissibleRun (pool.next texts action) actions

end AccountPool

/-- An organisation has an enabled administrator. -/
def HasAdministrator (store : AccountStore) (organisationId : Identifier) : Prop :=
  ∃ document grant, store.principals (organisationId, document) = some grant ∧ grant.enabled = true ∧
    .administrator ∈ grant.roles

/-- Every grant keeps its roles and stays enabled or not, and a new organisation has an administrator. -/
structure Keeps (before after : AccountStore) : Prop where
  grants : ∀ key grant, before.principals key = some grant →
    ∃ grant', after.principals key = some grant' ∧ grant'.roles = grant.roles ∧ grant'.enabled = grant.enabled
  founded : ∀ o, after.organisations o ≠ none → before.organisations o ≠ none ∨ HasAdministrator after o

section
variable {texts} {store after : AccountStore}

theorem Keeps.refl (store : AccountStore) : Keeps store store :=
  ⟨fun _ grant h => ⟨grant, h, rfl, rfl⟩, fun _ h => .inl h⟩

/-- An organisation keeps its administrator when every account keeps what it had. -/
theorem HasAdministrator.keeps {o : Identifier} (h : HasAdministrator store o) (keeps : Keeps store after) :
    HasAdministrator after o := by
  obtain ⟨document, grant, hgrant, henabled, hrole⟩ := h
  obtain ⟨grant', hgrant', hroles, henabled'⟩ := keeps.grants _ _ hgrant
  exact ⟨document, grant', hgrant', henabled'.trans henabled, hroles ▸ hrole⟩

private theorem rewritten_keeps (invitations : Collection (Identifier × String) TeamInvitation)
    {key : Identifier × String} {grant changed : PrincipalGrant} (h : store.principals key = some grant)
    (roles : changed.roles = grant.roles) (enabled : changed.enabled = grant.enabled) :
    Keeps store { store with principals := store.principals.set key changed, invitations } where
  grants := by
    intro other found hfound
    by_cases hkey : other = key
    · subst hkey
      rw [h] at hfound
      cases hfound
      exact ⟨changed, Collection.set_same .., roles, enabled⟩
    · exact ⟨found, (Collection.set_of_ne hkey).trans hfound, rfl, rfl⟩
  founded _ h := .inl h

private theorem added_keeps (invitations : Collection (Identifier × String) TeamInvitation)
    {key : Identifier × String} {grant : PrincipalGrant} (h : store.principals key = none) :
    Keeps store { store with principals := store.principals.set key grant, invitations } where
  grants := by
    intro other found hfound
    have hkey : other ≠ key := by
      rintro rfl
      rw [h] at hfound
      cases hfound
    exact ⟨found, (Collection.set_of_ne hkey).trans hfound, rfl, rfl⟩
  founded _ h := .inl h

private theorem invited_keeps (invitations : Collection (Identifier × String) TeamInvitation) :
    Keeps store { store with invitations } :=
  ⟨fun _ grant h => ⟨grant, h, rfl, rfl⟩, fun _ h => .inl h⟩

private theorem ownGrant_ok {identity : AuthenticatedIdentity} {stored grant : PrincipalGrant}
    (h : AccountStore.ownGrant identity stored = .ok grant) : grant = stored.modelValidate := by
  simp only [AccountStore.ownGrant, unit_bind_ok, raiseIf_ok, pure_ok] at h
  exact h.2.symm

private theorem create_keeps {id : Identifier} {identity : AuthenticatedIdentity} {name : String} {now : AwareDatetime}
    (h : createOrganisation texts store id identity name now = .ok after) : Keeps store after := by
  unfold createOrganisation at h
  simp only [unit_bind_ok, raiseIf_ok] at h
  obtain ⟨-, -, h⟩ := h
  split at h
  · simp only [AccountStore.createOrganisation, unit_bind_ok, absent_ok, pure_ok] at h
    obtain ⟨horganisation, hprincipal, rfl⟩ := h
    refine ⟨(added_keeps store.invitations hprincipal).grants, fun o ho => ?_⟩
    by_cases hid : o = id
    · subst hid
      exact .inr ⟨_, _, Collection.set_same .., rfl, Finset.mem_singleton_self _⟩
    · simp only [Collection.set_of_ne hid] at ho
      exact .inl ho
  · cases h

private theorem get_keeps {o : Identifier} {identity : AuthenticatedIdentity} {now : AwareDatetime}
    {result : Option PrincipalGrant} (h : store.get texts o identity now = .ok (result, after)) : Keeps store after := by
  unfold AccountStore.get at h
  split at h
  · simp only [bind_ok, pure_ok, Prod.mk.injEq] at h
    obtain ⟨_, -, -, rfl⟩ := h
    exact .refl _
  · rename_i hprincipal
    split at h
    · cases h
      exact .refl _
    · split at h
      · unfold AccountStore.activate at h
        obtain ⟨id, -, h⟩ := (bind_ok _ _ _).mp h
        dsimp only at h
        split at h
        · cases h
          exact .refl _
        · obtain ⟨invitation, -, h⟩ := (bind_ok _ _ _).mp h
          split at h
          · cases h
            exact .refl _
          · cases h
            exact added_keeps _ hprincipal
      · cases h
        exact .refl _

private theorem syncIdentity_keeps {o : Identifier} {identity : AuthenticatedIdentity} {now : AwareDatetime}
    {result : PrincipalGrant} (h : store.syncIdentity texts o identity now = .ok (result, after)) : Keeps store after := by
  unfold AccountStore.syncIdentity at h
  simp only [required_bind_ok] at h
  obtain ⟨stored, hstored, h⟩ := h
  obtain ⟨current, hcurrent, h⟩ := (bind_ok _ _ _).mp h
  obtain rfl := ownGrant_ok hcurrent
  split at h
  · cases h
    exact .refl _
  · cases h
    exact rewritten_keeps _ hstored rfl rfl

private theorem updateProfile_keeps {o : Identifier} {identity : AuthenticatedIdentity} {revision : Int} {name : String}
    {now : AwareDatetime} {result : PrincipalGrant}
    (h : store.updateProfile texts o identity revision name now = .ok (result, after)) : Keeps store after := by
  unfold AccountStore.updateProfile at h
  simp only [required_bind_ok] at h
  obtain ⟨stored, hstored, h⟩ := h
  obtain ⟨current, hcurrent, h⟩ := (bind_ok _ _ _).mp h
  obtain rfl := ownGrant_ok hcurrent
  simp only [unit_bind_ok, raiseIf_ok, pure_ok, Prod.mk.injEq] at h
  obtain ⟨-, -, rfl⟩ := h
  exact rewritten_keeps _ hstored rfl rfl

private theorem saveInvitation_keeps {invitation result : TeamInvitation}
    (h : store.saveInvitation texts invitation = .ok (result, after)) : Keeps store after := by
  unfold AccountStore.saveInvitation at h
  dsimp only at h
  split at h
  · cases h
    exact invited_keeps _
  · obtain ⟨current, -, h⟩ := (bind_ok _ _ _).mp h
    simp only [unit_bind_ok, pure_ok, Prod.mk.injEq] at h
    obtain ⟨-, -, rfl⟩ := h
    exact invited_keeps _

private theorem revokeInvitation_keeps {o : Identifier} {id : String} {revision : Nat} {now : AwareDatetime}
    {result : TeamInvitation} (h : store.revokeInvitation texts o id revision now = .ok (result, after)) :
    Keeps store after := by
  unfold AccountStore.revokeInvitation at h
  simp only [required_bind_ok] at h
  obtain ⟨stored, -, h⟩ := h
  obtain ⟨current, -, h⟩ := (bind_ok _ _ _).mp h
  simp only [unit_bind_ok, pure_ok, Prod.mk.injEq] at h
  obtain ⟨-, -, -, rfl⟩ := h
  exact invited_keeps _

/-- A call of `update_member` writes the grant of its target, and no other. -/
theorem commit_ok {call : MemberCall} {now : AwareDatetime} {result : PrincipalGrant}
    (h : call.commit store now = .ok (result, after)) :
    after.organisations = store.organisations ∧
      ∀ key, key ≠ call.target → after.principals key = store.principals key := by
  simp only [MemberCall.commit, AccountStore.updateMember, required_bind_ok, unit_bind_ok, pure_ok, Prod.mk.injEq] at h
  obtain ⟨stored, -, -, -, rfl⟩ := h
  exact ⟨rfl, fun key hkey => Collection.set_of_ne hkey⟩

end

/-- The organisations have administrators, and a pending call has passed the check of the service. -/
structure Administered {ι : Type} (pool : AccountPool ι) : Prop where
  administrators : ∀ o, pool.store.organisations o ≠ none → HasAdministrator pool.store o
  checked : ∀ who call, pool.pending who = some call → call.memberId ≠ principalId texts call.identity.subject

section
variable {texts} {ι : Type} [DecidableEq ι] {pool : AccountPool ι}

/-- The own document of a caller is the target only when it is spelled without the prefix. -/
theorem target_ne_own {call : MemberCall} (checked : call.memberId ≠ principalId texts call.identity.subject)
    (prefixed : call.memberId ≠ call.identity.documentId texts) : call.own texts ≠ call.target := by
  intro h
  have hid : call.identity.documentId texts = removePrefix "principal_" call.memberId := congrArg Prod.snd h
  unfold removePrefix at hid
  split at hid
  · rename_i hprefix
    obtain ⟨rest, hrest⟩ := List.isPrefixOf_iff_prefix.mp hprefix
    apply checked
    apply String.toList_injective
    rw [principalId, String.toList_append, ← hrest, List.append_cancel_left_eq]
    have hdrop : call.memberId.toList.drop "principal_".length = rest := by
      rw [← hrest]
      rfl
    rw [hdrop] at hid
    change _ = (call.identity.documentId texts).toList
    rw [hid, String.toList_ofList]
  · exact prefixed hid.symm

/-- An admissible commit keeps the caller's grant and leaves an administrator. -/
theorem commit_administered {call : MemberCall} {now : AwareDatetime} {result : PrincipalGrant} {store after : AccountStore}
    (administrators : ∀ o, store.organisations o ≠ none → HasAdministrator store o)
    (apart : call.own texts ≠ call.target) (holds : call.HoldsTeamWrite texts store)
    (h : call.commit store now = .ok (result, after)) :
    after.principals (call.own texts) = store.principals (call.own texts) ∧
      ∀ o, after.organisations o ≠ none → HasAdministrator after o := by
  obtain ⟨horganisations, hothers⟩ := commit_ok h
  refine ⟨hothers _ apart, fun o ho => ?_⟩
  by_cases hown : o = call.organisationId
  · subst hown
    obtain ⟨grant, hgrant, henabled, hpermits⟩ := holds
    refine ⟨call.identity.documentId texts, grant, ?_, henabled, (permits_teamWrite grant).mp hpermits⟩
    exact (hothers _ apart).trans hgrant
  · rw [horganisations] at ho
    obtain ⟨document, grant, hgrant, hrest⟩ := administrators o ho
    refine ⟨document, grant, ?_, hrest⟩
    rw [hothers _ fun h => hown (congrArg Prod.fst h), hgrant]

omit [DecidableEq ι] in
private theorem after_administered {α : Type} (result : Except Error (α × AccountStore))
    (administered : Administered texts pool) (keeps : ∀ value store, result = .ok (value, store) → Keeps pool.store store) :
    Administered texts (pool.after result) := by
  cases result with
  | error e => exact administered
  | ok value =>
    have hkeeps := keeps value.1 value.2 rfl
    refine ⟨fun o ho => ?_, administered.checked⟩
    rcases hkeeps.founded o ho with ho | ho
    · exact (administered.administrators o ho).keeps hkeeps
    · exact ho

/-- Every admissible action keeps the organisations administered. -/
theorem next_administered {action : AccountAction ι} (administered : Administered texts pool)
    (admissible : pool.Admissible texts action) : Administered texts (pool.next texts action) := by
  cases action with
  | create id identity name now =>
    refine after_administered _ administered fun value store h => ?_
    cases hcreate : createOrganisation texts pool.store id identity name now with
    | error e =>
      rw [hcreate] at h
      cases h
    | ok created =>
      rw [hcreate] at h
      cases h
      exact create_keeps hcreate
  | signIn o identity now => exact after_administered _ administered fun _ _ => get_keeps
  | profile o identity now => exact after_administered _ administered fun _ _ => syncIdentity_keeps
  | updateProfile o identity revision name now =>
    exact after_administered _ administered fun _ _ => updateProfile_keeps
  | invite invitation => exact after_administered _ administered fun _ _ => saveInvitation_keeps
  | cancelInvitation o id revision now => exact after_administered _ administered fun _ _ => revokeInvitation_keeps
  | authorise who call now =>
    simp only [AccountPool.next]
    split
    · exact administered
    · rename_i grant store hget
      have hafter := after_administered (pool.store.get texts call.organisationId call.identity now)
        administered fun _ _ => get_keeps
      rw [hget] at hafter
      split
      · exact hafter
      · rename_i hchecks
        refine ⟨hafter.administrators, fun other c hc => ?_⟩
        by_cases hwho : other = who
        · subst hwho
          simp only [Function.update_self] at hc
          cases hc
          simp only [unit_bind_ok, MemberCall.check, raiseIf_ok] at hchecks
          exact hchecks.2
        · simp only [Function.update_of_ne hwho] at hc
          exact administered.checked other c hc
  | commit who now =>
    simp only [AccountPool.next]
    cases hpending : pool.pending who with
    | none => exact administered
    | some call =>
      have hchecked : ∀ other c, Function.update pool.pending who none other = some c →
          c.memberId ≠ principalId texts c.identity.subject := by
        intro other c hc
        by_cases hwho : other = who
        · subst hwho
          simp only [Function.update_self] at hc
          cases hc
        · simp only [Function.update_of_ne hwho] at hc
          exact administered.checked other c hc
      obtain ⟨hprefixed, hholds⟩ := admissible call hpending
      have hapart := target_ne_own (administered.checked who call hpending) hprefixed
      have hstore : ∀ o, (pool.after (call.commit pool.store now)).store.organisations o ≠ none →
          HasAdministrator (pool.after (call.commit pool.store now)).store o := by
        cases hcommit : call.commit pool.store now with
        | error e => exact administered.administrators
        | ok value => exact (commit_administered administered.administrators hapart hholds hcommit).2
      exact ⟨hstore, hchecked⟩

omit [DecidableEq ι] in
private theorem initial_administered : Administered texts (AccountPool.initial (ι := ι)) :=
  ⟨fun _ h => absurd rfl h, nofun⟩

private theorem run_administered {actions : List (AccountAction ι)} (administered : Administered texts pool)
    (admissible : pool.AdmissibleRun texts actions) : Administered texts (pool.run texts actions) := by
  induction actions generalizing pool with
  | nil => exact administered
  | cons action actions ih => exact ih (next_administered administered admissible.1) admissible.2

/-- The actions before another one, and that one, are as admissible as the whole run. -/
theorem AccountPool.AdmissibleRun.split {before after : List (AccountAction ι)} {action : AccountAction ι}
    (admissible : pool.AdmissibleRun texts (before ++ action :: after)) :
    pool.AdmissibleRun texts before ∧ (pool.run texts before).Admissible texts action := by
  induction before generalizing pool with
  | nil => exact ⟨trivial, admissible.1⟩
  | cons first before ih =>
    obtain ⟨hbefore, haction⟩ := ih admissible.2
    exact ⟨⟨admissible.1, hbefore⟩, haction⟩

/-- While every call of `update_member` commits with the caller still authorised and with a target that is not the
caller's own document under its short name, an organisation keeps an enabled administrator and no call changes the
grant of its own caller. -/
theorem administrators_kept (actions : List (AccountAction ι))
    (admissible : AccountPool.initial.AdmissibleRun texts actions) :
    (∀ o, (AccountPool.initial.run texts actions).store.organisations o ≠ none →
      HasAdministrator (AccountPool.initial.run texts actions).store o) ∧
    ∀ before who now after call, actions = before ++ .commit who now :: after →
      (AccountPool.initial.run texts before).pending who = some call →
      (AccountPool.initial.run texts (before ++ [.commit who now])).store.principals (call.own texts) =
        (AccountPool.initial.run texts before).store.principals (call.own texts) := by
  refine ⟨(run_administered initial_administered admissible).administrators, ?_⟩
  rintro before who now after call rfl hpending
  obtain ⟨hbefore, hcommits⟩ := admissible.split
  have administered := run_administered initial_administered hbefore
  obtain ⟨hprefixed, hholds⟩ := hcommits call hpending
  have hapart := target_ne_own (administered.checked who call hpending) hprefixed
  have hrun : (AccountPool.initial.run texts (before ++ [.commit who now])) =
      (AccountPool.initial.run texts before).next texts (.commit who now) := List.foldl_concat ..
  rw [hrun]
  simp only [AccountPool.next, hpending]
  generalize AccountPool.initial.run texts before = pool at *
  cases hcommit : call.commit pool.store now with
  | error e => rfl
  | ok value => exact (commit_administered administered.administrators hapart hholds hcommit).1

end

def sampleTexts : TextFunctions where
  sha256 text :=
    if text = "auth0|1" then "b03e5d4509cd37476db38fb76f9b5b3ca8de1e6976d6b7ae5f7f9bc5664c7d0d"
    else if text = "google-oauth2|1" then "c15eb4bee7561c51b9eca25b98ed35405d9b2bad2a777d0db676f26244283d48"
    else "5ff860bf1190596c7188ab851db691f0f3169c453936e9e1eba2f9a47f7a0018"
  lower := id

def sampleAlice : AuthenticatedIdentity where
  subject := "auth0|1"
  email := some "alice@example.com"
  emailVerified := true
  displayName := none
  connectedVia := "Identity provider"

def sampleBob : AuthenticatedIdentity where
  subject := "google-oauth2|1"
  email := some "bob@example.com"
  emailVerified := true
  displayName := none
  connectedVia := "Identity provider"

def sampleTeam : Identifier := accountOne

def aliceDocument : String := "b03e5d4509cd37476db38fb76f9b5b3ca8de1e6976d6b7ae5f7f9bc5664c7d0d"

def bobDocument : String := "c15eb4bee7561c51b9eca25b98ed35405d9b2bad2a777d0db676f26244283d48"

def aliceGrant : PrincipalGrant where
  subject := "auth0|1"
  roles := {.administrator}
  email := some "alice@example.com"
  connectedVia := some "Identity provider"
  createdAt := some ⟨0, 0⟩
  updatedAt := some ⟨0, 0⟩

def bobGrant : PrincipalGrant where
  subject := "google-oauth2|1"
  roles := {.administrator}
  email := some "bob@example.com"
  connectedVia := some "Identity provider"
  createdAt := some ⟨2, 0⟩
  updatedAt := some ⟨2, 0⟩

def disabled (grant : PrincipalGrant) (now : AwareDatetime) : PrincipalGrant :=
  { grant with roles := {.viewer}, enabled := false, updatedAt := some now, revision := 1 }

def disables (identity : AuthenticatedIdentity) (memberId : String) : MemberCall :=
  { organisationId := sampleTeam, identity, memberId, expectedRevision := 0, role := .viewer, enabled := false }

def bobInvitation : TeamInvitation where
  id := ⟨"invitation_5ff860bf1190596c7188ab851db691f0", by decide⟩
  organisationId := sampleTeam
  email := "bob@example.com"
  role := .administrator
  invitedBy := ⟨"actor_b03e5d4509cd37476db38fb76f9b5b3c", by decide⟩
  expiresAt := ⟨100, 0⟩
  createdAt := ⟨1, 0⟩
  updatedAt := ⟨1, 0⟩

def shortNameRun : List (AccountAction ℕ) :=
  [.create sampleTeam sampleAlice "Example" ⟨0, 0⟩, .authorise 0 (disables sampleAlice aliceDocument) ⟨1, 0⟩,
    .commit 0 ⟨2, 0⟩]

def joinedRun : List (AccountAction ℕ) :=
  [.create sampleTeam sampleAlice "Example" ⟨0, 0⟩, .invite bobInvitation, .signIn sampleTeam sampleBob ⟨2, 0⟩]

def racingRun : List (AccountAction ℕ) :=
  joinedRun ++ [.authorise 0 (disables sampleAlice ("principal_" ++ bobDocument)) ⟨3, 0⟩,
    .authorise 1 (disables sampleBob ("principal_" ++ aliceDocument)) ⟨3, 0⟩, .commit 0 ⟨4, 0⟩, .commit 1 ⟨5, 0⟩]

/-- Grants that are disabled are of no administrator. -/
theorem no_administrator {principals : Collection (Identifier × String) PrincipalGrant} {store : AccountStore}
    {o : Identifier} (h : store.principals = principals)
    (disabled : ∀ key grant, principals key = some grant → grant.enabled = false) : ¬ HasAdministrator store o := by
  rintro ⟨document, grant, hgrant, henabled, -⟩
  rw [h] at hgrant
  rw [disabled _ _ hgrant] at henabled
  cases henabled

/-- An organisation loses its last administrator: to itself, and to two that disable each other. -/
theorem administrators_lost :
    ((AccountPool.initial.run sampleTexts shortNameRun).store.organisations sampleTeam ≠ none ∧
      ¬ HasAdministrator (AccountPool.initial.run sampleTexts shortNameRun).store sampleTeam) ∧
    (AccountPool.initial.run sampleTexts racingRun).store.organisations sampleTeam ≠ none ∧
      ¬ HasAdministrator (AccountPool.initial.run sampleTexts racingRun).store sampleTeam := by
  have hshort : (AccountPool.initial.run sampleTexts shortNameRun).store.principals =
      (Collection.empty.set (sampleTeam, aliceDocument) aliceGrant).set (sampleTeam, aliceDocument)
        (disabled aliceGrant ⟨2, 0⟩) := rfl
  have hracing : (AccountPool.initial.run sampleTexts racingRun).store.principals =
      (((Collection.empty.set (sampleTeam, aliceDocument) aliceGrant).set (sampleTeam, bobDocument) bobGrant).set
        (sampleTeam, bobDocument) (disabled bobGrant ⟨4, 0⟩)).set (sampleTeam, aliceDocument)
        (disabled aliceGrant ⟨5, 0⟩) := rfl
  refine ⟨⟨by decide +kernel, no_administrator hshort fun key grant h => ?_⟩, by decide +kernel,
    no_administrator hracing fun key grant h => ?_⟩
  · rw [Collection.set_set] at h
    rcases Collection.set_eq_some.mp h with ⟨-, rfl⟩ | ⟨-, h⟩
    · rfl
    · cases h
  · rw [Collection.set_set] at h
    rcases Collection.set_eq_some.mp h with ⟨-, rfl⟩ | ⟨halice, h⟩
    · rfl
    · rcases Collection.set_eq_some.mp h with ⟨-, rfl⟩ | ⟨-, h⟩
      · rfl
      · rw [Collection.set_of_ne halice] at h
        cases h

/-- After one administrator disabled the other under its full name, an administrator is left. -/
theorem joined_administrator :
    HasAdministrator (AccountPool.initial.run sampleTexts (joinedRun ++
      [.authorise 0 (disables sampleAlice ("principal_" ++ bobDocument)) ⟨3, 0⟩, .commit 0 ⟨4, 0⟩])).store sampleTeam := by
  refine (administrators_kept _ ?_).1 sampleTeam (by decide +kernel)
  refine ⟨trivial, trivial, trivial, trivial, fun call hcall => ?_, trivial⟩
  obtain rfl : disables sampleAlice ("principal_" ++ bobDocument) = call := Option.some.inj hcall
  refine ⟨by decide +kernel, aliceGrant, rfl, rfl, ?_⟩
  exact (permits_teamWrite aliceGrant).mpr (Finset.mem_singleton_self _)

end Uumi.Account
