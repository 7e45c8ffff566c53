import Uumi.Connectors.Http

/-! What a creation reports, against the keys that it leaves at the provider. -/
namespace Uumi.Connectors.Http
open Uumi.Broker Uumi.Contracts Uumi.Core Uumi.Foundations
open Uumi.Foundations.Program (lift)

/-- A key of a provider, with its secret. -/
structure Key where
  id : String
  secret : String

/-- A provider: how it handles a request, the key that a request creates there, and the keys that are alive. -/
structure Provider (σ : Type) where
  handle : σ → HttpRequest → HttpAnswer × σ
  created : σ → HttpRequest → Option Key
  alive : σ → String → Prop

def Provider.server {σ : Type} (provider : Provider σ) : Program.Server HttpRequest (fun _ => HttpAnswer) Error σ :=
  fun s request => (.ok (provider.handle s request).1, (provider.handle s request).2)

section
variable {σ : Type} (library : Library) (api : ProviderApi) (payload : Item) (headers : List (String × String))
  (provider : Provider σ)

private theorem served_call (operation : Operation) (payload : Item) (s : σ) :
    (callOperation library api operation headers payload).served provider.server s =
      match httpRequest library api operation headers payload with
      | .error e => (.error e, s)
      | .ok request => (.ok (provider.handle s request).1, (provider.handle s request).2) := by
  rw [callOperation, Program.served_bind, Program.served_lift]
  cases httpRequest library api operation headers payload <;> rfl

private theorem served_list (s : σ) :
    (list library api headers).served provider.server s =
      match httpRequest library api api.listCredentials headers [] with
      | .error e => (.error e, s)
      | .ok request => (listed api.listCredentials (provider.handle s request).1, (provider.handle s request).2) := by
  rw [list, Program.served_bind, served_call]
  cases httpRequest library api api.listCredentials headers [] <;> rfl

/-- A creation sends its request, to a provider that has listed its keys. -/
structure Sends (s : σ) (name : String) (items : List Item) (t : σ) (request : HttpRequest) : Prop where
  name : stringOf payload "name" = .ok name
  listed : (list library api headers).served provider.server s = (.ok items, t)
  request : httpRequest library api api.createCredential headers payload = .ok request

/-- The key that a creation makes. -/
def Makes (s : σ) (key : Key) : Prop :=
  ∃ name items t request, Sends library api payload headers provider s name items t request ∧
    provider.created t request = some key

/-- A report of a creation: the key that it made, an open outcome, or an error that leaves no key behind. -/
def Truthful (s : σ) : Except Error ConnectorResponse × σ → Prop
  | (.ok response, _) => ∃ key, Makes library api payload headers provider s key ∧
      response.result.lookup "provider_id" = some (.str key.id) ∧ response.secret = some key.secret
  | (.error (.ambiguousMutation _), _) => True
  | (.error _, t) => ∀ key, Makes library api payload headers provider s key → ¬ provider.alive t key.id

/-- The provider accepts that a key is revoked, or knows of no such key. -/
def AcceptsRevocation (s : σ) (id : String) : Prop :=
  ∃ request reply, httpRequest library api api.revokeCredential headers [("provider_id", .str id)] = .ok request ∧
    (provider.handle s request).1 = .reply reply ∧ reply.status ∈ 404 :: api.revokeCredential.successStatuses

/-- The provider answers the calls of a reconciliation. -/
def Reconciles (name : String) (before : List String) (s : σ) : Prop :=
  ∃ request after, httpRequest library api api.listCredentials headers [] = .ok request ∧
    listed api.listCredentials (provider.handle s request).1 = .ok after ∧
    ∀ orphan id, orphanCandidates api library.display after name before = [orphan] →
      textUnder (idKey api) orphan = some id →
      AcceptsRevocation library api headers provider (provider.handle s request).2 id

/-- The answer to a creation tells the key that it made, or the reconciliation of a timeout is answered, or no key is
left. -/
def Resolved (s : σ) : Prop :=
  ∀ name items t request, Sends library api payload headers provider s name items t request →
    match provider.handle t request with
    | (.timedOut, u) =>
        Reconciles library api headers provider name (idsBefore api items) u ∨
          ∀ key ∈ provider.created t request, ¬ provider.alive
            ((reconcileAmbiguous library api name (idsBefore api items) headers).served provider.server u).2 key.id
    | (.failed _, u) => ∀ key ∈ provider.created t request, ¬ provider.alive u key.id
    | (.reply reply, u) =>
        match createdKey api.createCredential reply with
        | .ok (id, secret) => provider.created t request = some ⟨id, secret⟩
        | .error _ => ∀ key ∈ provider.created t request, ¬ provider.alive u key.id

end

/-- An outcome that is no open one. -/
def Clean {α : Type} (outcome : Except Error α) : Prop := ∀ message, outcome ≠ .error (.ambiguousMutation message)

section
variable {α β : Type}

private theorem clean_ok (a : α) : Clean (.ok a) := fun _ => nofun

/-- The error of a clean outcome is clean in any other place. -/
theorem clean_error {outcome : Except Error α} {e : Error} (clean : Clean outcome) (failed : outcome = .error e) :
    Clean (.error e : Except Error β) := by
  intro message same
  exact clean message (failed.trans (by rw [Except.error.inj same]))

private theorem clean_bind {first : Except Error α} {next : α → Except Error β} (left : Clean first)
    (right : ∀ a, Clean (next a)) : Clean (first >>= next) := by
  intro message open'
  rcases (bind_error _ _ _).mp open' with failed | ⟨a, -, failed⟩
  · exact left message failed
  · exact right a message failed

private theorem clean_raiseIf {c : Prop} [Decidable c] {e : Error} (other : ∀ message, e ≠ .ambiguousMutation message) :
    Clean (raiseIf c e) := by
  intro message open'
  exact other message ((raiseIf_error _ _ _).mp open').2

private theorem clean_required {value : Option α} {e : Error} (other : ∀ message, e ≠ .ambiguousMutation message) :
    Clean (required value e) := by
  intro message open'
  exact other message ((required_error _ _ _).mp open').2

private theorem stringOf_clean (payload : Item) (key : String) : Clean (stringOf payload key) := by
  intro message
  unfold stringOf
  split
  · split <;> exact nofun
  · exact nofun

private theorem received_clean (answer : HttpAnswer) : Clean answer.received := by
  intro message
  cases answer <;> exact nofun

private theorem expected_clean (reply : HttpReply) (statuses : List Nat) : Clean (expected reply statuses) :=
  clean_raiseIf fun _ => nofun

private theorem renderRest_clean (library : Library) (payload : Item) (name : Option (List Char)) (path : List Char) :
    Clean (renderRest library payload name path) := by
  induction path generalizing name with
  | nil => cases name <;> exact clean_ok _
  | cons c path ih =>
    cases name with
    | none =>
      rw [renderRest]
      split
      · exact ih _
      · exact clean_bind (ih _) fun _ => clean_ok _
    | some name =>
      rw [renderRest]
      split
      · apply clean_bind
        · exact clean_bind (stringOf_clean payload _) fun _ => clean_ok _
        · exact fun _ => clean_bind (ih _) fun _ => clean_ok _
      · split
        · exact ih _
        · split <;> exact clean_bind (ih _) fun _ => clean_ok _

private theorem httpRequest_clean (library : Library) (api : ProviderApi) (operation : Operation)
    (headers : List (String × String)) (payload : Item) : Clean (httpRequest library api operation headers payload) := by
  apply clean_bind
  · exact clean_bind (renderRest_clean library payload _ _) fun _ => clean_ok _
  · intro path
    apply clean_bind
    · exact clean_bind (clean_raiseIf fun _ => nofun) fun _ => clean_ok _
    · exact fun _ => clean_ok _

private theorem listed_clean (operation : Operation) (answer : HttpAnswer) : Clean (listed operation answer) := by
  apply clean_bind (received_clean answer)
  intro reply
  apply clean_bind (expected_clean reply _)
  intro _
  apply clean_bind
  · exact clean_required fun _ => nofun
  · exact fun _ => clean_required fun _ => nofun

private theorem createdKey_clean (operation : Operation) (reply : HttpReply) : Clean (createdKey operation reply) := by
  apply clean_bind (expected_clean reply _)
  intro _
  apply clean_bind
  · exact clean_required fun _ => nofun
  intro value
  apply clean_bind
  · exact clean_required fun _ => nofun
  intro fields
  dsimp only
  split
  · apply clean_bind
    · exact clean_required fun _ => nofun
    · intro id
      apply clean_bind
      · exact clean_required fun _ => nofun
      · exact fun _ => clean_ok _
  · exact fun _ => nofun

end

section
variable {σ : Type} {library : Library} {api : ProviderApi} {payload : Item} {headers : List (String × String)}
  {provider : Provider σ} {s t u : σ} {name : String} {items : List Item} {request : HttpRequest}

/-- The outcome of a creation, from the answer to its request. -/
theorem served_create (sends : Sends library api payload headers provider s name items t request) :
    (create library api payload headers).served provider.server s =
      match provider.handle t request with
      | (.timedOut, u) =>
          match (reconcileAmbiguous library api name (idsBefore api items) headers).served provider.server u with
          | (.ok _, v) => (.error (.ambiguousMutation "provider create timed out and was reconciled"), v)
          | (.error e, v) => (.error e, v)
      | (.failed message, u) => (.error (.runtime message), u)
      | (.reply reply, u) =>
          match createdKey api.createCredential reply with
          | .ok (id, secret) => (.ok {
              result := [("provider_id", .str id), ("name", .str name), ("scopes", scopesOf payload)]
              secret := some secret }, u)
          | .error e => (.error e, u) := by
  rw [create, Program.served_bind, Program.served_lift, sends.name]
  dsimp only
  rw [Program.served_bind, sends.listed]
  dsimp only
  rw [Program.served_bind, served_call, sends.request]
  dsimp only
  obtain ⟨answer, u⟩ := provider.handle t request
  cases answer with
  | timedOut =>
    dsimp only
    rw [Program.served_bind]
    generalize (reconcileAmbiguous library api name (idsBefore api items) headers).served provider.server u = reconciled
    obtain ⟨outcome, v⟩ := reconciled
    cases outcome <;> rfl
  | failed message => rfl
  | reply reply =>
    dsimp only
    rw [Program.served_bind, Program.served_lift, HttpAnswer.received]
    dsimp only
    rw [Program.served_bind, Program.served_lift]
    cases createdKey api.createCredential reply <;> rfl

/-- A creation that sends no request ends with an error. -/
theorem create_unsent (unsent : ∀ name items t request,
    ¬ Sends library api payload headers provider s name items t request) :
    ∃ e t, (create library api payload headers).served provider.server s = (.error e, t) := by
  rw [create, Program.served_bind, Program.served_lift]
  cases named : stringOf payload "name" with
  | error e => exact ⟨e, s, rfl⟩
  | ok name =>
    dsimp only
    rw [Program.served_bind]
    generalize lists : (list library api headers).served provider.server s = listed
    obtain ⟨outcome, t⟩ := listed
    cases outcome with
    | error e => exact ⟨e, t, rfl⟩
    | ok items =>
      dsimp only
      rw [Program.served_bind, served_call]
      cases sent : httpRequest library api api.createCredential headers payload with
      | error e => exact ⟨e, t, rfl⟩
      | ok request => exact absurd ⟨named, lists, sent⟩ (unsent name items t request)

/-- A revocation succeeds where the provider accepts it, and else ends with a clean error. -/
theorem served_revokeFound (id : String) :
    ((revokeFound library api headers id).served provider.server s).1 = .ok () ↔
      AcceptsRevocation library api headers provider s id := by
  rw [revokeFound, Program.served_bind, served_call]
  cases sent : httpRequest library api api.revokeCredential headers [("provider_id", .str id)] with
  | error e =>
    refine ⟨nofun, ?_⟩
    rintro ⟨request, reply, sent', -⟩
    rw [sent] at sent'
    cases sent'
  | ok request =>
    dsimp only
    rw [Program.served_bind, Program.served_lift]
    cases answer : (provider.handle s request).1 with
    | reply reply =>
      rw [HttpAnswer.received]
      dsimp only
      rw [Program.served_lift]
      dsimp only
      rw [expected, raiseIf_ok, not_not]
      constructor
      · intro accepted
        exact ⟨request, reply, sent, answer, accepted⟩
      · rintro ⟨request', reply', sent', answer', accepted⟩
        obtain rfl := Except.ok.inj (sent.symm.trans sent')
        obtain rfl := HttpAnswer.reply.inj (answer.symm.trans answer')
        exact accepted
    | timedOut | failed =>
      refine ⟨nofun, ?_⟩
      rintro ⟨request', reply', sent', answer', -⟩
      obtain rfl := Except.ok.inj (sent.symm.trans sent')
      rw [answer] at answer'
      cases answer'

private theorem revokeFound_clean (id : String) : Clean ((revokeFound library api headers id).served provider.server s).1 := by
  rw [revokeFound, Program.served_bind, served_call]
  cases sent : httpRequest library api api.revokeCredential headers [("provider_id", .str id)] with
  | error e => exact clean_error (httpRequest_clean library api _ headers _) sent
  | ok request =>
    dsimp only
    rw [Program.served_bind, Program.served_lift]
    cases received : (provider.handle s request).1.received with
    | error e => exact clean_error (received_clean _) received
    | ok reply => exact expected_clean reply _

def Open {α : Type} (outcome : Except Error α) : Prop := ∀ e, outcome = .error e → ∃ message, e = .ambiguousMutation message

private theorem not_open_of_clean {α : Type} {e : Error} (clean : Clean (.error e : Except Error α)) :
    ¬ Open (.error e : Except Error α) := by
  intro open'
  obtain ⟨message, same⟩ := open' e rfl
  exact clean message (same ▸ rfl)

/-- A reconciliation leaves the outcome open where its calls are answered, and only there. -/
theorem served_reconcile (name : String) (before : List String) :
    Open ((reconcileAmbiguous library api name before headers).served provider.server s).1 ↔
      Reconciles library api headers provider name before s := by
  rw [reconcileAmbiguous, Program.served_bind, served_list]
  cases sent : httpRequest library api api.listCredentials headers [] with
  | error e =>
    refine iff_of_false (not_open_of_clean (clean_error (httpRequest_clean library api _ headers _) sent)) ?_
    rintro ⟨request, after, sent', -⟩
    rw [sent] at sent'
    cases sent'
  | ok request =>
    dsimp only
    cases lists : listed api.listCredentials (provider.handle s request).1 with
    | error e =>
      refine iff_of_false (not_open_of_clean (clean_error (listed_clean _ _) lists)) ?_
      rintro ⟨request', after, sent', lists', -⟩
      obtain rfl := Except.ok.inj (sent.symm.trans sent')
      rw [lists] at lists'
      cases lists'
    | ok after =>
      have reconciles : Reconciles library api headers provider name before s ↔
          ∀ orphan id, orphanCandidates api library.display after name before = [orphan] →
            textUnder (idKey api) orphan = some id →
            AcceptsRevocation library api headers provider (provider.handle s request).2 id := by
        constructor
        · rintro ⟨request', after', sent', lists', accepts⟩
          obtain rfl := Except.ok.inj (sent.symm.trans sent')
          obtain rfl := Except.ok.inj (lists.symm.trans lists')
          exact accepts
        · intro accepts
          exact ⟨request, after, sent, lists, accepts⟩
      rw [reconciles]
      dsimp only
      split
      case h_1 orphan single =>
        rw [Program.served_bind, Program.served_lift]
        cases found : textUnder (idKey api) orphan with
        | none =>
          refine iff_of_true ?_ ?_
          · intro e failed
            exact ⟨_, (Except.error.inj failed).symm⟩
          · intro other id same reads
            obtain rfl := (List.cons.inj (single.symm.trans same)).1
            rw [found] at reads
            cases reads
        | some id =>
          rw [required]
          dsimp only
          constructor
          · intro open' other id' same reads
            obtain rfl := (List.cons.inj (single.symm.trans same)).1
            obtain rfl := Option.some.inj (found.symm.trans reads)
            rw [← served_revokeFound]
            cases outcome :
                ((revokeFound library api headers id).served provider.server (provider.handle s request).2).1 with
            | ok => rfl
            | error e =>
              rw [outcome] at open'
              exact absurd open' (not_open_of_clean (clean_error (revokeFound_clean id) outcome))
          · intro accepts e failed
            rw [(served_revokeFound id).mpr (accepts orphan id single found)] at failed
            cases failed
      case h_2 several =>
        refine iff_of_true ?_ ?_
        · intro e failed
          exact ⟨_, (Except.error.inj failed).symm⟩
        · intro orphan id single
          exact absurd single (several orphan)

private theorem makes_iff (sends : Sends library api payload headers provider s name items t request) (key : Key) :
    Makes library api payload headers provider s key ↔ provider.created t request = some key := by
  constructor
  · rintro ⟨name', items', t', request', sends', made⟩
    obtain ⟨-, rfl⟩ := Prod.mk.inj (sends.listed.symm.trans sends'.listed)
    obtain rfl := Except.ok.inj (sends.request.symm.trans sends'.request)
    exact made
  · intro made
    exact ⟨name, items, t, request, sends, made⟩

private theorem truthful_clean {e : Error} (clean : Clean (.error e : Except Error ConnectorResponse)) :
    Truthful library api payload headers provider s (.error e, u) ↔
      ∀ key, Makes library api payload headers provider s key → ¬ provider.alive u key.id := by
  cases e with
  | ambiguousMutation message => exact absurd rfl (clean message)
  | _ => exact Iff.rfl

/-- A creation reports the key that it made, an open outcome, or an error that leaves no key behind, exactly when its
request is not sent, or the answer to it or to its reconciliation settles what became of the key, or no key is left. -/
theorem creation_truthful_iff (library : Library) (api : ProviderApi) (payload : Item)
    (headers : List (String × String)) (provider : Provider σ) (s : σ) :
    Truthful library api payload headers provider s ((create library api payload headers).served provider.server s) ↔
      Resolved library api payload headers provider s := by
  by_cases sent : ∃ name items t request, Sends library api payload headers provider s name items t request
  · obtain ⟨name, items, t, request, sends⟩ := sent
    have resolved : Resolved library api payload headers provider s ↔ _ :=
      ⟨fun resolved => resolved name items t request sends, fun settled name' items' t' request' sends' => by
        obtain rfl := Except.ok.inj (sends.name.symm.trans sends'.name)
        obtain ⟨same, rfl⟩ := Prod.mk.inj (sends.listed.symm.trans sends'.listed)
        obtain rfl := Except.ok.inj same
        obtain rfl := Except.ok.inj (sends.request.symm.trans sends'.request)
        exact settled⟩
    rw [resolved, served_create sends]
    obtain ⟨answer, u⟩ := provider.handle t request
    cases answer with
    | timedOut =>
      dsimp only
      rw [← served_reconcile]
      generalize (reconcileAmbiguous library api name (idsBefore api items) headers).served provider.server u = reconciled
      obtain ⟨outcome, v⟩ := reconciled
      cases outcome with
      | ok => exact iff_of_true trivial (.inl fun _ => nofun)
      | error e =>
        by_cases ambiguous : ∃ message, e = .ambiguousMutation message
        · obtain ⟨message, rfl⟩ := ambiguous
          refine iff_of_true trivial (.inl fun e failed => ⟨message, (Except.error.inj failed).symm⟩)
        · have clean : ∀ {α : Type}, Clean (.error e : Except Error α) := fun message same =>
            ambiguous ⟨message, Except.error.inj same⟩
          rw [truthful_clean clean, or_iff_right (not_open_of_clean clean)]
          simp only [makes_iff sends, Option.mem_def]
    | failed message =>
      have clean : Clean (.error (.runtime message) : Except Error ConnectorResponse) := fun _ => nofun
      rw [truthful_clean clean]
      simp only [makes_iff sends, Option.mem_def]
    | reply reply =>
      dsimp only
      generalize named : createdKey api.createCredential reply = key
      cases key with
      | error e =>
        rw [truthful_clean (clean_error (createdKey_clean _ reply) named)]
        simp only [makes_iff sends, Option.mem_def]
      | ok key =>
        obtain ⟨id, secret⟩ := key
        dsimp only [Truthful]
        constructor
        · rintro ⟨⟨id', secret'⟩, made, named, told⟩
          rw [(makes_iff sends _).mp made]
          simp only [List.lookup_cons_self, Option.some.injEq, Json.str.injEq] at named told
          rw [named, told]
        · intro made
          exact ⟨⟨id, secret⟩, (makes_iff sends _).mpr made, List.lookup_cons_self, rfl⟩
  · have unsent : ∀ name items t request, ¬ Sends library api payload headers provider s name items t request :=
      fun name items t request sends => sent ⟨name, items, t, request, sends⟩
    refine iff_of_true ?_ fun name items t request sends => absurd sends (unsent name items t request)
    obtain ⟨e, t, ends⟩ := create_unsent unsent
    rw [ends]
    have none : ∀ key, Makes library api payload headers provider s key → ¬ provider.alive t key.id := by
      rintro key ⟨name, items, t, request, sends, -⟩
      exact absurd sends (unsent name items t request)
    cases e with
    | ambiguousMutation => exact trivial
    | _ => exact none

end

def plainLibrary : Library where
  quote := id
  urljoin := fun base path => base ++ path
  urlsplit := fun _ => ⟨"https", some "keys.example.test", none, none, none⟩
  display := fun _ => "None"

def keysApi : ProviderApi where
  baseUrl := "https://keys.example.test"
  listCredentials := {
    method := "GET", path := "/keys", successStatuses := [200], providerIdField := some "id", nameField := some "name" }
  createCredential := {
    method := "POST", path := "/keys", successStatuses := [201], body := [("name", .str "${name}")],
    providerIdField := some "id", secretField := some "secret" }
  revokeCredential := { method := "DELETE", path := "/keys/{provider_id}", successStatuses := [204] }
  create_id := nofun
  create_secret := nofun
  list_id := nofun
  revoke_path := by decide

/-- The provider creates the key, and the answer gets lost at a gateway. The state tells if there is a key. -/
def badGateway : Provider Bool where
  handle := fun s request =>
    if request.method = "POST" then (.reply ⟨502, none⟩, true) else (.reply ⟨200, some (.arr [])⟩, s)
  created := fun _ request => if request.method = "POST" then some ⟨"key-1", "secret-1"⟩ else none
  alive := fun s id => s = true ∧ id = "key-1"

/-- The creation is reported as failed, and its key is alive. -/
theorem bad_gateway_hides_key :
    (create plainLibrary keysApi [("name", .str "deploy")] []).served badGateway.server false =
        (.error (.connector "provider-api-error" "provider returned HTTP 502" true), true) ∧
      ¬ Truthful plainLibrary keysApi [("name", .str "deploy")] [] badGateway false
        ((create plainLibrary keysApi [("name", .str "deploy")] []).served badGateway.server false) := by
  have fails : (create plainLibrary keysApi [("name", .str "deploy")] []).served badGateway.server false =
      (.error (.connector "provider-api-error" "provider returned HTTP 502" true), true) := by rfl
  refine ⟨fails, ?_⟩
  rw [fails]
  intro truthful
  have request : ∃ request, httpRequest plainLibrary keysApi keysApi.createCredential [] [("name", .str "deploy")] =
      .ok request ∧ request.method = "POST" := ⟨_, rfl, rfl⟩
  obtain ⟨request, sent, post⟩ := request
  have made : Makes plainLibrary keysApi [("name", .str "deploy")] [] badGateway false ⟨"key-1", "secret-1"⟩ :=
    ⟨"deploy", [], false, request, ⟨rfl, rfl, sent⟩, if_pos post⟩
  exact truthful _ made ⟨rfl, rfl⟩

end Uumi.Connectors.Http
