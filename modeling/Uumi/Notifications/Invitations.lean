import Uumi.Notifications.Delivery
import Uumi.Notifications.Service

/-! Team invitations in every run, and to whom each of them is sent. -/
namespace Uumi.Notifications
open Uumi.Account Uumi.Contracts Uumi.Core Uumi.Foundations Uumi.Storage

/-- How far a call of the route has come. -/
inductive InvitationStage where
  | registered (call : InvitationCall)
  | invited (call : InvitationCall) (member : TeamInvitation)
  /-- The emission has listed the endpoints. -/
  | announced (call : InvitationCall) (member : TeamInvitation) (notification : Notification) (seen : NotificationStore)

/-- The documents of both repositories, and the calls of the route. -/
structure InvitationPool (ι : Type) where
  accounts : AccountStore
  notifications : NotificationPool ι
  calls : ι → Option InvitationStage

inductive InvitationAction (ι : Type) where
  | register (who : ι) (call : InvitationCall) (now : AwareDatetime)
  | invite (who : ι) (team : List String) (now : AwareDatetime)
  | announce (who : ι) (now : AwareDatetime)
  /-- The transaction of the emission. -/
  | commit (who : ι)
  | cancel (organisationId : Identifier) (invitationId : String) (expectedRevision : Nat) (now : AwareDatetime)
  /-- Signing in, which accepts an invitation. -/
  | signIn (organisationId : Identifier) (identity : AuthenticatedIdentity) (now : AwareDatetime)
  | other (action : NotificationAction ι)

namespace InvitationPool
variable (texts : TextFunctions) (emailDelivery : Option EmailDeliveryConfiguration) {ι : Type} [DecidableEq ι]
  (pool : InvitationPool ι)

def initial : InvitationPool ι := ⟨.empty, .initial, fun _ => none⟩

def onwards (who : ι) (stage : Option InvitationStage) : InvitationPool ι :=
  { pool with calls := Function.update pool.calls who stage }

def stored (store : NotificationStore) : InvitationPool ι :=
  { pool with notifications := { pool.notifications with store } }

def next : InvitationAction ι → InvitationPool ι
  | .register who call now =>
    match registerInvitationEndpoint texts emailDelivery pool.notifications.store call.organisationId call.email now with
    | .error _ => pool.onwards who none
    | .ok (_, store) => (pool.stored store).onwards who (some (.registered call))
  | .invite who team now =>
    match pool.calls who with
    | some (.registered call) =>
      match invite texts pool.accounts call.organisationId call.identity call.email call.role team now with
      | .error _ => pool.onwards who none
      | .ok (member, accounts) => { pool with accounts }.onwards who (some (.invited call member))
    | _ => pool
  | .announce who now =>
    match pool.calls who with
    | some (.invited call member) =>
      match call.announcement texts member now with
      | .error _ => pool.onwards who none
      | .ok notification => pool.onwards who (some (.announced call member notification pool.notifications.store))
    | _ => pool
  | .commit who =>
    match pool.calls who with
    | some (.announced _ _ notification seen) =>
      match pool.notifications.store.emit texts.sha256 notification (seen.selectEndpoints notification) with
      | .error _ => pool.onwards who none
      | .ok (_, store) => (pool.stored store).onwards who none
    | _ => pool
  | .cancel organisationId invitationId expectedRevision now =>
    match pool.accounts.revokeInvitation texts organisationId invitationId expectedRevision now with
    | .error _ => pool
    | .ok (_, accounts) => { pool with accounts }
  | .signIn organisationId identity now =>
    match pool.accounts.get texts organisationId identity now with
    | .error _ => pool
    | .ok (_, accounts) => { pool with accounts }
  | .other action => { pool with notifications := pool.notifications.next texts.sha256 action }

def run (actions : List (InvitationAction ι)) : InvitationPool ι := actions.foldl (next texts emailDelivery) pool

end InvitationPool

/-- A delivery of a notification goes to these recipients. -/
def Reaches (store : NotificationStore) (notification : Notification) (recipients : List String) : Prop :=
  ∃ path delivery endpoint, store.deliveries.documents path = some delivery ∧
    delivery.organisationId = notification.organisationId ∧ delivery.notificationId = notification.id ∧
    store.endpoints.documents (delivery.organisationId, delivery.endpointId) = some endpoint ∧
    endpoint.recipients = recipients

/-- The deliveries of a notification go to one address and to no other. -/
def AddressedTo (store : NotificationStore) (notification : Notification) (address : String) : Prop :=
  ∀ recipients, Reaches store notification recipients ↔ recipients = [address]

/-- Among the first hundred endpoints of an organisation, some want invitations, and these are all of one address. -/
def SoleInvitee (store : NotificationStore) (organisationId : Identifier) (address : String) : Prop :=
  ∀ recipients, (∃ id endpoint, store.endpoints.documents (organisationId, id) = some endpoint ∧
      endpoint.Wants .teamInvitation ∧
      store.endpoints.before NotificationStore.endpointOrder (fun row => row.1.1 = organisationId)
        ((organisationId, id), endpoint) < 100 ∧
      endpoint.recipients = recipients) ↔
    recipients = [address]

def deliverySource (delivery : NotificationDelivery) : Identifier × Identifier × Identifier :=
  (delivery.organisationId, delivery.notificationId, delivery.endpointId)

/-- A later store: endpoints keep their recipients, and a notification that is there keeps its deliveries and gets no
others. -/
structure Continues (before after : NotificationStore) : Prop where
  endpoint : ∀ path endpoint, before.endpoints.documents path = some endpoint →
    ∃ endpoint', after.endpoints.documents path = some endpoint' ∧ endpoint'.recipients = endpoint.recipients
  notification : ∀ path, before.notifications path ≠ none → after.notifications path ≠ none
  kept : ∀ path source, (before.deliveries.documents path).map deliverySource = some source →
    (after.deliveries.documents path).map deliverySource = some source
  created : ∀ path source, (after.deliveries.documents path).map deliverySource = some source →
    before.notifications (source.1, source.2.1) ≠ none →
    (before.deliveries.documents path).map deliverySource = some source

namespace Continues
variable {sha256 : String → String} {store after later : NotificationStore} {notification : Notification}

private theorem set_ne_none {c : Collection (Identifier × Identifier) Notification}
    {path other : Identifier × Identifier} (h : c other ≠ none) : c.set path notification other ≠ none := by
  by_cases heq : other = path
  · rw [heq, Collection.set_same]
    exact Option.some_ne_none _
  · rw [Collection.set_of_ne heq]
    exact h

/-- A store continues itself. -/
theorem refl (store : NotificationStore) : Continues store store :=
  ⟨fun _ endpoint h => ⟨endpoint, h, rfl⟩, fun _ h => h, fun _ _ h => h, fun _ _ h _ => h⟩

/-- Continuations compose. -/
theorem trans (h : Continues store after) (h' : Continues after later) : Continues store later where
  endpoint path endpoint hendpoint := by
    obtain ⟨endpoint', hafter, hrecipients⟩ := h.endpoint path endpoint hendpoint
    obtain ⟨endpoint'', hlater, hrecipients'⟩ := h'.endpoint path endpoint' hafter
    exact ⟨endpoint'', hlater, hrecipients'.trans hrecipients⟩
  notification path hpath := h'.notification path (h.notification path hpath)
  kept path source hsource := h'.kept path source (h.kept path source hsource)
  created path source hsource hpath := h.created path source (h'.created path source hsource (h.notification _ hpath)) hpath

/-- The deliveries are for the same as before, and the endpoints are the same. -/
theorem of_same (endpoints : after.endpoints = store.endpoints)
    (notification : ∀ path, store.notifications path ≠ none → after.notifications path ≠ none)
    (same : ∀ path, (after.deliveries.documents path).map deliverySource =
      (store.deliveries.documents path).map deliverySource) : Continues store after where
  endpoint path endpoint h := ⟨endpoint, by rw [endpoints]; exact h, rfl⟩
  notification := notification
  kept path source h := (same path).trans h
  created path source h _ := (same path).symm.trans h

/-- A registration continues the store. -/
theorem registerEndpoint {endpoint result : NotificationEndpoint}
    (h : store.registerEndpoint endpoint = .ok (result, after)) : Continues store after := by
  simp only [NotificationStore.registerEndpoint, unit_bind_ok] at h
  obtain ⟨-, h⟩ := h
  split at h
  · rename_i habsent
    cases h
    refine ⟨?_, fun _ h => h, fun _ _ h => h, fun _ _ h _ => h⟩
    intro path found hfound
    have hpath : path ≠ (endpoint.organisationId, endpoint.id) := by
      rintro rfl
      rw [habsent] at hfound
      cases hfound
    exact ⟨found, (Collection.set_of_ne hpath).trans hfound, rfl⟩
  · simp only [unit_bind_ok, pure_ok, Prod.mk.injEq] at h
    obtain ⟨-, -, rfl⟩ := h
    exact refl _

/-- Enabling an endpoint continues the store. -/
theorem setEndpointEnabled {o id : Identifier} {revision : Nat} {enabled : Bool} {now : AwareDatetime}
    {result : NotificationEndpoint} (h : store.setEndpointEnabled o id revision enabled now = .ok (result, after)) :
    Continues store after := by
  simp only [NotificationStore.setEndpointEnabled, required_bind_ok, unit_bind_ok] at h
  obtain ⟨current, hcurrent, -, h⟩ := h
  split at h
  · cases h
    exact refl _
  · cases h
    refine ⟨?_, fun _ h => h, fun _ _ h => h, fun _ _ h _ => h⟩
    intro path found hfound
    by_cases hpath : path = (o, id)
    · subst hpath
      rw [hcurrent] at hfound
      cases hfound
      exact ⟨_, Collection.set_same .., rfl⟩
    · exact ⟨found, (Collection.set_of_ne hpath).trans hfound, rfl⟩

/-- Marking a notification as read continues the store. -/
theorem markRead {o id : Identifier} {revision : Nat} {now : AwareDatetime} {result : Notification}
    (h : store.markRead o id revision now = .ok (result, after)) : Continues store after := by
  simp only [NotificationStore.markRead, required_bind_ok] at h
  obtain ⟨current, -, h⟩ := h
  split at h
  · cases h
    exact refl _
  · simp only [unit_bind_ok, pure_ok, Prod.mk.injEq] at h
    obtain ⟨-, -, rfl⟩ := h
    exact of_same rfl (fun _ hpath => set_ne_none hpath) fun _ => rfl

/-- An emission continues the store. -/
theorem emit {selected : List NotificationEndpoint} {result : Notification} {applied : Bool} (sound : Sound sha256 store)
    (h : store.emit sha256 notification selected = .ok ((result, applied), after)) : Continues store after := by
  cases applied with
  | false => exact emit_replayed h ▸ refl _
  | true =>
    obtain ⟨habsent, -, hendpoints, hnotifications, hdeliveries⟩ := emit_applied h
    refine ⟨fun path endpoint h => ⟨endpoint, by rw [hendpoints]; exact h, rfl⟩, ?_, ?_, ?_⟩
    · rw [hnotifications]
      exact fun _ hpath => set_ne_none hpath
    · intro path source hsource
      obtain ⟨delivery, hdelivery, rfl⟩ := Option.map_eq_some_iff.mp hsource
      rw [(emit_sound sound h).2 path delivery hdelivery]
      rfl
    · intro path source hsource hpath
      obtain ⟨delivery, hdelivery, rfl⟩ := Option.map_eq_some_iff.mp hsource
      rcases (hdeliveries path delivery).mp hdelivery with ⟨endpoint, -, hnew, -⟩ | hold
      · obtain ⟨-, horganisation, hnotification, -⟩ := newDelivery_ok hnew
        refine absurd ?_ hpath
        rw [deliverySource, horganisation, hnotification]
        exact habsent
      · rw [hold]
        rfl

end Continues

/-- A claimed delivery is still about what it was about. -/
theorem ClaimedFrom.source {owner : Identifier} {now : AwareDatetime} {lease : Nat}
    {before after : Option NotificationDelivery} (h : ClaimedFrom owner now lease before after) :
    after.map deliverySource = before.map deliverySource := by
  rcases h with rfl | ⟨delivery, hclaim, rfl, rfl⟩
  · rfl
  · rfl

private theorem finished_source (delivery : NotificationDelivery) (outcome : DeliveryOutcome) :
    deliverySource (delivery.finished outcome) = deliverySource delivery := by
  cases outcome <;> rfl

section
variable {ι : Type} [DecidableEq ι] {sha256 : String → String} {pool : NotificationPool ι}

omit [DecidableEq ι] in
private theorem after_continues {α : Type} {result : Except Error (α × NotificationStore)}
    (h : ∀ value store, result = .ok (value, store) → Continues pool.store store) :
    Continues pool.store (pool.after result).store := by
  cases result with
  | error e => exact .refl _
  | ok value => exact h value.1 value.2 rfl

private theorem next_continues (sound : SoundPool sha256 pool) (action : NotificationAction ι) :
    Continues pool.store (pool.next sha256 action).store := by
  cases action with
  | register endpoint => exact after_continues fun _ _ h => .registerEndpoint h
  | setEnabled o id revision enabled updatedAt => exact after_continues fun _ _ h => .setEndpointEnabled h
  | list who notification => exact .refl _
  | emit who =>
    rw [NotificationPool.next]
    split
    · exact .refl _
    · exact after_continues fun _ _ h => .emit sound.store h
  | markRead o id revision readAt => exact after_continues fun _ _ h => .markRead h
  | claimOne path owner now lease =>
    refine after_continues fun value store h => ?_
    obtain ⟨-, hendpoints, hnotifications, hothers, hclaimed⟩ := claimOne_sound sound.store h
    refine .of_same hendpoints (by rw [hnotifications]; exact fun _ h => h) fun other => ?_
    by_cases hother : other = path
    · subst hother
      exact hclaimed.source
    · rw [hothers other hother]
  | claim owner now lease limit =>
    refine after_continues fun value store h => ?_
    obtain ⟨-, hendpoints, hnotifications, hclaimed⟩ := claim_sound sound.store h
    exact .of_same hendpoints (by rw [hnotifications]; exact fun _ h => h) fun path => (hclaimed path).source
  | finish path owner outcome =>
    refine after_continues fun value store h => ?_
    cases hfinish : pool.store.finish path owner outcome with
    | error e =>
      rw [hfinish] at h
      cases h
    | ok finished =>
      rw [hfinish] at h
      cases h
      obtain ⟨-, hendpoints, hnotifications, hothers, hpath⟩ := finish_sound sound.store hfinish
      refine .of_same hendpoints (by rw [hnotifications]; exact fun _ h => h) fun other => ?_
      by_cases hother : other = path
      · subst hother
        rcases hpath with hpath | ⟨delivery, hfound, -, -, hafter⟩
        · rw [hpath]
        · rw [hfound, hafter]
          exact congrArg some (finished_source delivery outcome)
      · rw [hothers other hother]

end

/-- To whom a notification that is there goes does not change. -/
theorem Reaches.continues {sha256 : String → String} {store after : NotificationStore} {notification : Notification}
    {recipients : List String} (sound : Sound sha256 store) (continues : Continues store after)
    (there : store.notifications (notification.organisationId, notification.id) ≠ none) :
    Reaches after notification recipients ↔ Reaches store notification recipients := by
  constructor
  · rintro ⟨path, delivery, endpoint, hdelivery, ho, hn, hendpoint, hrecipients⟩
    have hsource := continues.created path (deliverySource delivery) (by rw [hdelivery]; rfl)
      (by rw [deliverySource, ho, hn]; exact there)
    obtain ⟨old, hold, hsame⟩ := Option.map_eq_some_iff.mp hsource
    obtain ⟨ho', hn', he'⟩ : old.organisationId = delivery.organisationId ∧
        old.notificationId = delivery.notificationId ∧ old.endpointId = delivery.endpointId := by
      simpa only [deliverySource, Prod.mk.injEq] using hsame
    obtain ⟨-, found, hfound⟩ := sound.sources path old hold
    obtain ⟨found', hfound', hkept⟩ := continues.endpoint _ found hfound
    rw [ho', he', hendpoint] at hfound'
    cases hfound'
    exact ⟨path, old, found, hold, ho'.trans ho, hn'.trans hn, hfound, hkept.symm.trans hrecipients⟩
  · rintro ⟨path, delivery, endpoint, hdelivery, ho, hn, hendpoint, hrecipients⟩
    have hsource := continues.kept path (deliverySource delivery) (by rw [hdelivery]; rfl)
    obtain ⟨new, hnew, hsame⟩ := Option.map_eq_some_iff.mp hsource
    obtain ⟨ho', hn', he'⟩ : new.organisationId = delivery.organisationId ∧
        new.notificationId = delivery.notificationId ∧ new.endpointId = delivery.endpointId := by
      simpa only [deliverySource, Prod.mk.injEq] using hsame
    obtain ⟨found, hfound, hkept⟩ := continues.endpoint _ endpoint hendpoint
    exact ⟨path, new, found, hnew, ho'.trans ho, hn'.trans hn, by rw [ho', he']; exact hfound,
      hkept.trans hrecipients⟩

section
variable {texts : TextFunctions} {emailDelivery : Option EmailDeliveryConfiguration} {ι : Type} [DecidableEq ι]
  {pool : InvitationPool ι} {notification : Notification}

/-- The documents are sound, and so were those that an announced invitation listed. -/
structure SoundInvitations (texts : TextFunctions) (pool : InvitationPool ι) : Prop where
  notifications : SoundPool texts.sha256 pool.notifications
  announced : ∀ who call member notification seen,
    pool.calls who = some (.announced call member notification seen) →
    Sound texts.sha256 seen ∧ notification.organisationId = call.organisationId ∧ notification.kind = .teamInvitation

omit [DecidableEq ι] in
private theorem initial_soundInvitations : SoundInvitations texts (.initial : InvitationPool ι) :=
  ⟨initial_sound, fun _ _ _ _ _ h => absurd h (Option.some_ne_none _).symm⟩

private theorem onwards_sound {who : ι} {stage : Option InvitationStage} (sound : SoundInvitations texts pool)
    (h : ∀ call member notification seen, stage = some (.announced call member notification seen) →
      Sound texts.sha256 seen ∧ notification.organisationId = call.organisationId ∧
        notification.kind = .teamInvitation) : SoundInvitations texts (pool.onwards who stage) := by
  refine ⟨sound.notifications, ?_⟩
  intro other call member notification seen hstage
  simp only [InvitationPool.onwards] at hstage
  by_cases hother : other = who
  · rw [hother, Function.update_self] at hstage
    exact h call member notification seen hstage
  · rw [Function.update_of_ne hother] at hstage
    exact sound.announced other call member notification seen hstage

private theorem ended_sound {who : ι} (sound : SoundInvitations texts pool) :
    SoundInvitations texts (pool.onwards who none) :=
  onwards_sound sound fun _ _ _ _ h => absurd h (Option.some_ne_none _).symm

omit [DecidableEq ι] in
private theorem stored_sound {store : NotificationStore} (sound : SoundInvitations texts pool)
    (h : Sound texts.sha256 store) : SoundInvitations texts (pool.stored store) :=
  ⟨⟨h, sound.notifications.seen⟩, sound.announced⟩

variable (emailDelivery) in
/-- One action keeps the pool sound, and the notifications go on. -/
theorem invitations_next (sound : SoundInvitations texts pool) (action : InvitationAction ι) :
    SoundInvitations texts (pool.next texts emailDelivery action) ∧
      Continues pool.notifications.store (pool.next texts emailDelivery action).notifications.store := by
  cases action with
  | register who call now =>
    rw [InvitationPool.next]
    split
    · exact ⟨ended_sound sound, .refl _⟩
    · rename_i hregister
      simp only [registerInvitationEndpoint, bind_ok] at hregister
      obtain ⟨_, -, endpoint, -, hregister⟩ := hregister
      exact ⟨onwards_sound (stored_sound sound (registerEndpoint_sound sound.notifications.store hregister).1)
        (by rintro _ _ _ _ ⟨⟩),
        .registerEndpoint hregister⟩
  | invite who team now =>
    rw [InvitationPool.next]
    split
    · split
      · exact ⟨ended_sound sound, .refl _⟩
      · exact ⟨onwards_sound ⟨sound.notifications, sound.announced⟩ (by rintro _ _ _ _ ⟨⟩), .refl _⟩
    · exact ⟨sound, .refl _⟩
  | announce who now =>
    rw [InvitationPool.next]
    split
    · split
      · exact ⟨ended_sound sound, .refl _⟩
      · rename_i hannounce
        refine ⟨onwards_sound sound ?_, .refl _⟩
        rintro _ _ _ _ ⟨⟩
        exact ⟨sound.notifications.store, announcement_ok hannounce⟩
    · exact ⟨sound, .refl _⟩
  | commit who =>
    rw [InvitationPool.next]
    split
    · split
      · exact ⟨ended_sound sound, .refl _⟩
      · rename_i hemit
        exact ⟨ended_sound (stored_sound sound (emit_sound sound.notifications.store hemit).1),
          .emit sound.notifications.store hemit⟩
    · exact ⟨sound, .refl _⟩
  | cancel o id revision now =>
    rw [InvitationPool.next]
    split
    · exact ⟨sound, .refl _⟩
    · exact ⟨⟨sound.notifications, sound.announced⟩, .refl _⟩
  | signIn o identity now =>
    rw [InvitationPool.next]
    split
    · exact ⟨sound, .refl _⟩
    · exact ⟨⟨sound.notifications, sound.announced⟩, .refl _⟩
  | other action =>
    exact ⟨⟨(next_sound sound.notifications action).1, sound.announced⟩, next_continues sound.notifications action⟩

variable (emailDelivery) in
private theorem invitations_run (actions : List (InvitationAction ι)) (sound : SoundInvitations texts pool) :
    SoundInvitations texts (pool.run texts emailDelivery actions) ∧
      Continues pool.notifications.store (pool.run texts emailDelivery actions).notifications.store := by
  induction actions generalizing pool with
  | nil => exact ⟨sound, .refl _⟩
  | cons action actions ih =>
    obtain ⟨hsound, hcontinues⟩ := invitations_next emailDelivery sound action
    obtain ⟨hsound', hcontinues'⟩ := ih hsound
    exact ⟨hsound', hcontinues.trans hcontinues'⟩

/-- An applied emission reaches the recipients of the endpoints that it selected. -/
theorem emit_reaches {sha256 : String → String} {store after : NotificationStore} {selected : List NotificationEndpoint}
    {result : Notification} {recipients : List String} (sound : Sound sha256 store)
    (h : store.emit sha256 notification selected = .ok ((result, true), after)) :
    Reaches after notification recipients ↔ ∃ endpoint ∈ selected, endpoint.recipients = recipients := by
  obtain ⟨habsent, hselected, hendpoints, -, hdeliveries⟩ := emit_applied h
  constructor
  · rintro ⟨path, delivery, endpoint, hdelivery, ho, hn, hendpoint, hrecipients⟩
    rcases (hdeliveries path delivery).mp hdelivery with ⟨chosen, hchosen, hnew, -⟩ | hold
    · obtain ⟨-, -, -, hid, -⟩ := newDelivery_ok hnew
      rw [hendpoints, ho, hid, (hselected chosen hchosen).1] at hendpoint
      exact ⟨chosen, hchosen, by rw [Option.some.inj hendpoint]; exact hrecipients⟩
    · obtain ⟨⟨source, hsource⟩, -⟩ := sound.sources path delivery hold
      rw [ho, hn, habsent] at hsource
      cases hsource
  · rintro ⟨chosen, hchosen, hrecipients⟩
    obtain ⟨hstored, delivery, hnew⟩ := hselected chosen hchosen
    obtain ⟨-, ho, hn, hid, -⟩ := newDelivery_ok hnew
    exact ⟨_, delivery, chosen, (hdeliveries _ delivery).mpr (.inl ⟨chosen, hchosen, hnew, rfl⟩), ho, hn,
      by rw [hendpoints, ho, hid]; exact hstored, hrecipients⟩

/-- Among the first hundred endpoints of the organisation as the emission listed them, some want invitations, and
these are all of the invited address: in every run this is exactly when the deliveries of an invitation go to the
invited address and to no other, from the emission on. -/
theorem invitation_addressed_iff (actions later : List (InvitationAction ι)) (who : ι) (call : InvitationCall)
    (member : TeamInvitation) (notification result : Notification) (seen after : NotificationStore)
    (announced : (InvitationPool.initial.run texts emailDelivery actions).calls who =
      some (.announced call member notification seen))
    (applied : (InvitationPool.initial.run texts emailDelivery actions).notifications.store.emit texts.sha256
      notification (seen.selectEndpoints notification) = .ok ((result, true), after)) :
    AddressedTo (InvitationPool.initial.run texts emailDelivery (actions ++ .commit who :: later)).notifications.store
        notification (call.address texts) ↔
      SoleInvitee seen call.organisationId (call.address texts) := by
  obtain ⟨hsound, -⟩ := invitations_run emailDelivery actions
    (initial_soundInvitations : SoundInvitations texts _)
  obtain ⟨hseen, horganisation, hkind⟩ := hsound.announced who call member notification seen announced
  have hrun : InvitationPool.initial.run texts emailDelivery (actions ++ .commit who :: later) =
      ((InvitationPool.initial.run texts emailDelivery actions).next texts emailDelivery (.commit who)).run
        texts emailDelivery later := List.foldl_append ..
  have hcommitted : ((InvitationPool.initial.run texts emailDelivery actions).next texts emailDelivery
      (.commit who)).notifications.store = after := by
    rw [InvitationPool.next, announced]
    simp only [applied, InvitationPool.onwards, InvitationPool.stored]
  obtain ⟨hnext, -⟩ := invitations_next emailDelivery hsound (.commit who)
  obtain ⟨-, hlater⟩ := invitations_run emailDelivery later hnext
  rw [← hrun, hcommitted] at hlater
  have hthere : after.notifications (notification.organisationId, notification.id) ≠ none := by
    rw [(emit_applied applied).2.2.2.1, Collection.set_same]
    exact Option.some_ne_none _
  have hsoundAfter := (emit_sound hsound.notifications.store applied).1
  refine forall_congr' fun recipients => iff_congr ?_ Iff.rfl
  rw [Reaches.continues hsoundAfter hlater hthere, emit_reaches hsound.notifications.store applied]
  constructor
  · rintro ⟨endpoint, hendpoint, hrecipients⟩
    obtain ⟨hfound, hwants, hbefore⟩ := (mem_selectEndpoints hseen).mp hendpoint
    rw [horganisation] at hfound hbefore
    rw [hkind] at hwants
    exact ⟨endpoint.id, endpoint, hfound, hwants, hbefore, hrecipients⟩
  · rintro ⟨id, endpoint, hfound, hwants, hbefore, hrecipients⟩
    have hid : id = endpoint.id := congrArg Prod.snd (hseen.endpoint _ endpoint hfound)
    subst hid
    refine ⟨endpoint, (mem_selectEndpoints hseen).mpr ⟨?_, ?_, ?_⟩, hrecipients⟩
    · rw [horganisation]
      exact hfound
    · rw [hkind]
      exact hwants
    · rw [horganisation]
      exact hbefore

end

def invitationTexts : TextFunctions where
  sha256 text := ([
    ("auth0|1", "b03e5d4509cd37476db38fb76f9b5b3ca8de1e6976d6b7ae5f7f9bc5664c7d0d"),
    ("bob@uumi.dev", "0616b1fd0a9f48a348f0a83b5d622f06ad130850391e3e4696880e39588fe1f7"),
    ("eve@uumi.dev", "be74a889708d0db2255008fd1ba74273a256772d266c218bab384acb009b3a45"),
    ("org_one\x00bob@uumi.dev\x00team-invitation",
      "6a6cd0108ca34533a5e9ea789c3fb256591e60313cedfde94ad229f8b83b75c2"),
    ("org_one\x00eve@uumi.dev\x00team-invitation",
      "ea1b67cba2f12526d09d0f3bccd8c53df8228f44057e115510a5f59af8dea9c4"),
    ("org_one\x00team-invited-invitation_0616b1fd0a9f48a348f0a83b5d622f06-0\x00team-invitation",
      "72021fa8784f56b5b6e9ecf29a46c5bbc64bb3ecaab32ef3765a6956c080d3b7"),
    ("org_one\x00team-invited-invitation_be74a889708d0db2255008fd1ba74273-0\x00team-invitation",
      "60d8868f75fd254e5677827d47f4d08b8b655715ce645bfdf5949a202859d549"),
    ("notification_72021fa8784f56b5b6e9ecf29a46c5bbc64bb3ec\x00endpoint_6a6cd0108ca34533a5e9ea789c3fb256591e6031",
      "8f67517d676739dece3cbe0a0bf38a74c28b6885bc9492ac582849f595817131"),
    ("notification_60d8868f75fd254e5677827d47f4d08b8b655715\x00endpoint_6a6cd0108ca34533a5e9ea789c3fb256591e6031",
      "f4c30339abe03467d190d2691fedc7167b534a211ed1bfc58e593494f3a26471"),
    ("notification_60d8868f75fd254e5677827d47f4d08b8b655715\x00endpoint_ea1b67cba2f12526d09d0f3bccd8c53df8228f44",
      "7820994bd01165a05a78795e78b256a13f3a65a354a45bbb21d5c6431dd8c783")].lookup text).getD text
  lower text := text

def invitationOrganisation : Identifier := accountOne

def invitationDelivery : EmailDeliveryConfiguration :=
  ⟨⟨"projects/uumi/secrets/resend/versions/1", by decide⟩, ⟨"team@uumi.dev", by decide⟩⟩

def inviting (email : String) : InvitationCall where
  organisationId := invitationOrganisation
  organisationName := ⟨"One", by decide⟩
  identity := ⟨"auth0|1", some "alice@uumi.dev", true, some "Alice", "auth0"⟩
  email
  role := .viewer

def invitationSteps (who : Nat) (email : String) (now : AwareDatetime) : List (InvitationAction Nat) :=
  [.register who (inviting email) now, .invite who ["alice@uumi.dev"] now]

def invitationsRun (actions : List (InvitationAction Nat)) : InvitationPool Nat :=
  InvitationPool.initial.run invitationTexts (some invitationDelivery) actions

def firstInvitation : List (InvitationAction Nat) := invitationSteps 0 "bob@uumi.dev" ⟨1, 0⟩ ++ [.announce 0 ⟨1, 0⟩]

def secondInvitation : List (InvitationAction Nat) :=
  invitationSteps 1 "bob@uumi.dev" ⟨1, 0⟩ ++ invitationSteps 0 "eve@uumi.dev" ⟨2, 0⟩ ++ [.announce 0 ⟨2, 0⟩]

def bobEndpoint : Identifier × Identifier :=
  (invitationOrganisation, ⟨"endpoint_6a6cd0108ca34533a5e9ea789c3fb256591e6031", by decide⟩)

def announcedWith (pool : InvitationPool Nat) (check : InvitationCall → Notification → NotificationStore →
    NotificationStore → Bool) : Bool :=
  match pool.calls 0 with
  | some (.announced call _ notification seen) =>
    match pool.notifications.store.emit invitationTexts.sha256 notification (seen.selectEndpoints notification) with
    | .ok ((_, true), after) => check call notification seen after
    | _ => false
  | _ => false

private theorem announcedWith_ok {pool : InvitationPool Nat} {check} (h : announcedWith pool check = true) :
    ∃ call member notification seen result after,
      pool.calls 0 = some (.announced call member notification seen) ∧
        pool.notifications.store.emit invitationTexts.sha256 notification (seen.selectEndpoints notification) =
          .ok ((result, true), after) ∧
        check call notification seen after = true := by
  unfold announcedWith at h
  split at h
  · rename_i hcalls
    split at h
    · rename_i hemit
      exact ⟨_, _, _, _, _, _, hcalls, hemit, h⟩
    · cases h
  · cases h

/-- The notification of the second invitation is delivered to the address of the first. -/
theorem invitation_reaches_others :
    ∃ call member notification seen result after,
      (invitationsRun secondInvitation).calls 0 = some (.announced call member notification seen) ∧
        (invitationsRun secondInvitation).notifications.store.emit invitationTexts.sha256 notification
          (seen.selectEndpoints notification) = .ok ((result, true), after) ∧
        Reaches after notification ["bob@uumi.dev"] ∧ ¬ AddressedTo after notification (call.address invitationTexts) := by
  have h : announcedWith (invitationsRun secondInvitation) (fun call notification _ after =>
      call.address invitationTexts = "eve@uumi.dev" ∧ notification.organisationId = bobEndpoint.1 ∧
      (after.endpoints.documents bobEndpoint).map (·.recipients) = some ["bob@uumi.dev"] ∧
      ∃ path ∈ after.deliveries.keys, (after.deliveries.documents path).map deliverySource =
        some (notification.organisationId, notification.id, bobEndpoint.2)) = true := by
    decide +kernel
  obtain ⟨call, member, notification, seen, result, after, hcalls, hemit, hcheck⟩ := announcedWith_ok h
  obtain ⟨haddress, horganisation, hendpoint, path, -, hpath⟩ := of_decide_eq_true hcheck
  obtain ⟨endpoint, hfound, hrecipients⟩ := Option.map_eq_some_iff.mp hendpoint
  obtain ⟨delivery, hdelivery, hsource⟩ := Option.map_eq_some_iff.mp hpath
  obtain ⟨ho, hn, he⟩ : delivery.organisationId = notification.organisationId ∧
      delivery.notificationId = notification.id ∧ delivery.endpointId = bobEndpoint.2 := by
    simpa only [deliverySource, Prod.mk.injEq] using hsource
  have hreaches : Reaches after notification ["bob@uumi.dev"] :=
    ⟨path, delivery, endpoint, hdelivery, ho, hn, by rw [ho, he, horganisation]; exact hfound, hrecipients⟩
  refine ⟨call, member, notification, seen, result, after, hcalls, hemit, hreaches, fun addressed => ?_⟩
  rw [haddress] at addressed
  exact absurd ((addressed _).mp hreaches) (by decide)

/-- The notification of the first invitation is delivered to the invited address alone. -/
theorem sole_invitation_addressed :
    ∃ notification, AddressedTo (invitationsRun (firstInvitation ++ [.commit 0])).notifications.store notification
      "bob@uumi.dev" := by
  have h : announcedWith (invitationsRun firstInvitation) (fun call _ seen _ =>
      call.address invitationTexts = "bob@uumi.dev" ∧ call.organisationId = bobEndpoint.1 ∧
      seen.endpoints.keys = [bobEndpoint] ∧
      (seen.endpoints.documents bobEndpoint).map (fun endpoint =>
        (endpoint.recipients, decide (endpoint.Wants .teamInvitation))) = some (["bob@uumi.dev"], true)) = true := by
    decide +kernel
  obtain ⟨call, member, notification, seen, result, after, hcalls, hemit, hcheck⟩ := announcedWith_ok h
  obtain ⟨haddress, horganisation, hkeys, hendpoint⟩ := of_decide_eq_true hcheck
  obtain ⟨bob, hbob, hboth⟩ := Option.map_eq_some_iff.mp hendpoint
  obtain ⟨hrecipients, hwants⟩ := Prod.mk.inj hboth
  refine ⟨notification, ?_⟩
  unfold invitationsRun at hcalls hemit ⊢
  rw [← haddress]
  refine (invitation_addressed_iff firstInvitation [] 0 call member notification result seen after hcalls hemit).mpr ?_
  intro recipients
  rw [haddress]
  constructor
  · rintro ⟨id, endpoint, hfound, -, -, rfl⟩
    have hkey : (call.organisationId, id) ∈ seen.endpoints.keys := (seen.endpoints.listed _).mpr ⟨endpoint, hfound⟩
    rw [hkeys, List.mem_singleton] at hkey
    rw [hkey, hbob] at hfound
    rw [← Option.some.inj hfound]
    exact hrecipients
  · rintro rfl
    have hfound : seen.endpoints.documents (call.organisationId, bobEndpoint.2) = some bob := by
      rw [horganisation]
      exact hbob
    have hfew : seen.endpoints.keys.length < 100 := by
      rw [hkeys, List.length_singleton]
      omega
    exact ⟨bobEndpoint.2, bob, hfound, of_decide_eq_true hwants, (Catalogue.before_le _).trans_lt hfew, hrecipients⟩

end Uumi.Notifications
