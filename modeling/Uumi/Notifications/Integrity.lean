import Uumi.Notifications.Storage

/-! What every operation of the notification repository keeps: deliveries have their sources and stand under their
names, and a delivery that has ended does not change any more. -/
namespace Uumi.Notifications
open Uumi.Contracts Uumi.Core Uumi.Foundations Uumi.Storage

variable {sha256 : String → String}

/-- What holds between the documents. -/
structure Sound (sha256 : String → String) (store : NotificationStore) : Prop where
  endpoint : ∀ path endpoint, store.endpoints.documents path = some endpoint →
    path = (endpoint.organisationId, endpoint.id)
  notification : ∀ path notification, store.notifications path = some notification →
    path = (notification.organisationId, notification.id)
  placed : ∀ path delivery, store.deliveries.documents path = some delivery →
    path = (delivery.organisationId, delivery.notificationId, delivery.id) ∧
      deliveryId sha256 delivery.notificationId delivery.endpointId = .ok delivery.id
  sources : ∀ path delivery, store.deliveries.documents path = some delivery →
    (∃ notification, store.notifications (delivery.organisationId, delivery.notificationId) = some notification) ∧
      ∃ endpoint, store.endpoints.documents (delivery.organisationId, delivery.endpointId) = some endpoint
  leased : ∀ path delivery expires, store.deliveries.documents path = some delivery →
    delivery.leaseExpiresAt = some expires → delivery.availableAt ≤ expires

/-- An empty store is sound. -/
theorem empty_sound : Sound sha256 .empty where
  endpoint _ _ h := absurd h (Option.some_ne_none _).symm
  notification _ _ h := absurd h (Option.some_ne_none _).symm
  placed _ _ h := absurd h (Option.some_ne_none _).symm
  sources _ _ h := absurd h (Option.some_ne_none _).symm
  leased _ _ _ h := absurd h (Option.some_ne_none _).symm

variable {store after : NotificationStore} {now : AwareDatetime} {owner : Identifier} {lease limit : Nat}
  {path : Identifier × Identifier × Identifier} {delivery : NotificationDelivery}

/-- A registration keeps the documents sound and touches no delivery. -/
theorem registerEndpoint_sound {endpoint result : NotificationEndpoint} (sound : Sound sha256 store)
    (h : store.registerEndpoint endpoint = .ok (result, after)) :
    Sound sha256 after ∧ after.deliveries = store.deliveries := by
  simp only [NotificationStore.registerEndpoint, unit_bind_ok] at h
  obtain ⟨-, h⟩ := h
  split at h
  · cases h
    refine ⟨⟨?_, sound.notification, sound.placed, ?_, sound.leased⟩, rfl⟩
    · intro path found hfound
      rcases Collection.set_eq_some.mp hfound with ⟨rfl, rfl⟩ | ⟨-, hfound⟩
      · rfl
      · exact sound.endpoint path found hfound
    · intro path delivery hdelivery
      obtain ⟨hnotification, source, hsource⟩ := sound.sources path delivery hdelivery
      refine ⟨hnotification, ?_⟩
      by_cases hkey : (delivery.organisationId, delivery.endpointId) = (endpoint.organisationId, endpoint.id)
      · exact ⟨endpoint, by rw [hkey]; exact Collection.set_same ..⟩
      · exact ⟨source, (Collection.set_of_ne hkey).trans hsource⟩
  · simp only [unit_bind_ok, pure_ok, Prod.mk.injEq] at h
    obtain ⟨-, -, rfl⟩ := h
    exact ⟨sound, rfl⟩

/-- Enabling an endpoint keeps the documents sound and touches no delivery. -/
theorem setEndpointEnabled_sound {o id : Identifier} {revision : Nat} {enabled : Bool} {result : NotificationEndpoint}
    (sound : Sound sha256 store) (h : store.setEndpointEnabled o id revision enabled now = .ok (result, after)) :
    Sound sha256 after ∧ after.deliveries = store.deliveries := by
  simp only [NotificationStore.setEndpointEnabled, required_bind_ok, unit_bind_ok] at h
  obtain ⟨current, hcurrent, -, h⟩ := h
  split at h
  · cases h
    exact ⟨sound, rfl⟩
  · cases h
    refine ⟨⟨?_, sound.notification, sound.placed, ?_, sound.leased⟩, rfl⟩
    · intro path found hfound
      rcases Collection.set_eq_some.mp hfound with ⟨rfl, rfl⟩ | ⟨-, hfound⟩
      · exact sound.endpoint _ current hcurrent
      · exact sound.endpoint path found hfound
    · intro path delivery hdelivery
      obtain ⟨hnotification, source, hsource⟩ := sound.sources path delivery hdelivery
      refine ⟨hnotification, ?_⟩
      by_cases hkey : (delivery.organisationId, delivery.endpointId) = (o, id)
      · exact ⟨_, by rw [hkey]; exact Collection.set_same ..⟩
      · exact ⟨source, (Collection.set_of_ne hkey).trans hsource⟩

private theorem notified_sound (notification : Notification) (sound : Sound sha256 store) :
    Sound sha256 { store with
      notifications := store.notifications.set (notification.organisationId, notification.id) notification } := by
  refine ⟨sound.endpoint, ?_, sound.placed, ?_, sound.leased⟩
  · intro path found hfound
    rcases Collection.set_eq_some.mp hfound with ⟨rfl, rfl⟩ | ⟨-, hfound⟩
    · rfl
    · exact sound.notification path found hfound
  · intro path delivery hdelivery
    obtain ⟨⟨source, hsource⟩, hendpoint⟩ := sound.sources path delivery hdelivery
    refine ⟨?_, hendpoint⟩
    by_cases hkey : (delivery.organisationId, delivery.notificationId) = (notification.organisationId, notification.id)
    · exact ⟨notification, by rw [hkey]; exact Collection.set_same ..⟩
    · exact ⟨source, (Collection.set_of_ne hkey).trans hsource⟩

/-- Marking a notification as read keeps the documents sound and touches no delivery. -/
theorem markRead_sound {o id : Identifier} {revision : Nat} {result : Notification} (sound : Sound sha256 store)
    (h : store.markRead o id revision now = .ok (result, after)) :
    Sound sha256 after ∧ after.deliveries = store.deliveries := by
  simp only [NotificationStore.markRead, required_bind_ok] at h
  obtain ⟨current, hcurrent, h⟩ := h
  split at h
  · cases h
    exact ⟨sound, rfl⟩
  · simp only [unit_bind_ok, pure_ok, Prod.mk.injEq] at h
    obtain ⟨-, -, rfl⟩ := h
    have hpath := sound.notification _ current hcurrent
    refine ⟨?_, rfl⟩
    rw [hpath]
    exact notified_sound { current with readAt := some now, revision := current.revision + 1 } sound

private theorem rewritten_sound {changed : NotificationDelivery} (sound : Sound sha256 store)
    (found : store.deliveries.documents path = some delivery) (id : changed.id = delivery.id)
    (organisation : changed.organisationId = delivery.organisationId)
    (notification : changed.notificationId = delivery.notificationId)
    (endpoint : changed.endpointId = delivery.endpointId)
    (leased : ∀ expires, changed.leaseExpiresAt = some expires → changed.availableAt ≤ expires) :
    Sound sha256 { store with deliveries := store.deliveries.set path changed } := by
  refine ⟨sound.endpoint, sound.notification, ?_, ?_, ?_⟩
  · intro other d hd
    rcases Collection.set_eq_some.mp hd with ⟨rfl, rfl⟩ | ⟨-, hd⟩
    · rw [id, organisation, notification, endpoint]
      exact sound.placed _ delivery found
    · exact sound.placed other d hd
  · intro other d hd
    rcases Collection.set_eq_some.mp hd with ⟨rfl, rfl⟩ | ⟨-, hd⟩
    · rw [organisation, notification, endpoint]
      exact sound.sources _ delivery found
    · exact sound.sources other d hd
  · intro other d expires hd hexpires
    rcases Collection.set_eq_some.mp hd with ⟨rfl, rfl⟩ | ⟨-, hd⟩
    · exact leased expires hexpires
    · exact sound.leased other d expires hd hexpires

/-- A claimable delivery is available. -/
theorem Sound.available (sound : Sound sha256 store) (found : store.deliveries.documents path = some delivery)
    (claimable : delivery.Claimable now) : delivery.availableAt ≤ now := by
  rcases claimable with ⟨-, h⟩ | ⟨-, expires, hexpires, h⟩
  · exact h
  · exact Int.le_trans (sound.leased path delivery expires found hexpires) h

variable (now owner lease) in
/-- What `_claim_one` does with a delivery that is there. -/
theorem claimOne_cases (sound : Sound sha256 store) (found : store.deliveries.documents path = some delivery) :
    (∃ (h : delivery.Claimable now) (notification : Notification) (endpoint : NotificationEndpoint),
      store.claimOne path owner now lease =
        .ok (some ⟨path, delivery.claimed owner (leaseEnd now lease) h.not_sent, notification, endpoint⟩,
          { store with
            deliveries := store.deliveries.set path (delivery.claimed owner (leaseEnd now lease) h.not_sent) })) ∨
    (¬ delivery.Claimable now ∧ store.claimOne path owner now lease = .ok (none, store)) := by
  obtain ⟨⟨notification, hnotification⟩, endpoint, hendpoint⟩ := sound.sources path delivery found
  unfold NotificationStore.claimOne
  rw [found]
  by_cases h : delivery.Claimable now
  · refine .inl ⟨h, notification, endpoint, ?_⟩
    simp only [required, ok_bind, dif_pos h, hnotification, hendpoint]
    rfl
  · refine .inr ⟨h, ?_⟩
    simp only [required, ok_bind, dif_neg h]
    rfl

/-- Claiming a delivery that is claimable keeps the documents sound. -/
theorem claimed_sound (sound : Sound sha256 store) (found : store.deliveries.documents path = some delivery)
    (h : delivery.Claimable now) :
    Sound sha256 { store with
      deliveries := store.deliveries.set path (delivery.claimed owner (leaseEnd now lease) h.not_sent) } := by
  refine rewritten_sound sound found rfl rfl rfl rfl ?_
  intro expires hexpires
  obtain rfl := Option.some.inj hexpires
  have havailable := sound.available found h
  refine Int.le_trans havailable ?_
  change now.instant ≤ now.instant + lease
  omega

/-- A delivery is as it was, or claimed since its lease was free. -/
def ClaimedFrom (owner : Identifier) (now : AwareDatetime) (lease : Nat) (before after : Option NotificationDelivery) :
    Prop :=
  after = before ∨ ∃ (delivery : NotificationDelivery) (h : delivery.Claimable now), before = some delivery ∧
    after = some (delivery.claimed owner (leaseEnd now lease) h.not_sent)

/-- A claim keeps the documents sound and touches its own delivery alone. -/
theorem claimOne_sound {result : Option NotificationClaim} (sound : Sound sha256 store)
    (h : store.claimOne path owner now lease = .ok (result, after)) :
    Sound sha256 after ∧ after.endpoints = store.endpoints ∧ after.notifications = store.notifications ∧
      (∀ other, other ≠ path → after.deliveries.documents other = store.deliveries.documents other) ∧
      ClaimedFrom owner now lease (store.deliveries.documents path) (after.deliveries.documents path) := by
  cases hfound : store.deliveries.documents path with
  | none =>
    simp only [NotificationStore.claimOne, required_bind_ok] at h
    obtain ⟨current, hcurrent, -⟩ := h
    rw [hfound] at hcurrent
    cases hcurrent
  | some delivery =>
    rcases claimOne_cases now owner lease sound hfound with
      ⟨hclaim, notification, endpoint, heq⟩ | ⟨-, heq⟩
    · rw [heq] at h
      cases h
      exact ⟨claimed_sound sound hfound hclaim, rfl, rfl, fun other hother => Collection.set_of_ne hother,
        .inr ⟨delivery, hclaim, rfl, Collection.set_same ..⟩⟩
    · rw [heq] at h
      cases h
      exact ⟨sound, rfl, rfl, fun _ _ => rfl, .inl hfound⟩

/-- The loop of a claim claims each delivery once at most. -/
theorem claimRows_sound {rows : List ((Identifier × Identifier × Identifier) × NotificationDelivery)}
    {claims result : List NotificationClaim} (sound : Sound sha256 store) (distinct : (rows.map Prod.fst).Nodup)
    (h : NotificationStore.claimRows owner now lease limit rows claims store = .ok (result, after)) :
    Sound sha256 after ∧ after.endpoints = store.endpoints ∧ after.notifications = store.notifications ∧
      (∀ path, path ∉ rows.map Prod.fst → after.deliveries.documents path = store.deliveries.documents path) ∧
      ∀ path, ClaimedFrom owner now lease (store.deliveries.documents path) (after.deliveries.documents path) := by
  induction rows generalizing claims store with
  | nil =>
    cases h
    exact ⟨sound, rfl, rfl, fun _ _ => rfl, fun _ => .inl rfl⟩
  | cons row rows ih =>
    obtain ⟨hnot, hdistinct⟩ := List.nodup_cons.mp distinct
    rw [NotificationStore.claimRows, bind_ok] at h
    obtain ⟨⟨claim, next⟩, hone, h⟩ := h
    obtain ⟨hsound, hendpoints, hnotifications, hothers, hclaimed⟩ := claimOne_sound sound hone
    have hsingle : ∀ path, ClaimedFrom owner now lease (store.deliveries.documents path)
        (next.deliveries.documents path) := by
      intro path
      by_cases hpath : path = row.1
      · rw [hpath]
        exact hclaimed
      · exact .inl (hothers path hpath)
    dsimp only at h
    split at h
    · cases h
      refine ⟨hsound, hendpoints, hnotifications, ?_, hsingle⟩
      intro path hpath
      exact hothers path fun heq => hpath (by simp [heq])
    · obtain ⟨hsound', hendpoints', hnotifications', hothers', hrest⟩ := ih hsound hdistinct h
      refine ⟨hsound', hendpoints'.trans hendpoints, hnotifications'.trans hnotifications, ?_, ?_⟩
      · intro path hpath
        rw [List.map_cons, List.mem_cons, not_or] at hpath
        exact (hothers' path hpath.2).trans (hothers path hpath.1)
      · intro path
        by_cases hpath : path ∈ rows.map Prod.fst
        · have hne : path ≠ row.1 := fun heq => hnot (heq ▸ hpath)
          rw [← hothers path hne]
          exact hrest path
        · rw [hothers' path hpath]
          exact hsingle path

/-- A query for claims keeps the documents sound, and each delivery is as it was or claimed. -/
theorem claim_sound {result : List NotificationClaim} (sound : Sound sha256 store)
    (h : store.claim owner now lease limit = .ok (result, after)) :
    Sound sha256 after ∧ after.endpoints = store.endpoints ∧ after.notifications = store.notifications ∧
      ∀ path, ClaimedFrom owner now lease (store.deliveries.documents path) (after.deliveries.documents path) := by
  obtain ⟨hsound, hendpoints, hnotifications, -, hclaimed⟩ :=
    claimRows_sound sound (Catalogue.query_nodup store.deliveries) h
  exact ⟨hsound, hendpoints, hnotifications, hclaimed⟩

/-- Finishing a delivery keeps the documents sound and touches that delivery alone. -/
theorem finish_sound {outcome : DeliveryOutcome} (sound : Sound sha256 store)
    (h : store.finish path owner outcome = .ok after) :
    Sound sha256 after ∧ after.endpoints = store.endpoints ∧ after.notifications = store.notifications ∧
      (∀ other, other ≠ path → after.deliveries.documents other = store.deliveries.documents other) ∧
      (after.deliveries.documents path = store.deliveries.documents path ∨
        ∃ delivery, store.deliveries.documents path = some delivery ∧ delivery.state = .sending ∧
          delivery.leaseOwner = some owner ∧ after.deliveries.documents path = some (delivery.finished outcome)) := by
  simp only [NotificationStore.finish, required_bind_ok] at h
  obtain ⟨current, hcurrent, h⟩ := h
  split at h
  · simp only [unit_bind_ok, pure_ok] at h
    obtain ⟨-, rfl⟩ := h
    exact ⟨sound, rfl, rfl, fun _ _ => rfl, .inl rfl⟩
  · simp only [unit_bind_ok, raiseIf_ok, pure_ok, not_or, not_not] at h
    obtain ⟨⟨hsending, howner⟩, rfl⟩ := h
    refine ⟨?_, rfl, rfl, fun other hother => Collection.set_of_ne hother,
      .inr ⟨current, hcurrent, hsending, howner, Collection.set_same ..⟩⟩
    cases outcome with
    | sent receipt sentAt => exact rewritten_sound sound hcurrent rfl rfl rfl rfl (by rintro _ ⟨⟩)
    | failed error availableAt terminal => exact rewritten_sound sound hcurrent rfl rfl rfl rfl (by rintro _ ⟨⟩)

end Uumi.Notifications
