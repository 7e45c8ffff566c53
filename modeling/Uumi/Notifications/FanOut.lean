import Uumi.Notifications.Integrity

/-! Which deliveries an emission creates, and when a claim finds a delivery. -/
namespace Uumi.Notifications
open Uumi.Contracts Uumi.Core Uumi.Foundations Uumi.Storage

variable {sha256 : String → String} {store after seen : NotificationStore} {notification : Notification}

/-- An emission creates one delivery for every endpoint that wants the notification, and none for others. -/
structure FansOut (before after : NotificationStore) (notification : Notification) : Prop where
  wanted : ∀ id, (∃ endpoint, before.endpoints.documents (notification.organisationId, id) = some endpoint ∧
      endpoint.Wants notification.kind) ↔
    ∃ path delivery, after.deliveries.documents path = some delivery ∧
      delivery.organisationId = notification.organisationId ∧ delivery.notificationId = notification.id ∧
      delivery.endpointId = id
  once : ∀ path path' delivery delivery', after.deliveries.documents path = some delivery →
    after.deliveries.documents path' = some delivery' → delivery.organisationId = notification.organisationId →
    delivery'.organisationId = notification.organisationId → delivery.notificationId = notification.id →
    delivery'.notificationId = notification.id → delivery.endpointId = delivery'.endpointId → path = path'

/-- Every endpoint that wants the notification wanted it when the endpoints were listed, and was among the first
hundred of its organisation. -/
def ListedAll (seen store : NotificationStore) (notification : Notification) : Prop :=
  ∀ id endpoint, store.endpoints.documents (notification.organisationId, id) = some endpoint →
    endpoint.Wants notification.kind →
    ∃ listed, seen.endpoints.documents (notification.organisationId, id) = some listed ∧
      listed.Wants notification.kind ∧
      seen.endpoints.before NotificationStore.endpointOrder (fun row => row.1.1 = notification.organisationId)
        ((notification.organisationId, id), listed) < 100

/-- A new delivery is pending, for its own notification and endpoint. -/
theorem newDelivery_ok {endpoint : NotificationEndpoint} {delivery : NotificationDelivery}
    (h : newDelivery sha256 notification endpoint = .ok delivery) :
    deliveryId sha256 notification.id endpoint.id = .ok delivery.id ∧
      delivery.organisationId = notification.organisationId ∧ delivery.notificationId = notification.id ∧
      delivery.endpointId = endpoint.id ∧ delivery.leaseExpiresAt = none := by
  simp only [newDelivery, bind_ok, pure_ok] at h
  obtain ⟨id, hid, rfl⟩ := h
  exact ⟨hid, rfl, rfl, rfl, rfl⟩

/-- A replayed emission creates nothing. -/
theorem emit_replayed {selected : List NotificationEndpoint} {result : Notification}
    (h : store.emit sha256 notification selected = .ok ((result, false), after)) : after = store := by
  unfold NotificationStore.emit at h
  dsimp only at h
  split at h
  · simp only [unit_bind_ok, pure_ok, Prod.mk.injEq] at h
    exact h.2.2.symm
  · simp only [bind_ok, pure_ok, Prod.mk.injEq] at h
    obtain ⟨_, -, _, -, _, -, ⟨-, h⟩, -⟩ := h
    cases h

/-- An applied emission writes the notification, and a delivery for every selected endpoint, as it is in the
transaction. -/
theorem emit_applied {selected : List NotificationEndpoint} {result : Notification}
    (h : store.emit sha256 notification selected = .ok ((result, true), after)) :
    store.notifications (notification.organisationId, notification.id) = none ∧
      (∀ endpoint ∈ selected,
        store.endpoints.documents (notification.organisationId, endpoint.id) = some endpoint ∧
          ∃ delivery, newDelivery sha256 notification endpoint = .ok delivery) ∧
      after.endpoints = store.endpoints ∧
      after.notifications =
        store.notifications.set (notification.organisationId, notification.id) notification ∧
      ∀ path delivery, after.deliveries.documents path = some delivery ↔
        (∃ endpoint ∈ selected, newDelivery sha256 notification endpoint = .ok delivery ∧
          path = (notification.organisationId, notification.id, delivery.id)) ∨
        store.deliveries.documents path = some delivery := by
  unfold NotificationStore.emit at h
  dsimp only at h
  split at h
  · simp only [unit_bind_ok, pure_ok, Prod.mk.injEq] at h
    obtain ⟨-, ⟨-, h⟩, -⟩ := h
    cases h
  · rename_i habsent
    simp only [bind_ok, pure_ok, Prod.mk.injEq] at h
    obtain ⟨current, hcurrent, created, hcreated, deliveries, hdeliveries, -, rfl⟩ := h
    have hread : ∀ endpoint found, store.currentEndpoint notification.organisationId endpoint = .ok found →
        found = endpoint ∧
          store.endpoints.documents (notification.organisationId, endpoint.id) = some endpoint := by
      intro endpoint found h
      simp only [NotificationStore.currentEndpoint, required_bind_ok, unit_bind_ok, raiseIf_ok, pure_ok, not_not] at h
      obtain ⟨stored, hstored, rfl, rfl⟩ := h
      exact ⟨rfl, hstored⟩
    have hsame : current = selected := by
      have hall := collect_ok.mp hcurrent
      clear hcurrent hcreated
      induction hall with
      | nil => rfl
      | cons hread' _ ih => rw [(hread _ _ hread').1, ih]
    rw [hsame] at hcreated hcurrent
    obtain ⟨-, -, hdocuments⟩ := Collection.createAll_ok (Catalogue.createAll_documents hdeliveries)
    refine ⟨habsent, ?_, rfl, rfl, ?_⟩
    · intro endpoint hendpoint
      obtain ⟨found, hfound⟩ := collect_mem hcurrent hendpoint
      exact ⟨(hread _ _ hfound).2, collect_mem hcreated hendpoint⟩
    · intro path delivery
      rw [hdocuments, List.mem_map]
      refine or_congr_left ?_
      constructor
      · rintro ⟨d, hd, heq⟩
        obtain ⟨hpath, hdelivery⟩ := Prod.mk.inj heq
        rw [hdelivery] at hd hpath
        obtain ⟨endpoint, hendpoint, hnew⟩ := collect_result hcreated hd
        exact ⟨endpoint, hendpoint, hnew, hpath.symm⟩
      · rintro ⟨endpoint, hendpoint, hnew, rfl⟩
        obtain ⟨d, hd, hnew'⟩ := collect_value hcreated hendpoint
        rw [hnew] at hnew'
        cases hnew'
        exact ⟨delivery, hd, rfl⟩

/-- An emission keeps the documents sound and changes no delivery that exists. -/
theorem emit_sound {selected : List NotificationEndpoint} {result : Notification} {applied : Bool}
    (sound : Sound sha256 store) (h : store.emit sha256 notification selected = .ok ((result, applied), after)) :
    Sound sha256 after ∧ ∀ path delivery, store.deliveries.documents path = some delivery →
      after.deliveries.documents path = some delivery := by
  cases applied with
  | false =>
    rw [emit_replayed h]
    exact ⟨sound, fun _ _ h => h⟩
  | true =>
    obtain ⟨-, hselected, hendpoints, hnotifications, hdeliveries⟩ := emit_applied h
    refine ⟨⟨?_, ?_, ?_, ?_, ?_⟩, fun path delivery hold => (hdeliveries path delivery).mpr (.inr hold)⟩
    · rw [hendpoints]
      exact sound.endpoint
    · intro path found hfound
      rw [hnotifications] at hfound
      rcases Collection.set_eq_some.mp hfound with ⟨rfl, rfl⟩ | ⟨-, hfound⟩
      · rfl
      · exact sound.notification path found hfound
    · intro path delivery hdelivery
      rcases (hdeliveries path delivery).mp hdelivery with ⟨endpoint, -, hnew, rfl⟩ | hold
      · obtain ⟨hid, horganisation, hnotification, hendpoint, -⟩ := newDelivery_ok hnew
        rw [horganisation, hnotification, hendpoint]
        exact ⟨rfl, hid⟩
      · exact sound.placed path delivery hold
    · intro path delivery hdelivery
      rw [hendpoints, hnotifications]
      rcases (hdeliveries path delivery).mp hdelivery with ⟨endpoint, hendpoint, hnew, rfl⟩ | hold
      · obtain ⟨-, horganisation, hnotification, hid, -⟩ := newDelivery_ok hnew
        rw [horganisation, hnotification, hid]
        exact ⟨⟨notification, Collection.set_same ..⟩, endpoint, (hselected endpoint hendpoint).1⟩
      · obtain ⟨⟨source, hsource⟩, hendpoint⟩ := sound.sources path delivery hold
        refine ⟨?_, hendpoint⟩
        by_cases hkey : (delivery.organisationId, delivery.notificationId) =
            (notification.organisationId, notification.id)
        · exact ⟨notification, by rw [hkey]; exact Collection.set_same ..⟩
        · exact ⟨source, (Collection.set_of_ne hkey).trans hsource⟩
    · intro path delivery expires hdelivery hexpires
      rcases (hdeliveries path delivery).mp hdelivery with ⟨endpoint, -, hnew, -⟩ | hold
      · rw [(newDelivery_ok hnew).2.2.2.2] at hexpires
        cases hexpires
      · exact sound.leased path delivery expires hold hexpires

private theorem endpointOrder_injective {a b : (Identifier × Identifier) × NotificationEndpoint}
    (h : NotificationStore.endpointOrder a = NotificationStore.endpointOrder b) : a.1 = b.1 := by
  simp only [NotificationStore.endpointOrder, EmbeddingLike.apply_eq_iff_eq, Prod.mk.injEq] at h
  exact Prod.ext (Identifier.text_injective h.1) (Identifier.text_injective h.2)

/-- What an emission selects: the first hundred endpoints of the organisation that want the notification. -/
theorem mem_selectEndpoints (sound : Sound sha256 seen) {endpoint : NotificationEndpoint} :
    endpoint ∈ seen.selectEndpoints notification ↔
      seen.endpoints.documents (notification.organisationId, endpoint.id) = some endpoint ∧
        endpoint.Wants notification.kind ∧
        seen.endpoints.before NotificationStore.endpointOrder (fun row => row.1.1 = notification.organisationId)
          ((notification.organisationId, endpoint.id), endpoint) < 100 := by
  simp only [NotificationStore.selectEndpoints, NotificationStore.listEndpoints, List.mem_filter, List.mem_map,
    decide_eq_true_eq]
  constructor
  · rintro ⟨⟨⟨path, found⟩, hrow, rfl⟩, hwants⟩
    obtain ⟨hfound, horganisation, hbefore⟩ := (Catalogue.mem_query fun _ _ => endpointOrder_injective).mp hrow
    have hid : path.2 = found.id := by rw [sound.endpoint path found hfound]
    have hpath : path = (notification.organisationId, found.id) := Prod.ext (of_decide_eq_true horganisation) hid
    rw [hpath] at hfound hbefore
    exact ⟨hfound, hwants, hbefore⟩
  · rintro ⟨hfound, hwants, hbefore⟩
    refine ⟨⟨((notification.organisationId, endpoint.id), endpoint), ?_, rfl⟩, hwants⟩
    exact (Catalogue.mem_query fun _ _ => endpointOrder_injective).mpr ⟨hfound, decide_eq_true rfl, hbefore⟩

/-- An applied emission fans out exactly when every endpoint that wants the notification was listed. -/
theorem emit_fansOut_iff {result : Notification} (sound : Sound sha256 store) (listed : Sound sha256 seen)
    (h : store.emit sha256 notification (seen.selectEndpoints notification) = .ok ((result, true), after)) :
    FansOut store after notification ↔ ListedAll seen store notification := by
  obtain ⟨habsent, hselected, -, -, hdeliveries⟩ := emit_applied h
  have hown : ∀ path delivery, after.deliveries.documents path = some delivery →
      delivery.organisationId = notification.organisationId → delivery.notificationId = notification.id →
      ∃ endpoint ∈ seen.selectEndpoints notification, newDelivery sha256 notification endpoint = .ok delivery ∧
        path = (notification.organisationId, notification.id, delivery.id) := by
    intro path delivery hdelivery horganisation hnotification
    refine ((hdeliveries path delivery).mp hdelivery).resolve_right fun hold => ?_
    obtain ⟨⟨source, hsource⟩, -⟩ := sound.sources path delivery hold
    rw [horganisation, hnotification, habsent] at hsource
    cases hsource
  constructor
  · intro fans id endpoint hendpoint hwants
    obtain ⟨path, delivery, hdelivery, horganisation, hnotification, hid⟩ := (fans.wanted id).mp ⟨endpoint, hendpoint, hwants⟩
    obtain ⟨selected, hmem, hnew, -⟩ := hown path delivery hdelivery horganisation hnotification
    have hselectedId : selected.id = id := by rw [← hid, (newDelivery_ok hnew).2.2.2.1]
    obtain ⟨hfound, hwanted, hbefore⟩ := (mem_selectEndpoints listed).mp hmem
    rw [hselectedId] at hfound hbefore
    exact ⟨selected, hfound, hwanted, hbefore⟩
  · intro all
    refine ⟨fun id => ⟨?_, ?_⟩, ?_⟩
    · rintro ⟨endpoint, hendpoint, hwants⟩
      obtain ⟨found, hfound, hwanted, hbefore⟩ := all id endpoint hendpoint hwants
      have hid : found.id = id := (congrArg Prod.snd (listed.endpoint _ found hfound)).symm
      rw [← hid] at hfound hbefore
      have hmem := (mem_selectEndpoints listed).mpr ⟨hfound, hwanted, hbefore⟩
      obtain ⟨-, delivery, hnew⟩ := hselected found hmem
      obtain ⟨-, horganisation, hnotification, hendpointId, -⟩ := newDelivery_ok hnew
      exact ⟨_, delivery, (hdeliveries _ delivery).mpr (.inl ⟨found, hmem, hnew, rfl⟩), horganisation, hnotification,
        hendpointId.trans hid⟩
    · rintro ⟨path, delivery, hdelivery, horganisation, hnotification, hid⟩
      obtain ⟨selected, hmem, hnew, -⟩ := hown path delivery hdelivery horganisation hnotification
      have hselectedId : selected.id = id := by rw [← hid, (newDelivery_ok hnew).2.2.2.1]
      rw [← hselectedId]
      exact ⟨selected, (hselected selected hmem).1, ((mem_selectEndpoints listed).mp hmem).2.1⟩
    · intro path path' delivery delivery' hd hd' ho ho' hn hn' he
      obtain ⟨endpoint, -, hnew, rfl⟩ := hown path delivery hd ho hn
      obtain ⟨endpoint', -, hnew', rfl⟩ := hown path' delivery' hd' ho' hn'
      have hid := (newDelivery_ok hnew).1
      have hid' := (newDelivery_ok hnew').1
      rw [← (newDelivery_ok hnew).2.2.2.1, he, (newDelivery_ok hnew').2.2.2.1, hid'] at hid
      rw [Except.ok.inj hid]

end Uumi.Notifications
