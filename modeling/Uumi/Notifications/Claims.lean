import Uumi.Notifications.Integrity

/-! What a claim of deliveries returns, and when it returns any. -/
namespace Uumi.Notifications
open Uumi.Contracts Uumi.Core Uumi.Foundations Uumi.Storage

variable {sha256 : String → String} {store after : NotificationStore} {owner : Identifier} {now : AwareDatetime}
  {lease limit : Nat} {rows : List ((Identifier × Identifier × Identifier) × NotificationDelivery)}
  {claims result : List NotificationClaim}

/-- A claim leases a delivery whose lease was free to its owner, and the delivery is stored so. -/
def Granted (owner : Identifier) (now : AwareDatetime) (lease : Nat) (before after : NotificationStore)
    (claim : NotificationClaim) : Prop :=
  ∃ (delivery : NotificationDelivery) (h : delivery.Claimable now),
    before.deliveries.documents claim.path = some delivery ∧
      claim.delivery = delivery.claimed owner (leaseEnd now lease) h.not_sent ∧
      after.deliveries.documents claim.path = some claim.delivery

/-- A granted claim is on its own delivery, which it writes. -/
theorem claimOne_granted {path : Identifier × Identifier × Identifier} {claim : NotificationClaim}
    (sound : Sound sha256 store) (h : store.claimOne path owner now lease = .ok (some claim, after)) :
    claim.path = path ∧ Granted owner now lease store after claim := by
  cases hfound : store.deliveries.documents path with
  | none =>
    simp only [NotificationStore.claimOne, required_bind_ok] at h
    obtain ⟨current, hcurrent, -⟩ := h
    rw [hfound] at hcurrent
    cases hcurrent
  | some delivery =>
    rcases claimOne_cases now owner lease sound hfound with
      ⟨hclaim, notification, endpoint, heq⟩ | ⟨-, heq⟩
    · rw [heq] at h
      cases h
      exact ⟨rfl, delivery, hclaim, hfound, rfl, Collection.set_same ..⟩
    · rw [heq] at h
      cases h

/-- Every delivery that the loop of a claim returns was leased by it, and no other document was written. -/
theorem claimRows_granted (sound : Sound sha256 store) (distinct : (rows.map Prod.fst).Nodup)
    (h : NotificationStore.claimRows owner now lease limit rows claims store = .ok (result, after)) :
    ∃ new, result = claims ++ new ∧
      ∀ claim ∈ new, claim.path ∈ rows.map Prod.fst ∧ Granted owner now lease store after claim := by
  induction rows generalizing claims store with
  | nil =>
    cases h
    exact ⟨[], (List.append_nil _).symm, fun _ hclaim => absurd hclaim List.not_mem_nil⟩
  | cons row rows ih =>
    obtain ⟨hnot, hdistinct⟩ := List.nodup_cons.mp distinct
    rw [NotificationStore.claimRows, bind_ok] at h
    obtain ⟨⟨claimed, next⟩, hone, h⟩ := h
    obtain ⟨hsound, -, -, hothers, -⟩ := claimOne_sound sound hone
    have hfirst : ∀ claim ∈ claimed.toList, claim.path = row.1 ∧ Granted owner now lease store next claim := by
      intro claim hclaim
      rw [Option.mem_toList.mp hclaim] at hone
      exact claimOne_granted sound hone
    dsimp only at h
    split at h
    · cases h
      refine ⟨claimed.toList, rfl, ?_⟩
      intro claim hclaim
      obtain ⟨hpath, hgranted⟩ := hfirst claim hclaim
      exact ⟨by simp [hpath], hgranted⟩
    · obtain ⟨new, rfl, hnew⟩ := ih hsound hdistinct h
      obtain ⟨-, -, -, hkept, -⟩ := claimRows_sound hsound hdistinct h
      refine ⟨claimed.toList ++ new, List.append_assoc .., ?_⟩
      intro claim hclaim
      rcases List.mem_append.mp hclaim with hclaim | hclaim
      · obtain ⟨hpath, delivery, hfree, hbefore, hdelivery, hafter⟩ := hfirst claim hclaim
        refine ⟨by simp [hpath], delivery, hfree, hbefore, hdelivery, ?_⟩
        rw [hkept claim.path (hpath ▸ hnot)]
        exact hafter
      · obtain ⟨hpath, delivery, hfree, hbefore, hdelivery, hafter⟩ := hnew claim hclaim
        refine ⟨List.mem_cons_of_mem _ hpath, delivery, hfree, ?_, hdelivery, hafter⟩
        rw [← hothers claim.path fun heq => hnot (heq ▸ hpath)]
        exact hbefore

private theorem stored_set {path other : Identifier × Identifier × Identifier} {changed : NotificationDelivery}
    (h : ∃ delivery, store.deliveries.documents other = some delivery) :
    ∃ delivery, (store.deliveries.set path changed).documents other = some delivery := by
  by_cases hkey : other = path
  · exact ⟨changed, by rw [hkey]; exact Collection.set_same ..⟩
  · obtain ⟨delivery, hdelivery⟩ := h
    exact ⟨delivery, (Collection.set_of_ne hkey).trans hdelivery⟩

/-- The loop of a claim over documents that are there does not raise, and keeps what it has claimed. -/
theorem claimRows_total (sound : Sound sha256 store)
    (stored : ∀ row ∈ rows, ∃ delivery, store.deliveries.documents row.1 = some delivery) (claims) :
    ∃ new after, NotificationStore.claimRows owner now lease limit rows claims store = .ok (claims ++ new, after) := by
  induction rows generalizing claims store with
  | nil => exact ⟨[], store, by rw [List.append_nil]; rfl⟩
  | cons row rows ih =>
    obtain ⟨delivery, hfound⟩ := stored row List.mem_cons_self
    rw [NotificationStore.claimRows]
    rcases claimOne_cases now owner lease sound hfound with
      ⟨hclaim, notification, endpoint, heq⟩ | ⟨-, heq⟩
    · rw [heq, ok_bind]
      dsimp only
      split
      · exact ⟨_, _, rfl⟩
      · have hstored : ∀ other ∈ rows, ∃ d, (store.deliveries.set row.1
            (delivery.claimed owner (leaseEnd now lease) hclaim.not_sent)).documents other.1 = some d :=
          fun other hother => stored_set (stored other (List.mem_cons_of_mem _ hother))
        obtain ⟨new, after, h⟩ := ih (claimed_sound sound hfound hclaim) hstored _
        exact ⟨_, after, h.trans (by rw [List.append_assoc])⟩
    · rw [heq, ok_bind]
      dsimp only
      split
      · exact ⟨_, _, rfl⟩
      · obtain ⟨new, after, h⟩ := ih sound (fun other hother => stored other (List.mem_cons_of_mem _ hother)) _
        exact ⟨_, after, h.trans (by rw [List.append_assoc])⟩

variable (owner now lease) in
/-- The loop of a claim returns a delivery exactly when one of its rows can be claimed. -/
theorem claimRows_nonempty (sound : Sound sha256 store)
    (stored : ∀ row ∈ rows, store.deliveries.documents row.1 = some row.2) (positive : 1 ≤ limit) :
    ∃ result after, NotificationStore.claimRows owner now lease limit rows [] store = .ok (result, after) ∧
      (result ≠ [] ↔ ∃ row ∈ rows, row.2.Claimable now) := by
  induction rows with
  | nil => exact ⟨[], store, rfl, by simp⟩
  | cons row rows ih =>
    have hfound := stored row List.mem_cons_self
    have hrest : ∀ other ∈ rows, store.deliveries.documents other.1 = some other.2 := fun other hother =>
      stored other (List.mem_cons_of_mem _ hother)
    rcases claimOne_cases now owner lease sound hfound with
      ⟨hclaim, notification, endpoint, heq⟩ | ⟨hnot, heq⟩
    · have hstored : ∀ other ∈ rows, ∃ d, (store.deliveries.set row.1
          (row.2.claimed owner (leaseEnd now lease) hclaim.not_sent)).documents other.1 = some d :=
        fun other hother => stored_set ⟨other.2, hrest other hother⟩
      have hsome : ∃ row' ∈ row :: rows, row'.2.Claimable now := ⟨row, List.mem_cons_self, hclaim⟩
      rw [NotificationStore.claimRows, heq, ok_bind]
      dsimp only
      split
      · exact ⟨_, _, rfl, iff_of_true (List.cons_ne_nil _ _) hsome⟩
      · obtain ⟨new, after, h⟩ := claimRows_total (claimed_sound sound hfound hclaim) hstored _
        exact ⟨_, after, h, iff_of_true (List.cons_ne_nil _ _) hsome⟩
    · obtain ⟨result, after, h, hiff⟩ := ih hrest
      refine ⟨result, after, ?_, ?_⟩
      · rw [NotificationStore.claimRows, heq, ok_bind]
        dsimp only
        rw [if_neg (by simp; omega)]
        exact h
      · rw [hiff]
        simp [hnot]

/-- Some delivery can be claimed. -/
def Waiting (store : NotificationStore) (now : AwareDatetime) : Prop :=
  ∃ path delivery, store.deliveries.documents path = some delivery ∧ delivery.Claimable now

/-- Few enough deliveries that are due, held or not, come before one that can be claimed. -/
def InWindow (store : NotificationStore) (now : AwareDatetime) (limit : Nat) : Prop :=
  ∃ path delivery, store.deliveries.documents path = some delivery ∧ delivery.Claimable now ∧
    store.deliveries.before NotificationStore.deliveryOrder (NotificationStore.due now) (path, delivery) <
      NotificationStore.deliveryWindow limit

private theorem deliveryOrder_injective {a b : (Identifier × Identifier × Identifier) × NotificationDelivery}
    (h : NotificationStore.deliveryOrder a = NotificationStore.deliveryOrder b) : a.1 = b.1 := by
  simp only [NotificationStore.deliveryOrder, EmbeddingLike.apply_eq_iff_eq, Prod.mk.injEq] at h
  obtain ⟨-, horganisation, hnotification, hid⟩ := h
  exact Prod.ext (Identifier.text_injective horganisation)
    (Prod.ext (Identifier.text_injective hnotification) (Identifier.text_injective hid))

variable (owner now lease) in
/-- A claim does not raise, and returns a delivery exactly when one that can be claimed is in the window of its
query. -/
theorem claim_nonempty (sound : Sound sha256 store) (positive : 1 ≤ limit) :
    ∃ result after, store.claim owner now lease limit = .ok (result, after) ∧
      (result ≠ [] ↔ InWindow store now limit) := by
  have hstored : ∀ row ∈ store.deliveries.query NotificationStore.deliveryOrder (NotificationStore.due now)
      (NotificationStore.deliveryWindow limit), store.deliveries.documents row.1 = some row.2 :=
    fun row hrow => (Catalogue.of_mem_query hrow).1
  obtain ⟨result, after, h, hiff⟩ :=
    claimRows_nonempty owner now lease sound hstored positive
  refine ⟨result, after, h, hiff.trans ?_⟩
  constructor
  · rintro ⟨⟨path, delivery⟩, hrow, hclaim⟩
    obtain ⟨hfound, -, hbefore⟩ := (Catalogue.mem_query fun _ _ => deliveryOrder_injective).mp hrow
    exact ⟨path, delivery, hfound, hclaim, hbefore⟩
  · rintro ⟨path, delivery, hfound, hclaim, hbefore⟩
    have hstate : delivery.state = .pending ∨ delivery.state = .sending := hclaim.imp And.left And.left
    have hdue : NotificationStore.due now (path, delivery) = true :=
      decide_eq_true ⟨hstate, sound.available hfound hclaim⟩
    exact ⟨(path, delivery), (Catalogue.mem_query fun _ _ => deliveryOrder_injective).mpr ⟨hfound, hdue, hbefore⟩, hclaim⟩

end Uumi.Notifications
