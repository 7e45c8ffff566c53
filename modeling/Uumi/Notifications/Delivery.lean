import Uumi.Notifications.Claims
import Uumi.Notifications.FanOut

/-! Notifications in every run: registrations, emissions, claims and completions by any workers, in any order. -/
namespace Uumi.Notifications
open Uumi.Contracts Uumi.Core Uumi.Foundations Uumi.Storage

variable (sha256 : String → String)

/-- The documents, and the emissions that have listed the endpoints and not committed yet, with what they listed. -/
structure NotificationPool (ι : Type) where
  store : NotificationStore
  pending : ι → Option (Notification × NotificationStore)

/-- A worker that crashes takes no further action. -/
inductive NotificationAction (ι : Type) where
  | register (endpoint : NotificationEndpoint)
  | setEnabled (organisationId endpointId : Identifier) (expectedRevision : Nat) (enabled : Bool)
      (updatedAt : AwareDatetime)
  /-- The query of `emit`, before its transaction. -/
  | list (who : ι) (notification : Notification)
  /-- The transaction of `emit`. -/
  | emit (who : ι)
  | markRead (organisationId notificationId : Identifier) (expectedRevision : Nat) (readAt : AwareDatetime)
  /-- One transaction of a claim, with those of others before and after it. -/
  | claimOne (path : Identifier × Identifier × Identifier) (owner : Identifier) (now : AwareDatetime) (lease : Nat)
  /-- A claim that nobody interrupts. -/
  | claim (owner : Identifier) (now : AwareDatetime) (lease limit : Nat)
  /-- `mark_sent` or `mark_failed`. -/
  | finish (path : Identifier × Identifier × Identifier) (owner : Identifier) (outcome : DeliveryOutcome)

def NotificationAction.claimsAt {ι : Type} : NotificationAction ι → Option AwareDatetime
  | .claimOne _ _ now _ => some now
  | .claim _ now _ _ => some now
  | _ => none

namespace NotificationPool
variable {ι : Type} [DecidableEq ι] (pool : NotificationPool ι)

def initial : NotificationPool ι := ⟨.empty, fun _ => none⟩

def after {α : Type} (result : Except Error (α × NotificationStore)) : NotificationPool ι :=
  match result with
  | .ok (_, store) => { pool with store }
  | .error _ => pool

def next : NotificationAction ι → NotificationPool ι
  | .register endpoint => pool.after (pool.store.registerEndpoint endpoint)
  | .setEnabled organisationId endpointId expectedRevision enabled updatedAt =>
    pool.after (pool.store.setEndpointEnabled organisationId endpointId expectedRevision enabled updatedAt)
  | .list who notification =>
    { pool with pending := Function.update pool.pending who (some (notification, pool.store)) }
  | .emit who =>
    match pool.pending who with
    | none => pool
    | some (notification, seen) =>
      { pool.after (pool.store.emit sha256 notification (seen.selectEndpoints notification)) with
        pending := Function.update pool.pending who none }
  | .markRead organisationId notificationId expectedRevision readAt =>
    pool.after (pool.store.markRead organisationId notificationId expectedRevision readAt)
  | .claimOne path owner now lease => pool.after (pool.store.claimOne path owner now lease)
  | .claim owner now lease limit => pool.after (pool.store.claim owner now lease limit)
  | .finish path owner outcome => pool.after ((pool.store.finish path owner outcome).map ((), ·))

def run (actions : List (NotificationAction ι)) : NotificationPool ι := actions.foldl (next sha256) pool

/-- An emission that commits has listed every endpoint that wants the notification, and a claim finds a delivery that
it may have in the window of its query. -/
def Admissible : NotificationAction ι → Prop
  | .emit who => ∀ notification seen, pool.pending who = some (notification, seen) →
      pool.store.notifications (notification.organisationId, notification.id) = none →
      (∀ endpoint ∈ seen.selectEndpoints notification,
        pool.store.endpoints.documents (notification.organisationId, endpoint.id) = some endpoint) →
      ListedAll seen pool.store notification
  | .claim _ now _ limit => 1 ≤ limit → Waiting pool.store now → InWindow pool.store now limit
  | _ => True

/-- Every action of a run is admissible where it happens. -/
def AdmissibleRun : NotificationPool ι → List (NotificationAction ι) → Prop
  | _, [] => True
  | pool, action :: actions => pool.Admissible action ∧ AdmissibleRun (pool.next sha256 action) actions

/-- What an action promises. -/
structure Guarantees (action : NotificationAction ι) : Prop where
  /-- An emission that is applied fans out. -/
  applied : ∀ who notification seen result after, action = .emit who →
    pool.pending who = some (notification, seen) →
    pool.store.emit sha256 notification (seen.selectEndpoints notification) = .ok ((result, true), after) →
    FansOut pool.store after notification
  /-- An emission that is replayed creates nothing. -/
  replayed : ∀ who notification seen result after, action = .emit who →
    pool.pending who = some (notification, seen) →
    pool.store.emit sha256 notification (seen.selectEndpoints notification) = .ok ((result, false), after) →
    after = pool.store
  /-- Deliveries are created by emissions alone, and none is deleted. -/
  created : (∀ who, action ≠ .emit who) → ∀ path,
    (pool.next sha256 action).store.deliveries.documents path = none ↔ pool.store.deliveries.documents path = none
  /-- A delivery that was sent or has failed stays as it is. -/
  final : ∀ path delivery, pool.store.deliveries.documents path = some delivery →
    delivery.state = .sent ∨ delivery.state = .failed →
    (pool.next sha256 action).store.deliveries.documents path = some delivery
  /-- A leased delivery changes when its owner finishes it, or is claimed after its lease has expired. -/
  leased : ∀ path delivery owner, pool.store.deliveries.documents path = some delivery →
    delivery.leaseOwner = some owner →
    (pool.next sha256 action).store.deliveries.documents path = some delivery ∨
      (∃ outcome, action = .finish path owner outcome) ∨
      ∃ now expires, action.claimsAt = some now ∧ delivery.leaseExpiresAt = some expires ∧ expires ≤ now
  /-- What a claim returns is leased to its owner. -/
  granted : ∀ owner now lease limit result after, action = .claim owner now lease limit →
    pool.store.claim owner now lease limit = .ok (result, after) →
    ∀ claim ∈ result, Granted owner now lease pool.store after claim
  grantedOne : ∀ path owner now lease claim after, action = .claimOne path owner now lease →
    pool.store.claimOne path owner now lease = .ok (some claim, after) → Granted owner now lease pool.store after claim
  /-- A claim returns a delivery when there is one that it may have. -/
  progress : ∀ owner now lease limit, action = .claim owner now lease limit → 1 ≤ limit → Waiting pool.store now →
    ∃ result after, pool.store.claim owner now lease limit = .ok (result, after) ∧ result ≠ []

end NotificationPool

variable {sha256} {ι : Type} [DecidableEq ι] {pool : NotificationPool ι}

/-- The documents are sound, and so were those that a pending emission listed. -/
structure SoundPool (sha256 : String → String) (pool : NotificationPool ι) : Prop where
  store : Sound sha256 pool.store
  seen : ∀ who notification seen, pool.pending who = some (notification, seen) → Sound sha256 seen

omit [DecidableEq ι] in
/-- The pool without documents is sound. -/
theorem initial_sound : SoundPool sha256 (.initial : NotificationPool ι) := 
  ⟨empty_sound, fun _ _ _ h => absurd h (Option.some_ne_none _).symm⟩

/-- What an action may do to a delivery: nothing, or claim it, or finish it for its owner. -/
def Evolves (action : NotificationAction ι) (path : Identifier × Identifier × Identifier)
    (before after : Option NotificationDelivery) : Prop :=
  after = before ∨
    (∃ now owner lease, action.claimsAt = some now ∧ ClaimedFrom owner now lease before after) ∨
    ∃ owner outcome delivery, action = .finish path owner outcome ∧ before = some delivery ∧
      delivery.state = .sending ∧ delivery.leaseOwner = some owner ∧ after = some (delivery.finished outcome)

omit [DecidableEq ι] in
private theorem after_sound {α : Type} {action : NotificationAction ι} {result : Except Error (α × NotificationStore)}
    (sound : SoundPool sha256 pool)
    (h : ∀ value store, result = .ok (value, store) → Sound sha256 store ∧ ∀ path,
      Evolves action path (pool.store.deliveries.documents path) (store.deliveries.documents path)) :
    SoundPool sha256 (pool.after result) ∧ ∀ path,
      Evolves action path (pool.store.deliveries.documents path) ((pool.after result).store.deliveries.documents path) := by
  cases result with
  | error e => exact ⟨sound, fun _ => .inl rfl⟩
  | ok value =>
    obtain ⟨value, store⟩ := value
    obtain ⟨hsound, hevolves⟩ := h value store rfl
    exact ⟨⟨hsound, sound.seen⟩, hevolves⟩

/-- A step keeps the documents sound, and no step but an emission creates a delivery. -/
theorem next_sound (sound : SoundPool sha256 pool) (action : NotificationAction ι) :
    SoundPool sha256 (pool.next sha256 action) ∧
      ((∀ who, action ≠ .emit who) → ∀ path, Evolves action path (pool.store.deliveries.documents path)
        ((pool.next sha256 action).store.deliveries.documents path)) := by
  cases action with
  | register endpoint =>
    refine And.imp_right (fun h _ => h) (after_sound sound fun value store h => ?_)
    obtain ⟨hsound, hdeliveries⟩ := registerEndpoint_sound sound.store h
    exact ⟨hsound, fun path => .inl (by rw [hdeliveries])⟩
  | setEnabled o id revision enabled updatedAt =>
    refine And.imp_right (fun h _ => h) (after_sound sound fun value store h => ?_)
    obtain ⟨hsound, hdeliveries⟩ := setEndpointEnabled_sound sound.store h
    exact ⟨hsound, fun path => .inl (by rw [hdeliveries])⟩
  | list who notification =>
    refine ⟨⟨sound.store, ?_⟩, fun _ _ => .inl rfl⟩
    intro other found seen hseen
    simp only [NotificationPool.next] at hseen
    by_cases hother : other = who
    · rw [hother, Function.update_self] at hseen
      cases hseen
      exact sound.store
    · rw [Function.update_of_ne hother] at hseen
      exact sound.seen other found seen hseen
  | emit who =>
    refine ⟨?_, fun h => absurd rfl (h who)⟩
    rw [NotificationPool.next]
    split
    · exact sound
    · have hpending : ∀ other found seen, Function.update pool.pending who none other = some (found, seen) →
          Sound sha256 seen := by
        intro other found seen hseen
        by_cases hother : other = who
        · rw [hother, Function.update_self] at hseen
          cases hseen
        · rw [Function.update_of_ne hother] at hseen
          exact sound.seen other found seen hseen
      refine ⟨?_, hpending⟩
      unfold NotificationPool.after
      split
      · rename_i hemit
        exact (emit_sound sound.store hemit).1
      · exact sound.store
  | markRead o id revision readAt =>
    refine And.imp_right (fun h _ => h) (after_sound sound fun value store h => ?_)
    obtain ⟨hsound, hdeliveries⟩ := markRead_sound sound.store h
    exact ⟨hsound, fun path => .inl (by rw [hdeliveries])⟩
  | claimOne path owner now lease =>
    refine And.imp_right (fun h _ => h) (after_sound sound fun value store h => ?_)
    obtain ⟨hsound, -, -, hothers, hclaimed⟩ := claimOne_sound sound.store h
    refine ⟨hsound, fun other => ?_⟩
    by_cases hother : other = path
    · subst hother
      exact .inr (.inl ⟨now, owner, lease, rfl, hclaimed⟩)
    · exact .inl (hothers other hother)
  | claim owner now lease limit =>
    refine And.imp_right (fun h _ => h) (after_sound sound fun value store h => ?_)
    obtain ⟨hsound, -, -, hclaimed⟩ := claim_sound sound.store h
    exact ⟨hsound, fun path => .inr (.inl ⟨now, owner, lease, rfl, hclaimed path⟩)⟩
  | finish path owner outcome =>
    refine And.imp_right (fun h _ => h) (after_sound sound fun value store h => ?_)
    cases hfinish : pool.store.finish path owner outcome with
    | error e =>
      rw [hfinish] at h
      cases h
    | ok finished =>
      rw [hfinish] at h
      cases h
      obtain ⟨hsound, -, -, hothers, hpath⟩ := finish_sound sound.store hfinish
      refine ⟨hsound, fun other => ?_⟩
      by_cases hother : other = path
      · subst hother
        rcases hpath with hpath | ⟨delivery, hfound, hsending, howner, hafter⟩
        · exact .inl hpath
        · exact .inr (.inr ⟨owner, outcome, delivery, rfl, hfound, hsending, howner, hafter⟩)
      · exact .inl (hothers other hother)

/-- An emission leaves the deliveries that are there as they are. -/
theorem emit_keeps {who : ι} (sound : SoundPool sha256 pool) {path : Identifier × Identifier × Identifier}
    {delivery : NotificationDelivery} (h : pool.store.deliveries.documents path = some delivery) :
    (pool.next sha256 (.emit who)).store.deliveries.documents path = some delivery := by
  rw [NotificationPool.next]
  split
  · exact h
  · unfold NotificationPool.after
    dsimp only
    split
    · rename_i hemit
      exact (emit_sound sound.store hemit).2 path delivery h
    · exact h

/-- A delivery that is there evolves. -/
theorem next_evolves (sound : SoundPool sha256 pool) (action : NotificationAction ι)
    {path : Identifier × Identifier × Identifier} {delivery : NotificationDelivery}
    (h : pool.store.deliveries.documents path = some delivery) :
    Evolves action path (some delivery) ((pool.next sha256 action).store.deliveries.documents path) := by
  by_cases hemit : ∃ who, action = .emit who
  · obtain ⟨who, rfl⟩ := hemit
    exact .inl (emit_keeps sound h)
  · rw [← h]
    exact (next_sound sound action).2 (fun who heq => hemit ⟨who, heq⟩) path

omit [DecidableEq ι] in
/-- A delivery that has ended does not evolve. -/
theorem Evolves.final {action : NotificationAction ι} {path : Identifier × Identifier × Identifier}
    {delivery : NotificationDelivery} {after : Option NotificationDelivery}
    (h : Evolves action path (some delivery) after) (ended : delivery.state = .sent ∨ delivery.state = .failed) :
    after = some delivery := by
  have hnot : ∀ now, ¬ delivery.Claimable now := by
    rintro now (⟨hstate, -⟩ | ⟨hstate, -⟩) <;> simp [hstate] at ended
  rcases h with h | ⟨now, _, _, -, h | ⟨_, hclaim, heq, -⟩⟩ | ⟨_, _, _, -, heq, hsending, -⟩
  · exact h
  · exact h
  · cases heq
    exact absurd hclaim (hnot now)
  · cases heq
    simp [hsending] at ended

omit [DecidableEq ι] in
/-- A leased delivery evolves by its owner, or after its lease has expired. -/
theorem Evolves.leased {action : NotificationAction ι} {path : Identifier × Identifier × Identifier}
    {delivery : NotificationDelivery} {after : Option NotificationDelivery} {owner : Identifier}
    (h : Evolves action path (some delivery) after) (owned : delivery.leaseOwner = some owner) :
    after = some delivery ∨ (∃ outcome, action = .finish path owner outcome) ∨
      ∃ now expires, action.claimsAt = some now ∧ delivery.leaseExpiresAt = some expires ∧ expires ≤ now := by
  rcases h with h | ⟨now, _, _, htime, h | ⟨_, hclaim, heq, -⟩⟩ | ⟨other, outcome, _, haction, heq, -, howner, -⟩
  · exact .inl h
  · exact .inl h
  · cases heq
    rcases hclaim with ⟨hpending, -⟩ | ⟨-, expires, hexpires, hle⟩
    · have hsending := delivery.leased.mpr (by rw [owned]; exact Option.some_ne_none _)
      rw [hpending] at hsending
      cases hsending
    · exact .inr (.inr ⟨now, expires, htime, hexpires, hle⟩)
  · cases heq
    rw [owned] at howner
    cases howner
    exact .inr (.inl ⟨outcome, haction⟩)

omit [DecidableEq ι] in
private theorem Evolves.none_iff {action : NotificationAction ι} {path : Identifier × Identifier × Identifier}
    {before after : Option NotificationDelivery} (h : Evolves action path before after) :
    after = none ↔ before = none := by
  rcases h with rfl | ⟨_, _, _, -, rfl | ⟨_, _, rfl, rfl⟩⟩ | ⟨_, _, _, -, rfl, -, -, rfl⟩
  · rfl
  · rfl
  · simp
  · simp

/-- An admissible action does what it promises. -/
theorem guarantees_of_admissible (sound : SoundPool sha256 pool) {action : NotificationAction ι}
    (admissible : pool.Admissible action) : pool.Guarantees sha256 action where
  applied := by
    rintro who notification seen result after rfl hpending hemit
    refine (emit_fansOut_iff sound.store (sound.seen who notification seen hpending) hemit).mpr ?_
    obtain ⟨habsent, hselected, -⟩ := emit_applied hemit
    exact admissible notification seen hpending habsent fun endpoint h => (hselected endpoint h).1
  replayed := by
    rintro who notification seen result after rfl - hemit
    exact emit_replayed hemit
  created hemit path := ((next_sound sound action).2 hemit path).none_iff
  final path delivery h ended := (next_evolves sound action h).final ended
  leased path delivery owner h owned := (next_evolves sound action h).leased owned
  granted := by
    rintro owner now lease limit result after rfl h claim hclaim
    obtain ⟨new, rfl, hnew⟩ := claimRows_granted sound.store (Catalogue.query_nodup pool.store.deliveries) h
    exact (hnew claim hclaim).2
  grantedOne := by
    rintro path owner now lease claim after rfl h
    exact (claimOne_granted sound.store h).2
  progress := by
    rintro owner now lease limit rfl positive hwaiting
    obtain ⟨result, after, h, hiff⟩ := claim_nonempty owner now lease sound.store positive
    exact ⟨result, after, h, hiff.mpr (admissible positive hwaiting)⟩

/-- A run of actions keeps the documents sound. -/
theorem run_sound {actions : List (NotificationAction ι)} (sound : SoundPool sha256 pool) :
    SoundPool sha256 (pool.run sha256 actions) := by
  induction actions generalizing pool with
  | nil => exact sound
  | cons action actions ih => exact ih (next_sound sound action).1

/-- The action that follows admissible ones is admissible where it is taken. -/
theorem NotificationPool.AdmissibleRun.split {before after : List (NotificationAction ι)}
    {action : NotificationAction ι} (h : pool.AdmissibleRun sha256 (before ++ action :: after)) :
    (pool.run sha256 before).Admissible action := by
  induction before generalizing pool with
  | nil => exact h.1
  | cons first before ih => exact ih h.2

/-- In every run whose emissions list all endpoints that want them, and whose claims find what they may have in the
window of their query, every action does what it promises. -/
theorem notifications_delivered (actions : List (NotificationAction ι))
    (admissible : NotificationPool.initial.AdmissibleRun sha256 actions) (before : List (NotificationAction ι))
    (action : NotificationAction ι) (after : List (NotificationAction ι)) (split : actions = before ++ action :: after) :
    (NotificationPool.initial.run sha256 before).Guarantees sha256 action := by
  subst split
  exact guarantees_of_admissible (run_sound initial_sound) admissible.split

def sampleDigest (text : String) : String :=
  if text = "event-1\x00endpoint-1" then "149242c22c4b085b6a9caa4663af1bf4a3781a15bfee6f6d6ed6cd6334f3d6ef"
  else if text = "event-1\x00endpoint-2" then "85cc25f91ad2b76cfeed33eb8bc8346a5c6603590fbc7dcd0d304e025adbb14f"
  else text

def sampleOrganisation : Identifier := ⟨"organisation", rfl⟩

def sampleEndpoint : NotificationEndpoint where
  id := ⟨"endpoint-1", rfl⟩
  organisationId := sampleOrganisation
  displayName := ⟨"Incidents", by decide⟩
  channel := .chat
  provider := .slack
  authReference := ⟨"projects/uumi/secrets/slack/versions/1", by decide⟩
  eventKinds := {.incident}
  createdAt := ⟨0, 0⟩
  updatedAt := ⟨0, 0⟩

def secondEndpoint : NotificationEndpoint := { sampleEndpoint with id := ⟨"endpoint-2", rfl⟩ }

def sampleNotification : Notification where
  id := ⟨"event-1", rfl⟩
  organisationId := sampleOrganisation
  kind := .incident
  severity := .high
  title := ⟨"Incident", by decide⟩
  body := ⟨"A key was used.", by decide⟩
  linkPath := ⟨"/incidents/1", by decide⟩
  resourceId := ⟨"incident-1", rfl⟩
  createdAt := ⟨1, 0⟩

def firstWorker : Identifier := ⟨"worker-1", rfl⟩

def secondWorker : Identifier := ⟨"worker-2", rfl⟩

def sampleDeliveryPath : Identifier × Identifier × Identifier :=
  (sampleOrganisation, sampleNotification.id,
    ⟨"delivery_149242c22c4b085b6a9caa4663af1bf4a3781a15", rfl⟩)

def lateRun : List (NotificationAction Nat) := [.list 0 sampleNotification, .register sampleEndpoint]

def earlyRun : List (NotificationAction Nat) :=
  [.register sampleEndpoint, .register secondEndpoint, .list 0 sampleNotification, .emit 0,
    .claim firstWorker ⟨2, 0⟩ 10 1, .claim secondWorker ⟨3, 0⟩ 10 1,
    .finish sampleDeliveryPath firstWorker (.sent ⟨"receipt", by decide⟩ ⟨4, 0⟩)]

/-- An endpoint that wants a notification gets no delivery of it, and a repeated emission creates none. -/
theorem emission_misses_endpoint :
    ¬ (NotificationPool.initial.run sampleDigest lateRun).Guarantees sampleDigest (.emit 0) := by
  intro guarantees
  have hemit : (NotificationPool.initial.run sampleDigest lateRun).store.emit sampleDigest sampleNotification
      (NotificationStore.empty.selectEndpoints sampleNotification) = .ok ((sampleNotification, true), _) := rfl
  have fans := guarantees.applied 0 sampleNotification .empty sampleNotification _ rfl rfl hemit
  obtain ⟨path, delivery, hdelivery, -⟩ :=
    (fans.wanted sampleEndpoint.id).mp ⟨sampleEndpoint, rfl, rfl, Finset.mem_singleton_self _⟩
  exact Option.some_ne_none _ hdelivery.symm

private theorem inWindow_of_waiting {store : NotificationStore} {now : AwareDatetime} {limit : Nat}
    (few : store.deliveries.keys.length < NotificationStore.deliveryWindow limit) (waiting : Waiting store now) :
    InWindow store now limit := by
  obtain ⟨path, delivery, hfound, hclaim⟩ := waiting
  exact ⟨path, delivery, hfound, hclaim, (Catalogue.before_le _).trans_lt few⟩

/-- An emission that has listed the endpoints fans out, and the deliveries it creates are claimed and sent. -/
theorem early_endpoint_notified :
    (∀ before action after, earlyRun = before ++ action :: after →
      (NotificationPool.initial.run sampleDigest before).Guarantees sampleDigest action) ∧
    (NotificationPool.initial.run sampleDigest earlyRun).store.deliveries.rows.map (fun row => row.2.state) =
      [.sent, .sending] := by
  have admissible : NotificationPool.initial.AdmissibleRun sampleDigest earlyRun := by
    refine ⟨trivial, trivial, trivial, ?emitted, ?first, ?second, trivial, trivial⟩
    case emitted =>
      rintro _ _ ⟨⟩ - - id endpoint hendpoint hwants
      refine ⟨endpoint, hendpoint, hwants, (Catalogue.before_le _).trans_lt ?_⟩
      decide +kernel
    case first => exact fun _ => inWindow_of_waiting (by decide +kernel)
    case second => exact fun _ => inWindow_of_waiting (by decide +kernel)
  refine ⟨notifications_delivered earlyRun admissible, ?_⟩
  decide +kernel

end Uumi.Notifications
