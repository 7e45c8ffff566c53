import Uumi.Foundations.Ranking
import Uumi.Storage.Outbox

/-! Batches of claims. A query lists the undelivered records that are due, the earliest first and only so many of
them; the ones among them that can be claimed are leased. -/
namespace Uumi.Storage
open Uumi.Contracts Uumi.Core Uumi.Foundations

/-- An outbox whose documents are listed; all of them are valid. -/
structure OutboxContent {Event Stream : Type} (outbox : Outbox Event Stream) where
  store : OutboxStore Event Stream
  paths : List (Identifier × Identifier)
  nodup : paths.Nodup
  listed : ∀ path, path ∈ paths ↔ ∃ record, store.records path = some record
  valid : ∀ path record, store.records path = some record →
    outbox.validate record = .ok () ∧ record.stripped = record

namespace Outboxes
variable {Event Stream : Type} {outbox : Outbox Event Stream}

/-- The order of a query by `available_at`. Documents of the same time are in the order of their names. -/
def queryKey (row : (Identifier × Identifier) × OutboxFields Event) : Int ×ₗ String ×ₗ String :=
  toLex (row.2.availableAt.instant, toLex (row.1.1.text, row.1.2.text))

def due (content : OutboxContent outbox) (now : AwareDatetime) :
    List ((Identifier × Identifier) × OutboxFields Event) :=
  content.paths.filterMap fun path =>
    (content.store.records path).bind fun record =>
      if record.deliveredAt = none ∧ record.availableAt ≤ now then some (path, record) else none

def window (limit : Nat) : Nat := min (max (limit * 8) 64) 500

def query (content : OutboxContent outbox) (now : AwareDatetime) (limit : Nat) :
    List ((Identifier × Identifier) × OutboxFields Event) :=
  (ranked queryKey (due content now)).take (window limit)

/-- The loop of a claim over the rows of its query. Of each group one record is claimed at most; `groupOf` says which
group a claimed record counts for. -/
def claimRows (outbox : Outbox Event Stream) (groupOf : OutboxFields Event → OutboxClaim Event → Identifier)
    (owner : Identifier) (now : AwareDatetime) (lease : Int) (limit : Nat) :
    List ((Identifier × Identifier) × OutboxFields Event) → List Identifier → List (OutboxClaim Event) →
      OutboxStore Event Stream → Except Error (List (OutboxClaim Event) × OutboxStore Event Stream)
  | [], _, claims, store => return (claims, store)
  | (path, record) :: rows, seen, claims, store => do
    let candidate ← outbox.read record
    if outbox.group candidate.event ∈ seen then
      claimRows outbox groupOf owner now lease limit rows seen claims store
    else
      match ← claimOne outbox store path owner now lease with
      | (none, store) =>
        if claims.length = limit then return (claims, store)
        else claimRows outbox groupOf owner now lease limit rows seen claims store
      | (some claim, store) =>
        if (claims ++ [claim]).length = limit then return (claims ++ [claim], store)
        else
          claimRows outbox groupOf owner now lease limit rows (groupOf candidate claim :: seen) (claims ++ [claim]) store

/-- A claim of at most `limit` records. -/
def claimBatch (groupOf : OutboxFields Event → OutboxClaim Event → Identifier) (content : OutboxContent outbox)
    (owner : Identifier) (now : AwareDatetime) (lease : Int) (limit : Nat) :
    Except Error (List (OutboxClaim Event) × OutboxStore Event Stream) :=
  claimRows outbox groupOf owner now lease limit (query content now limit) [] [] content.store

/-- The query finds the undelivered records that are available. -/
theorem mem_due {content : OutboxContent outbox} {now : AwareDatetime}
    {row : (Identifier × Identifier) × OutboxFields Event} :
    row ∈ due content now ↔
      content.store.records row.1 = some row.2 ∧ row.2.deliveredAt = none ∧ row.2.availableAt ≤ now := by
  obtain ⟨path, record⟩ := row
  simp only [due, List.mem_filterMap, Option.bind_eq_some_iff, Option.ite_none_right_eq_some, Option.some.injEq,
    Prod.mk.injEq]
  constructor
  · rintro ⟨_, -, _, found, h, rfl, rfl⟩
    exact ⟨found, h⟩
  · rintro ⟨found, h⟩
    exact ⟨path, (content.listed path).mpr ⟨record, found⟩, record, found, h, rfl, rfl⟩

/-- A claimable record is due. -/
theorem Claimable.due {content : OutboxContent outbox} {now : AwareDatetime} {path : Identifier × Identifier}
    {record : OutboxFields Event} (found : content.store.records path = some record)
    (claimable : Claimable outbox content.store now record) : (path, record) ∈ due content now := by
  refine mem_due.mpr ⟨found, ?_, claimable.available⟩
  by_contra h
  exact claimable.unsettled (.inl h)

/-- Different rows have different keys. -/
theorem due_distinct (content : OutboxContent outbox) (now : AwareDatetime) :
    (due content now).Pairwise fun a b => queryKey a ≠ queryKey b := by
  refine List.Pairwise.filterMap _ ?_ content.nodup
  intro path other hne a ha b hb heq
  have path_of : ∀ {p : Identifier × Identifier} {r : (Identifier × Identifier) × OutboxFields Event},
      ((content.store.records p).bind fun record =>
        if record.deliveredAt = none ∧ record.availableAt ≤ now then some (p, record) else none) = some r →
      r.1 = p := by
    intro p r h
    simp only [Option.bind_eq_some_iff, Option.ite_none_right_eq_some, Option.some.injEq] at h
    obtain ⟨_, _, _, rfl⟩ := h
    rfl
  rw [queryKey, queryKey, path_of ha, path_of hb] at heq
  simp only [EmbeddingLike.apply_eq_iff_eq, Prod.mk.injEq] at heq
  exact hne (Prod.ext (Identifier.text_injective heq.2.1) (Identifier.text_injective heq.2.2))

/-- Claims are never given back while a batch is claimed. -/
theorem claimRows_keeps {groupOf : OutboxFields Event → OutboxClaim Event → Identifier} {owner : Identifier}
    {now : AwareDatetime} {lease : Int} {limit : Nat} {rows : List ((Identifier × Identifier) × OutboxFields Event)}
    {seen : List Identifier} {claims claims' : List (OutboxClaim Event)} {store store' : OutboxStore Event Stream}
    (h : claimRows outbox groupOf owner now lease limit rows seen claims store = .ok (claims', store')) :
    claims <+: claims' := by
  induction rows generalizing seen claims store with
  | nil =>
    rw [claimRows, pure_ok] at h
    rw [(Prod.mk.inj h).1]
  | cons row rows ih =>
    obtain ⟨path, record⟩ := row
    rw [claimRows, bind_ok] at h
    obtain ⟨candidate, -, h⟩ := h
    split at h
    · exact ih h
    · rw [bind_ok] at h
      obtain ⟨⟨leased, next⟩, -, h⟩ := h
      cases leased with
      | none =>
        dsimp only at h
        split at h
        · rw [pure_ok] at h
          rw [(Prod.mk.inj h).1]
        · exact ih h
      | some claim =>
        dsimp only at h
        split at h
        · rw [pure_ok] at h
          rw [← (Prod.mk.inj h).1]
          exact List.prefix_append _ _
        · exact (List.prefix_append _ _).trans (ih h)

variable {groupOf : OutboxFields Event → OutboxClaim Event → Identifier} {owner : Identifier} {now : AwareDatetime}
  {lease : Int} {limit : Nat} {rows : List ((Identifier × Identifier) × OutboxFields Event)}

private def Current (outbox : Outbox Event Stream) (store : OutboxStore Event Stream)
    (rows : List ((Identifier × Identifier) × OutboxFields Event)) : Prop :=
  ∀ row ∈ rows, store.records row.1 = some row.2 ∧ outbox.validate row.2 = .ok () ∧ row.2.stripped = row.2

private theorem Current.tail {store : OutboxStore Event Stream} {row : (Identifier × Identifier) × OutboxFields Event}
    (h : Current outbox store (row :: rows)) : Current outbox store rows :=
  fun r hr => h r (List.mem_cons_of_mem _ hr)

variable (owner now lease) in
private theorem Current.head {store : OutboxStore Event Stream} {path : Identifier × Identifier}
    {record : OutboxFields Event} (h : Current outbox store ((path, record) :: rows)) :
    outbox.read record = .ok record ∧
      ((Claimable outbox store now record ∧ claimOne outbox store path owner now lease =
        .ok (some ⟨path, claimed record owner now lease⟩,
          { store with records := store.records.set path (claimed record owner now lease) })) ∨
      (¬ Claimable outbox store now record ∧ claimOne outbox store path owner now lease = .ok (none, store))) := by
  obtain ⟨found, readable, same⟩ := h _ List.mem_cons_self
  have hvalid : outbox.validate record.stripped = .ok () := by rwa [same]
  constructor
  · rw [outbox.read_ok, same]
    exact ⟨readable, rfl⟩
  · simpa only [same] using claimOne_eq found hvalid

private theorem claimRows_ok {seen : List Identifier} {claims : List (OutboxClaim Event)}
    {store : OutboxStore Event Stream} (current : Current outbox store rows) (distinct : (rows.map Prod.fst).Nodup) :
    ∃ claims' store', claimRows outbox groupOf owner now lease limit rows seen claims store = .ok (claims', store') := by
  induction rows generalizing seen claims store with
  | nil => exact ⟨claims, store, rfl⟩
  | cons row rows ih =>
    obtain ⟨path, record⟩ := row
    obtain ⟨hnot, distinct⟩ := List.nodup_cons.mp distinct
    obtain ⟨hread, hcases⟩ := current.head owner now lease
    rw [claimRows, hread, ok_bind]
    split
    · exact ih current.tail distinct
    · rcases hcases with ⟨-, heq⟩ | ⟨-, heq⟩
      · rw [heq, ok_bind]
        dsimp only
        split
        · exact ⟨_, _, rfl⟩
        · refine ih ?_ distinct
          intro row hrow
          have hne : row.1 ≠ path := fun heq => hnot (List.mem_map.mpr ⟨row, hrow, heq⟩)
          obtain ⟨found, hvalid⟩ := current.tail row hrow
          exact ⟨(Collection.set_of_ne hne).trans found, hvalid⟩
      · rw [heq, ok_bind]
        dsimp only
        split
        · exact ⟨_, _, rfl⟩
        · exact ih current.tail distinct

private theorem claimRows_progress {store : OutboxStore Event Stream} (current : Current outbox store rows)
    (distinct : (rows.map Prod.fst).Nodup) (hlimit : 1 ≤ limit) :
    (∃ claims store', claimRows outbox groupOf owner now lease limit rows [] [] store = .ok (claims, store') ∧
        claims ≠ []) ↔
      ∃ row ∈ rows, Claimable outbox store now row.2 := by
  induction rows with
  | nil => simp [claimRows, pure_ok]
  | cons row rows ih =>
    obtain ⟨path, record⟩ := row
    obtain ⟨hread, hcases⟩ := current.head owner now lease
    rcases hcases with ⟨hclaim, heq⟩ | ⟨hclaim, heq⟩
    · refine iff_of_true ?_ ⟨_, List.mem_cons_self, hclaim⟩
      have hok : ∃ claims store', claimRows outbox groupOf owner now lease limit ((path, record) :: rows) [] [] store =
          .ok (claims, store') := claimRows_ok current distinct
      obtain ⟨claims, store', h⟩ := hok
      refine ⟨claims, store', h, ?_⟩
      rw [claimRows, hread, ok_bind, if_neg List.not_mem_nil, heq, ok_bind] at h
      dsimp only at h
      split at h
      · rw [pure_ok] at h
        rw [← (Prod.mk.inj h).1]
        exact List.cons_ne_nil _ _
      · have hkeep := claimRows_keeps h
        rintro rfl
        exact absurd hkeep (by simp)
    · rw [claimRows, hread, ok_bind, if_neg List.not_mem_nil, heq, ok_bind]
      dsimp only
      have hopen : ¬ ([] : List (OutboxClaim Event)).length = limit := by
        rw [List.length_nil]
        omega
      rw [if_neg hopen, ih current.tail (List.nodup_cons.mp distinct).2, List.exists_mem_cons_iff]
      exact ⟨.inr, fun h => h.resolve_left hclaim⟩

private theorem query_current (content : OutboxContent outbox) : Current outbox content.store (query content now limit) := by
  intro row hrow
  obtain ⟨found, -, -⟩ := mem_due.mp ((mem_ranked queryKey).mp (List.mem_of_mem_take hrow))
  exact ⟨found, content.valid _ _ found⟩

private theorem query_distinct (content : OutboxContent outbox) : ((query content now limit).map Prod.fst).Nodup := by
  refine List.Nodup.sublist ((List.take_sublist _ _).map _) ?_
  refine (((ranked_perm queryKey _).map Prod.fst).nodup_iff).mpr ?_
  rw [due, List.map_filterMap]
  refine List.Nodup.filterMap ?_ content.nodup
  intro path other p hp ho
  simp only [Option.mem_def, Option.map_eq_some_iff, Option.bind_eq_some_iff, Option.ite_none_right_eq_some,
    Option.some.injEq] at hp ho
  obtain ⟨_, ⟨_, _, _, rfl⟩, rfl⟩ := hp
  obtain ⟨_, ⟨_, _, _, rfl⟩, rfl⟩ := ho
  rfl

def before (content : OutboxContent outbox) (now : AwareDatetime)
    (row : (Identifier × Identifier) × OutboxFields Event) : Nat :=
  ahead queryKey (due content now) (queryKey row)

/-- At most every record stands before a row. -/
theorem before_le (content : OutboxContent outbox) (now : AwareDatetime)
    (row : (Identifier × Identifier) × OutboxFields Event) : before content now row ≤ content.paths.length :=
  List.countP_le_length.trans (List.length_filterMap_le _ _)

/-- A batch of claims is not empty exactly when a claimable record is among the first due ones. -/
theorem claimBatch_nonempty (content : OutboxContent outbox) (hlimit : 1 ≤ limit) :
    (∃ claims store', claimBatch groupOf content owner now lease limit = .ok (claims, store') ∧ claims ≠ []) ↔
      ∃ path record, content.store.records path = some record ∧ Claimable outbox content.store now record ∧
        before content now (path, record) < window limit := by
  rw [claimBatch, claimRows_progress (query_current content) (query_distinct content) hlimit]
  constructor
  · rintro ⟨⟨path, record⟩, hrow, claimable⟩
    have hdue := (mem_ranked queryKey).mp (List.mem_of_mem_take hrow)
    exact ⟨path, record, (mem_due.mp hdue).1, claimable, (mem_take_ranked (due_distinct content now) hdue _).mp hrow⟩
  · rintro ⟨path, record, found, claimable, hlt⟩
    exact ⟨(path, record), (mem_take_ranked (due_distinct content now) (claimable.due found) _).mpr hlt, claimable⟩

end Outboxes
end Uumi.Storage
