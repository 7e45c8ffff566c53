import Uumi.Foundations.Documents
import Uumi.Foundations.Ranking

/-! Collections whose documents can be listed. A query lists the documents that it selects in an order, and only so
many of them. -/
namespace Uumi.Foundations
variable {κ δ ρ : Type} [DecidableEq κ]

/-- A collection with the keys of its documents. -/
structure Catalogue (κ δ : Type) where
  documents : Collection κ δ
  keys : List κ
  nodup : keys.Nodup
  listed : ∀ key, key ∈ keys ↔ ∃ document, documents key = some document

namespace Catalogue
variable (c : Catalogue κ δ)

def empty : Catalogue κ δ where
  documents := Collection.empty
  keys := []
  nodup := List.nodup_nil
  listed := fun key => by simp [Collection.empty]

def set (key : κ) (document : δ) : Catalogue κ δ where
  documents := c.documents.set key document
  keys := if key ∈ c.keys then c.keys else c.keys ++ [key]
  nodup := by
    split
    · exact c.nodup
    · rename_i hkey
      exact List.nodup_append.mpr ⟨c.nodup, List.nodup_singleton _, fun a ha b hb hab =>
        hkey (List.mem_singleton.mp hb ▸ hab ▸ ha)⟩
  listed := by
    intro other
    by_cases hother : other = key
    · subst hother
      refine iff_of_true ?_ ⟨document, Collection.set_same ..⟩
      split
      · assumption
      · exact List.mem_append_right _ (List.mem_singleton_self _)
    · rw [Collection.set_of_ne hother, ← c.listed]
      split
      · exact Iff.rfl
      · simp [hother]

@[simp] theorem set_documents (key : κ) (document : δ) :
    (c.set key document).documents = c.documents.set key document := rfl

def createAll {ε : Type} (c : Catalogue κ δ) (e : κ → ε) : List (κ × δ) → Except ε (Catalogue κ δ)
  | [] => .ok c
  | (key, document) :: rest =>
    match c.documents key with
    | some _ => .error (e key)
    | none => (c.set key document).createAll e rest

/-- The documents of a catalogue are created as those of its collection. -/
theorem createAll_documents {ε : Type} {c c' : Catalogue κ δ} {e : κ → ε} {documents : List (κ × δ)}
    (h : c.createAll e documents = .ok c') : c.documents.createAll e documents = .ok c'.documents := by
  induction documents generalizing c with
  | nil =>
    cases h
    rfl
  | cons entry rest ih =>
    obtain ⟨key, document⟩ := entry
    rw [createAll] at h
    cases hkey : c.documents key with
    | some old => simp [hkey] at h
    | none =>
      simp only [hkey] at h
      simp only [Collection.createAll, hkey]
      exact ih h

omit [DecidableEq κ] in
def rows (c : Catalogue κ δ) : List (κ × δ) := c.keys.filterMap fun key => (c.documents key).map (key, ·)

omit [DecidableEq κ] in
private theorem mem_rows {c : Catalogue κ δ} {row : κ × δ} : row ∈ c.rows ↔ c.documents row.1 = some row.2 := by
  obtain ⟨key, document⟩ := row
  simp only [rows, List.mem_filterMap, Option.map_eq_some_iff, Prod.mk.injEq]
  constructor
  · rintro ⟨_, -, found, h, rfl, rfl⟩
    exact h
  · intro h
    exact ⟨key, (c.listed key).mpr ⟨document, h⟩, document, h, rfl, rfl⟩

omit [DecidableEq κ] in
/-- No two rows have the same key. -/
theorem rows_distinct (c : Catalogue κ δ) : c.rows.Pairwise fun a b => a.1 ≠ b.1 := by
  refine List.Pairwise.filterMap _ ?_ c.nodup
  intro key other hne a ha b hb
  obtain ⟨_, -, rfl⟩ := Option.map_eq_some_iff.mp ha
  obtain ⟨_, -, rfl⟩ := Option.map_eq_some_iff.mp hb
  exact hne

section
omit [DecidableEq κ]
variable [LinearOrder ρ] (order : κ × δ → ρ) (selects : κ × δ → Bool) (limit : Nat)

def query (c : Catalogue κ δ) : List (κ × δ) := (ranked order (c.rows.filter selects)).take limit

def before (c : Catalogue κ δ) (row : κ × δ) : Nat := ahead order (c.rows.filter selects) (order row)

variable {order selects limit}

/-- At most every document stands before a row. -/
theorem before_le {c : Catalogue κ δ} (row : κ × δ) : c.before order selects row ≤ c.keys.length :=
  calc c.before order selects row ≤ (c.rows.filter selects).length := List.countP_le_length
    _ ≤ c.rows.length := List.length_filter_le _ _
    _ ≤ c.keys.length := List.length_filterMap_le _ _

/-- A query lists documents that it selects. -/
theorem of_mem_query {c : Catalogue κ δ} {row : κ × δ} (h : row ∈ c.query order selects limit) :
    c.documents row.1 = some row.2 ∧ selects row = true := by
  obtain ⟨hrow, hselects⟩ := List.mem_filter.mp ((mem_ranked order).mp (List.mem_of_mem_take h))
  exact ⟨mem_rows.mp hrow, hselects⟩

/-- A query lists the selected documents before which few enough come. -/
theorem mem_query {c : Catalogue κ δ} (distinct : ∀ a b, order a = order b → a.1 = b.1) {row : κ × δ} :
    row ∈ c.query order selects limit ↔
      c.documents row.1 = some row.2 ∧ selects row = true ∧ c.before order selects row < limit := by
  have hpairwise : (c.rows.filter selects).Pairwise fun a b => order a ≠ order b :=
    (c.rows_distinct.filter _).imp fun hne heq => hne (distinct _ _ heq)
  constructor
  · intro h
    obtain ⟨hrow, hselects⟩ := of_mem_query h
    exact ⟨hrow, hselects, (mem_take_ranked hpairwise (List.mem_filter.mpr ⟨mem_rows.mpr hrow, hselects⟩) _).mp h⟩
  · rintro ⟨hrow, hselects, hlt⟩
    exact (mem_take_ranked hpairwise (List.mem_filter.mpr ⟨mem_rows.mpr hrow, hselects⟩) _).mpr hlt

/-- The rows of a query have different keys. -/
theorem query_nodup (c : Catalogue κ δ) : ((c.query order selects limit).map Prod.fst).Nodup := by
  refine List.Nodup.sublist ((List.take_sublist _ _).map _) ?_
  refine ((ranked_perm order _).map Prod.fst).nodup_iff.mpr ?_
  exact List.pairwise_map.mpr (c.rows_distinct.filter _)

end
end Catalogue
end Uumi.Foundations
