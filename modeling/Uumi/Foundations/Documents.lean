import Mathlib

/-! Document collections: a partial map from keys to documents with single writes. -/
namespace Uumi.Foundations

abbrev Collection (κ δ : Type) := κ → Option δ

namespace Collection
variable {κ δ : Type} [DecidableEq κ]

def empty : Collection κ δ := fun _ => none

def set (c : Collection κ δ) (key : κ) (document : δ) : Collection κ δ :=
  Function.update c key (some document)

def delete (c : Collection κ δ) (key : κ) : Collection κ δ := Function.update c key none

@[simp] theorem set_same (c : Collection κ δ) (key : κ) (document : δ) :
    c.set key document key = some document := Function.update_self ..

@[simp] theorem set_of_ne {c : Collection κ δ} {key other : κ} {document : δ} (h : other ≠ key) :
    c.set key document other = c other := Function.update_of_ne h ..

@[simp] theorem set_set (c : Collection κ δ) (key : κ) (document other : δ) :
    (c.set key document).set key other = c.set key other :=
  Function.update_idem ..

@[simp] theorem delete_same (c : Collection κ δ) (key : κ) : c.delete key key = none :=
  Function.update_self ..

@[simp] theorem delete_of_ne {c : Collection κ δ} {key other : κ} (h : other ≠ key) :
    c.delete key other = c other := Function.update_of_ne h ..

/-- A document of an updated collection is the written one or an old one under another key. -/
theorem set_eq_some {c : Collection κ δ} {key other : κ} {document found : δ} :
    c.set key document other = some found ↔
      (other = key ∧ document = found) ∨ (other ≠ key ∧ c other = some found) := by
  by_cases h : other = key
  · subst h
    simp
  · simp [h]

/-- What is found after a deletion stood under another key before. -/
theorem delete_eq_some {c : Collection κ δ} {key other : κ} {found : δ} :
    c.delete key other = some found ↔ other ≠ key ∧ c other = some found := by
  by_cases h : other = key
  · subst h
    simp
  · simp [h]

/-- The documents under the keys of some items are deleted, and no others. -/
theorem foldl_delete {α : Type} (c : Collection κ δ) (name : α → κ) (items : List α) (key : κ) :
    items.foldl (fun c item => c.delete (name item)) c key = if key ∈ items.map name then none else c key := by
  induction items generalizing c with
  | nil => simp
  | cons item items ih =>
    rw [List.foldl_cons, ih]
    by_cases hk : key = name item
    · subst hk
      simp
    · simp [hk]

def getAll (c : Collection κ δ) : List κ → Option (List δ)
  | [] => some []
  | key :: keys => (c key).bind fun document => (c.getAll keys).map (document :: ·)

omit [DecidableEq κ] in
/-- Documents are read together when each of them is found. -/
theorem getAll_eq_some {c : Collection κ δ} {keys : List κ} {documents : List δ} :
    c.getAll keys = some documents ↔ List.Forall₂ (fun key document => c key = some document) keys documents := by
  induction keys generalizing documents with
  | nil => simp [getAll, eq_comm]
  | cons key keys ih =>
    cases documents with
    | nil => simp [getAll, Option.bind_eq_some_iff]
    | cons document documents => simp [getAll, ih, Option.bind_eq_some_iff]

def setAll (c : Collection κ δ) : List (κ × δ) → Collection κ δ
  | [] => c
  | (key, document) :: rest => (c.set key document).setAll rest

/-- A written collection has the change of an old document under every key and the old document
elsewhere. -/
theorem setAll_map {c d : Collection κ δ} {keys : List κ} {documents : List δ} (f : δ → δ)
    (read : List.Forall₂ (fun key document => c key = some document) keys documents) (key : κ) :
    d.setAll (keys.zip (documents.map f)) key = if key ∈ keys then (c key).map f else d key := by
  induction read generalizing d with
  | nil => simp [setAll]
  | cons found read ih =>
    rename_i k document keys documents
    rw [List.map_cons, List.zip_cons_cons, setAll, ih]
    by_cases hk : key = k
    · subst hk
      simp [found]
    · simp [hk]

omit [DecidableEq κ] in
/-- The document under a key that was read is among those read. -/
theorem mem_of_read {c : Collection κ δ} {keys : List κ} {documents : List δ}
    (read : List.Forall₂ (fun key document => c key = some document) keys documents) {key : κ} {document : δ}
    (hk : key ∈ keys) (hd : c key = some document) : document ∈ documents := by
  induction read with
  | nil => cases hk
  | cons found read ih =>
    rcases List.mem_cons.mp hk with rfl | hk
    · rw [found] at hd
      cases hd
      exact List.mem_cons_self
    · exact List.mem_cons_of_mem _ (ih hk)

omit [DecidableEq κ] in
/-- Every document that was read has one of the keys. -/
theorem key_of_read {c : Collection κ δ} {keys : List κ} {documents : List δ}
    (read : List.Forall₂ (fun key document => c key = some document) keys documents) {document : δ}
    (hd : document ∈ documents) : ∃ key ∈ keys, c key = some document := by
  induction read with
  | nil => cases hd
  | cons found read ih =>
    rcases List.mem_cons.mp hd with rfl | hd
    · exact ⟨_, List.mem_cons_self, found⟩
    · obtain ⟨key, hk, hc⟩ := ih hd
      exact ⟨key, List.mem_cons_of_mem _ hk, hc⟩

/-- A document of a rewritten collection is the change of one that was read, or one that was not. -/
theorem setAll_map_eq_some {c : Collection κ δ} {keys : List κ} {documents : List δ} {f : δ → δ}
    (read : List.Forall₂ (fun key document => c key = some document) keys documents) {key : κ} {found : δ}
    (h : c.setAll (keys.zip (documents.map f)) key = some found) :
    (∃ old ∈ documents, key ∈ keys ∧ c key = some old ∧ found = f old) ∨
      (key ∉ keys ∧ c key = some found) := by
  rw [setAll_map f read] at h
  split at h
  · rename_i hk
    obtain ⟨old, hc, rfl⟩ := Option.map_eq_some_iff.mp h
    exact .inl ⟨old, mem_of_read read hk hc, hk, hc, rfl⟩
  · rename_i hk
    exact .inr ⟨hk, h⟩

def createAll {ε : Type} (c : Collection κ δ) (e : κ → ε) : List (κ × δ) → Except ε (Collection κ δ)
  | [] => .ok c
  | (key, document) :: rest =>
    match c key with
    | some _ => .error (e key)
    | none => (c.set key document).createAll e rest

/-- A created document is one of the new ones or an old one. -/
theorem createAll_ok {ε : Type} {c c' : Collection κ δ} {e : κ → ε} {documents : List (κ × δ)}
    (h : c.createAll e documents = .ok c') :
    (documents.map Prod.fst).Nodup ∧ (∀ entry ∈ documents, c entry.1 = none) ∧
      ∀ key found, c' key = some found ↔ (key, found) ∈ documents ∨ c key = some found := by
  induction documents generalizing c with
  | nil =>
    cases h
    exact ⟨List.nodup_nil, nofun, fun key found => by simp⟩
  | cons entry rest ih =>
    obtain ⟨k, document⟩ := entry
    rw [createAll] at h
    cases hk : c k with
    | some old => simp [hk] at h
    | none =>
      simp only [hk] at h
      obtain ⟨hnodup, hfresh, hiff⟩ := ih h
      have hnot : k ∉ rest.map Prod.fst := by
        intro hmem
        obtain ⟨entry, he, rfl⟩ := List.mem_map.mp hmem
        have := hfresh entry he
        rw [set_same] at this
        cases this
      refine ⟨List.nodup_cons.mpr ⟨hnot, hnodup⟩, ?_, ?_⟩
      · intro entry he
        rcases List.mem_cons.mp he with rfl | hrest
        · exact hk
        · have hne : entry.1 ≠ k := by
            intro hek
            exact hnot (hek ▸ List.mem_map_of_mem hrest)
          have := hfresh entry hrest
          rwa [set_of_ne hne] at this
      · intro key found
        rw [hiff, set_eq_some, List.mem_cons, Prod.mk.injEq]
        constructor
        · rintro (h | ⟨rfl, rfl⟩ | ⟨_, h⟩)
          · exact .inl (.inr h)
          · exact .inl (.inl ⟨rfl, rfl⟩)
          · exact .inr h
        · rintro ((⟨rfl, rfl⟩ | hnew) | hold)
          · exact .inr (.inl ⟨rfl, rfl⟩)
          · exact .inl hnew
          · refine .inr (.inr ⟨?_, hold⟩)
            rintro rfl
            rw [hk] at hold
            cases hold

end Collection

/-- The item of a list with distinct keys is found under its key. -/
theorem find_of_key {α β : Type} [DecidableEq β] (key : α → β) {items : List α} (h : (items.map key).Nodup)
    {item : α} (hitem : item ∈ items) : items.find? (key · = key item) = some item := by
  induction items with
  | nil => cases hitem
  | cons first rest ih =>
    rw [List.map_cons, List.nodup_cons] at h
    by_cases hkey : key first = key item
    · rw [List.find?_cons_of_pos (by simpa using hkey)]
      rcases List.mem_cons.mp hitem with rfl | hrest
      · rfl
      · exact absurd (hkey ▸ List.mem_map_of_mem hrest) h.1
    · rw [List.find?_cons_of_neg (by simpa using hkey)]
      rcases List.mem_cons.mp hitem with rfl | hrest
      · exact absurd rfl hkey
      · exact ih h.2 hrest

end Uumi.Foundations
