import Uumi.Connectors.Http

/-! The lookups in a list of credentials read a key; its metadata follows a path. When the two agree. -/
namespace Uumi.Connectors.Http
open Uumi.Broker Uumi.Contracts Uumi.Core Uumi.Foundations

@[simp]
theorem read_cons_self (key : String) (value : Json) (item : Item) : read ((key, value) :: item) key = value := by
  simp [read]

private theorem read_cons_of_ne {key other : String} (ne : other ≠ key) (value : Json) (item : Item) :
    read ((key, value) :: item) other = read item other := by
  simp [read, List.lookup_cons, beq_eq_false_iff_ne.mpr ne]

private theorem splitOn_first (path : List Char) :
    ∃ first rest, path.splitOn '.' = first :: rest ∧ '.' ∉ first := by
  induction path with
  | nil => exact ⟨[], [], rfl, List.not_mem_nil⟩
  | cons c path ih =>
    obtain ⟨first, rest, split, dot⟩ := ih
    by_cases sep : c = '.'
    · refine ⟨[], path.splitOn '.', ?_, List.not_mem_nil⟩
      simp [List.splitOn_cons_eq_if_modifyHead, sep]
    · refine ⟨c :: first, rest, ?_, ?_⟩
      · simp [List.splitOn_cons_eq_if_modifyHead, sep, split]
      · simp [dot, Ne.symm sep]

/-- A path starts at one key of an object, and that key has no dot. -/
theorem dig_from_key (path : String) :
    ∃ key rest, '.' ∉ key.toList ∧ ∀ item : Item, dig (.obj item) path = digParts (read item key) rest := by
  obtain ⟨first, rest, split, dot⟩ := splitOn_first path.toList
  refine ⟨String.ofList first, rest, ?_, fun item => ?_⟩
  · rw [String.toList_ofList]
    exact dot
  · rw [dig, split, digParts]

/-- A path without dots is a key. -/
theorem dig_plain {path : String} (plain : '.' ∉ path.toList) (item : Item) : dig (.obj item) path = read item path := by
  rw [dig, List.splitOn_eq_singleton plain, digParts, digParts, String.ofList_toList]

/-- No path reads a key that has a dot. -/
theorem dig_cons_of_dot {key : String} (dot : '.' ∈ key.toList) (value : Json) (item : Item) (path : String) :
    dig (.obj ((key, value) :: item)) path = dig (.obj item) path := by
  obtain ⟨first, rest, plain, starts⟩ := dig_from_key path
  have ne : first ≠ key := by
    rintro rfl
    exact plain dot
  rw [starts, starts, read_cons_of_ne ne]

private theorem digParts_null (parts : List (List Char)) : digParts .null parts = .null := by
  cases parts <;> rfl

/-- A key that is removed takes the paths through it away, and leaves the others as they are. -/
theorem dig_cons_null (key : String) (item : Item) (path : String) :
    dig (.obj ((key, .null) :: item)) path = dig (.obj item) path ∨ dig (.obj ((key, .null) :: item)) path = .null := by
  obtain ⟨first, rest, -, starts⟩ := dig_from_key path
  by_cases same : first = key
  · subst same
    right
    rw [starts, read_cons_self, digParts_null]
  · left
    rw [starts, starts, read_cons_of_ne same]

private theorem metadataFields_congr {first second : Item}
    (same : ∀ path, dig (.obj first) path = dig (.obj second) path) (fields : List (String × String)) :
    metadataFields first fields = metadataFields second fields := by
  induction fields with
  | nil => rfl
  | cons field fields ih => simp only [metadataFields, same, ih]

/-- The metadata of an item is read along paths only. -/
theorem metadata_congr {first second : Item} (same : ∀ path, dig (.obj first) path = dig (.obj second) path)
    (operation : Operation) : credentialMetadata operation first = credentialMetadata operation second := by
  have fields := metadataFields_congr same operation.metadataFields
  simp only [credentialMetadata, metadataId, metadataName, same, fields]

private theorem metadataFields_cons_null (key : String) {item : Item} {fields : List (String × String)}
    {values : List (String × Json)} (read : metadataFields item fields = .ok values) :
    ∃ others, metadataFields ((key, .null) :: item) fields = .ok others := by
  induction fields generalizing values with
  | nil => exact ⟨[], rfl⟩
  | cons field fields ih =>
    have rest : ∃ values, metadataFields item fields = .ok values := by
      unfold metadataFields at read
      split at read
      · exact ⟨values, read⟩
      · obtain ⟨value, -, read⟩ := (bind_ok _ _ _).mp read
        obtain ⟨rest, read, -⟩ := (bind_ok _ _ _).mp read
        exact ⟨rest, read⟩
    obtain ⟨rest, readRest⟩ := rest
    obtain ⟨others, readOthers⟩ := ih readRest
    rcases dig_cons_null key item field.2 with same | gone
    · unfold metadataFields at read ⊢
      rw [same]
      split at read
      · exact ⟨others, by rw [readOthers]⟩
      · obtain ⟨value, readValue, read⟩ := (bind_ok _ _ _).mp read
        refine ⟨(field.1, value) :: others, ?_⟩
        rw [readValue, readOthers]
        rfl
    · refine ⟨others, ?_⟩
      unfold metadataFields
      rw [gone, readOthers]

section
variable {operation : Operation} {item : Item} {metadata : Metadata}

private theorem credentialMetadata_ok (h : credentialMetadata operation item = .ok metadata) :
    metadataId operation item = .ok metadata.providerId ∧ metadataName operation item = .ok metadata.name ∧
      metadataFields item operation.metadataFields = .ok metadata.fields := by
  obtain ⟨id, readId, h⟩ := (bind_ok _ _ _).mp h
  obtain ⟨name, readName, h⟩ := (bind_ok _ _ _).mp h
  obtain ⟨fields, readFields, h⟩ := (bind_ok _ _ _).mp h
  obtain rfl := Except.ok.inj h
  exact ⟨readId, readName, readFields⟩

private theorem metadataId_ok {id : String} (h : metadataId operation item = .ok id) :
    dig (.obj item) (operation.providerIdField.getD "") = .str id ∧ id ≠ "" := by
  unfold metadataId at h
  split at h
  case h_1 found read =>
    split at h
    · cases h
    · next given =>
      obtain rfl := Except.ok.inj h
      exact ⟨read, given⟩
  case h_2 => cases h

private theorem metadataName_ok {field name : String} (declared : operation.nameField = some field)
    (h : metadataName operation item = .ok (some name)) : dig (.obj item) field = .str name ∧ name ≠ "" := by
  unfold metadataName at h
  rw [declared] at h
  dsimp only at h
  split at h
  case h_1 => cases h
  case h_2 found read =>
    split at h
    · cases h
    · next given =>
      obtain rfl := Option.some.inj (Except.ok.inj h)
      exact ⟨read, given⟩
  case h_3 => cases h

end

section
variable (api : ProviderApi)

/-- A listed item that has metadata. -/
def Presented (item : Item) : Prop := ∃ metadata, credentialMetadata api.listCredentials item = .ok metadata

/-- The metadata of an item has an id. -/
def Identifies (id : String) (item : Item) : Prop :=
  ∃ metadata, credentialMetadata api.listCredentials item = .ok metadata ∧ metadata.providerId = id

/-- The metadata of an item has a name, and an id that was not there before. -/
def Created (name : String) (before : List String) (item : Item) : Prop :=
  ∃ metadata, credentialMetadata api.listCredentials item = .ok metadata ∧ metadata.name = some name ∧
    metadata.providerId ∉ before

/-- What the lookups take from a list is what its metadata says. -/
structure LookupsAgree (other : Json → String) (items : List Item) : Prop where
  status : ∀ id ≠ "", ∀ found metadata, credentialStatus api items id = .ok (found, metadata) →
    (found = true ↔ ∃ item ∈ items, Identifies api id item)
  prepared : ∀ id, id ∈ preparedIds api items ↔ ∃ item ∈ items, Identifies api id item
  before : ∀ id, id ∈ idsBefore api items ↔ ∃ item ∈ items, Identifies api id item
  reconciled : ∀ name ≠ "", ∀ before, ∀ item ∈ items,
    item ∈ reconcileCandidates api items name before ↔ Created api name before item
  orphans : ∀ name ≠ "", ∀ before, ∀ item ∈ items,
    item ∈ orphanCandidates api other items name before ↔ Created api name before item

/-- A declared path that is one key. -/
def PlainKey (field : Option String) : Prop := ∃ key ≠ "", field = some key ∧ '.' ∉ key.toList

/-- Neither the lookups nor the metadata find a name. -/
def Nameless (item : Item) : Prop :=
  truthy (textUnder (nameKey api) item) = none ∧ metadataName api.listCredentials item = .ok none

/-- The lookups read the items as their metadata does. -/
structure ReadAlike : Prop where
  ids : PlainKey api.listCredentials.providerIdField ∨ ∀ item, ¬ Presented api item
  names : PlainKey api.listCredentials.nameField ∨ ∀ item, Presented api item → Nameless api item

/-- Each item that has no metadata is found by no lookup, or hides behind one that has. -/
def Presentable (items : List Item) : Prop :=
  ∀ item ∈ items, Presented api item ∨ (truthy (textUnder (nameKey api) item) = none ∧
    ∀ id, textUnder (idKey api) item = some id → ∃ found ∈ items, Identifies api id found)

end

section
variable {api : ProviderApi} {other : Json → String} {items : List Item} {item : Item} {metadata : Metadata}

/-- A text that is not empty counts as true. -/
@[simp]
theorem truthy_some {text : String} (given : text ≠ "") : truthy (some text) = some text := by
  simp [truthy, given]

private theorem asText_some {value : Json} {text : String} (h : asText value = some text) : value = .str text := by
  unfold asText at h
  split at h
  · rw [Option.some.inj h]
  · cases h

/-- The lookups agree with the metadata where they read an item as its metadata does. -/
theorem lookups_agree
    (keys : ∀ item ∈ items, textUnder api.listCredentials.providerIdField item = textUnder (idKey api) item)
    (ids : ∀ item ∈ items, ∀ metadata, credentialMetadata api.listCredentials item = .ok metadata →
      textUnder (idKey api) item = some metadata.providerId)
    (others : ∀ item ∈ items, ∀ id, textUnder (idKey api) item = some id → ∃ found ∈ items, Identifies api id found)
    (names : ∀ item ∈ items, ∀ name ≠ "", textUnder (nameKey api) item = some name ↔
      ∃ metadata, credentialMetadata api.listCredentials item = .ok metadata ∧ metadata.name = some name) :
    LookupsAgree api other items := by
  have listed : ∀ id, (∃ item ∈ items, textUnder (idKey api) item = some id) ↔ ∃ item ∈ items, Identifies api id item := by
    intro id
    constructor
    · rintro ⟨item, mem, reads⟩
      exact others item mem id reads
    · rintro ⟨item, mem, metadata, presented, rfl⟩
      exact ⟨item, mem, ids item mem metadata presented⟩
  constructor
  · intro id given found metadata status
    unfold credentialStatus at status
    split at status
    case h_1 absent =>
      obtain ⟨rfl, -⟩ := Prod.mk.inj (Except.ok.inj status)
      rw [← listed]
      refine ⟨nofun, fun ⟨item, mem, reads⟩ => absurd absent ?_⟩
      simp only [List.find?_eq_none, not_forall]
      exact ⟨item, mem, by simpa using reads⟩
    case h_2 item found =>
      obtain ⟨metadata, -, status⟩ := (bind_ok _ _ _).mp status
      obtain ⟨rfl, -⟩ := Prod.mk.inj (Except.ok.inj status)
      rw [← listed]
      exact ⟨fun _ => ⟨item, List.mem_of_find?_eq_some found, by simpa using List.find?_some found⟩, fun _ => rfl⟩
  · intro id
    rw [← listed, preparedIds, List.mem_insertionSort, List.mem_filterMap]
  · intro id
    rw [← listed, idsBefore, List.mem_filterMap]
    constructor
    · rintro ⟨item, mem, reads⟩
      exact ⟨item, mem, keys item mem ▸ reads⟩
    · rintro ⟨item, mem, reads⟩
      exact ⟨item, mem, (keys item mem).trans reads⟩
  · intro name given before item mem
    rw [reconcileCandidates, List.mem_filter, decide_eq_true_iff, names item mem name given]
    constructor
    · rintro ⟨-, ⟨metadata, presented, named⟩, id, reads, fresh⟩
      rw [ids item mem metadata presented] at reads
      exact ⟨metadata, presented, named, Option.some.inj reads ▸ fresh⟩
    · rintro ⟨metadata, presented, named, fresh⟩
      exact ⟨mem, ⟨metadata, presented, named⟩, metadata.providerId, ids item mem metadata presented, fresh⟩
  · intro name given before item mem
    rw [orphanCandidates, List.mem_filter, decide_eq_true_iff, names item mem name given]
    have shown : ∀ metadata, credentialMetadata api.listCredentials item = .ok metadata →
        ∃ key, idKey api = some key ∧ display other (read item key) = metadata.providerId := by
      intro metadata presented
      obtain ⟨key, declared, reads⟩ := Option.bind_eq_some_iff.mp (ids item mem metadata presented)
      exact ⟨key, declared, by rw [asText_some reads, display]⟩
    constructor
    · rintro ⟨-, ⟨metadata, presented, named⟩, key, declared, fresh⟩
      obtain ⟨same, declared', reads⟩ := shown metadata presented
      obtain rfl : same = key := Option.some.inj (declared'.symm.trans declared)
      exact ⟨metadata, presented, named, reads ▸ fresh⟩
    · rintro ⟨metadata, presented, named, fresh⟩
      obtain ⟨key, declared, reads⟩ := shown metadata presented
      exact ⟨mem, ⟨metadata, presented, named⟩, key, declared, reads ▸ fresh⟩

private theorem idKey_of_plain (plain : PlainKey api.listCredentials.providerIdField) :
    idKey api = api.listCredentials.providerIdField := by
  obtain ⟨key, given, declared, -⟩ := plain
  rw [idKey, declared, truthy_some given]

/-- Under a plain key, the lookups read the id of the metadata. -/
theorem id_of_plain (plain : PlainKey api.listCredentials.providerIdField)
    (presented : credentialMetadata api.listCredentials item = .ok metadata) :
    textUnder (idKey api) item = some metadata.providerId := by
  obtain ⟨reads, -⟩ := metadataId_ok (credentialMetadata_ok presented).1
  rw [idKey_of_plain plain]
  obtain ⟨key, -, declared, dot⟩ := plain
  rw [declared, Option.getD_some, dig_plain dot] at reads
  rw [declared, textUnder, Option.bind_some, reads, asText]

/-- Under a plain key, the lookups read the name of the metadata. -/
theorem name_of_plain (plain : PlainKey api.listCredentials.nameField)
    (presented : credentialMetadata api.listCredentials item = .ok metadata) {name : String} (given : name ≠ "") :
    textUnder (nameKey api) item = some name ↔ metadata.name = some name := by
  have named := (credentialMetadata_ok presented).2.1
  obtain ⟨key, nonempty, declared, dot⟩ := plain
  have reads : textUnder (nameKey api) item = asText (dig (.obj item) key) := by
    rw [dig_plain dot, nameKey, declared, truthy_some nonempty, Option.some_or, textUnder, Option.bind_some]
  rw [reads]
  unfold metadataName at named
  rw [declared] at named
  dsimp only at named
  split at named
  case h_1 null => simp [null, asText, ← Except.ok.inj named]
  case h_2 found text =>
    rw [text, asText, ← Except.ok.inj named]
    by_cases empty : found = ""
    · simp [empty, Ne.symm given]
    · simp [empty]
  case h_3 => cases named

private theorem not_plainKey {key : String} (odd : ¬ PlainKey (some key)) : key = "" ∨ '.' ∈ key.toList := by
  by_contra plain
  rw [not_or] at plain
  exact odd ⟨key, plain.1, rfl, plain.2⟩

/-- The lookups agree with the metadata on all lists of credentials that have metadata. -/
abbrev Agreeing (api : ProviderApi) (other : Json → String) : Prop :=
  ∀ items, (∀ item ∈ items, Presented api item) → LookupsAgree api other items

private theorem agree_on (agree : Agreeing api other) (presented : Presented api item) : LookupsAgree api other [item] :=
  agree [item] (List.forall_mem_singleton.mpr presented)

private theorem plain_ids (agree : Agreeing api other) (presented : Presented api item) :
    PlainKey api.listCredentials.providerIdField := by
  have recorded : ∀ {item}, Presented api item → textUnder (idKey api) item ≠ none := by
    rintro item ⟨metadata, presented⟩ absent
    have mem := ((agree_on agree ⟨metadata, presented⟩).prepared metadata.providerId).mpr
      ⟨item, List.mem_singleton_self item, metadata, presented, rfl⟩
    rw [preparedIds, List.mem_insertionSort, List.mem_filterMap] at mem
    obtain ⟨found, mem, reads⟩ := mem
    rw [List.mem_singleton.mp mem, absent] at reads
    cases reads
  obtain ⟨key, declared⟩ := Option.ne_none_iff_exists'.mp api.list_id
  by_contra odd
  rw [declared] at odd
  rcases not_plainKey odd with rfl | dot
  · apply recorded presented
    rw [idKey, declared]
    rfl
  · obtain ⟨metadata, presented⟩ := presented
    have kept : credentialMetadata api.listCredentials ((key, .null) :: item) = .ok metadata := by
      rw [metadata_congr (dig_cons_of_dot dot .null item), presented]
    apply recorded ⟨metadata, kept⟩
    have given : key ≠ "" := by
      rintro rfl
      exact List.not_mem_nil dot
    rw [idKey, declared, truthy_some given, textUnder, Option.bind_some, read_cons_self, asText]
    exact nofun

private theorem names_agree (agree : Agreeing api other)
    (presented : credentialMetadata api.listCredentials item = .ok metadata) {name : String} (given : name ≠ "") :
    textUnder (nameKey api) item = some name ↔ metadata.name = some name := by
  have plain := plain_ids agree ⟨metadata, presented⟩
  have picked := (agree_on agree ⟨metadata, presented⟩).reconciled name given [] item (List.mem_singleton_self item)
  rw [reconcileCandidates, List.mem_filter, decide_eq_true_iff, id_of_plain plain presented] at picked
  constructor
  · intro reads
    obtain ⟨found, same, named, -⟩ :=
      picked.mp ⟨List.mem_singleton_self item, reads, metadata.providerId, rfl, List.not_mem_nil⟩
    obtain rfl := Except.ok.inj (presented.symm.trans same)
    exact named
  · intro named
    exact (picked.mpr ⟨metadata, presented, named, List.not_mem_nil⟩).2.1

private theorem nameless_of_agree (agree : Agreeing api other)
    (presented : credentialMetadata api.listCredentials item = .ok metadata) (unnamed : metadata.name = none) :
    Nameless api item := by
  refine ⟨?_, by rw [(credentialMetadata_ok presented).2.1, unnamed]⟩
  rw [truthy, Option.filter_eq_none_iff]
  intro name reads
  rw [decide_eq_true_iff]
  intro given
  have named := (names_agree agree presented given).mp reads
  rw [unnamed] at named
  cases named

private theorem nameKey_ne {key : String} (declared : nameKey api = some key) : key ≠ "" := by
  rintro rfl
  rcases Option.or_eq_some_iff.mp declared with found | ⟨-, found⟩ <;>
    simp [truthy, Option.filter_eq_some_iff] at found

private theorem unnamed_without (plain : PlainKey api.listCredentials.providerIdField)
    (declared : api.listCredentials.nameField = some "")
    (presented : credentialMetadata api.listCredentials item = .ok metadata) :
    ∃ left, credentialMetadata api.listCredentials (("", .null) :: item) = .ok left ∧ left.name = none := by
  obtain ⟨readId, -, readFields⟩ := credentialMetadata_ok presented
  obtain ⟨fields, readFields⟩ := metadataFields_cons_null "" readFields
  have keptId : metadataId api.listCredentials (("", .null) :: item) = .ok metadata.providerId := by
    obtain ⟨key, given, idDeclared, dot⟩ := plain
    unfold metadataId at readId ⊢
    rw [idDeclared, Option.getD_some, dig_plain dot] at readId ⊢
    rw [read_cons_of_ne given]
    exact readId
  have noName : metadataName api.listCredentials (("", .null) :: item) = .ok none := by
    unfold metadataName
    rw [declared]
    dsimp only
    rw [dig_plain List.not_mem_nil, read_cons_self]
  refine ⟨⟨metadata.providerId, none, fields⟩, ?_, rfl⟩
  rw [credentialMetadata, keptId, noName, readFields]
  rfl

private theorem plain_names (agree : Agreeing api other) (presented : Presented api item) (named : ¬ Nameless api item) :
    PlainKey api.listCredentials.nameField := by
  obtain ⟨metadata, presented⟩ := presented
  by_contra odd
  cases declared : api.listCredentials.nameField with
  | none =>
    apply named
    apply nameless_of_agree agree presented
    have none := (credentialMetadata_ok presented).2.1
    rw [metadataName, declared] at none
    exact (Except.ok.inj none).symm
  | some key =>
    rw [declared] at odd
    rcases not_plainKey odd with rfl | dot
    · apply named
      apply nameless_of_agree agree presented
      obtain ⟨left, presented', unnamed⟩ := unnamed_without (plain_ids agree ⟨metadata, presented⟩) declared presented
      cases name : metadata.name with
      | none => rfl
      | some text =>
        have given := (metadataName_ok declared (name ▸ (credentialMetadata_ok presented).2.1)).2
        have reads := (names_agree agree presented given).mpr name
        have kept : textUnder (nameKey api) (("", .null) :: item) = some text := by
          obtain ⟨key, readKey, reads⟩ := Option.bind_eq_some_iff.mp reads
          rw [readKey, textUnder, Option.bind_some, read_cons_of_ne (nameKey_ne readKey)]
          exact reads
        rw [names_agree agree presented' given, unnamed] at kept
        cases kept
    · -- The lookups read any name there, and the metadata none of them.
      have given : key ≠ "" := by
        rintro rfl
        exact List.not_mem_nil dot
      have any : ∀ text ≠ "", metadata.name = some text := by
        intro text nonempty
        have kept : credentialMetadata api.listCredentials ((key, .str text) :: item) = .ok metadata := by
          rw [metadata_congr (dig_cons_of_dot dot (.str text) item), presented]
        rw [← names_agree agree kept nonempty, nameKey, declared, truthy_some given, Option.some_or, textUnder,
          Option.bind_some, read_cons_self, asText]
      have one := any "a" (by decide)
      rw [any "b" (by decide)] at one
      revert one
      decide

private theorem readAlike_of_agree (agree : Agreeing api other) : ReadAlike api := by
  constructor
  · by_cases some : ∃ item, Presented api item
    · obtain ⟨item, presented⟩ := some
      exact .inl (plain_ids agree presented)
    · exact .inr (not_exists.mp some)
  · by_cases named : ∃ item, Presented api item ∧ ¬ Nameless api item
    · obtain ⟨item, presented, named⟩ := named
      exact .inl (plain_names agree presented named)
    · right
      intro item presented
      by_contra unnamed
      exact named ⟨item, presented, unnamed⟩

private theorem name_of_readAlike (alike : ReadAlike api)
    (presented : credentialMetadata api.listCredentials item = .ok metadata) {name : String} (given : name ≠ "") :
    textUnder (nameKey api) item = some name ↔ metadata.name = some name := by
  rcases alike.names with plain | nameless
  · exact name_of_plain plain presented given
  · obtain ⟨unread, unnamed⟩ := nameless item ⟨metadata, presented⟩
    rw [(credentialMetadata_ok presented).2.1] at unnamed
    rw [Except.ok.inj unnamed]
    refine ⟨fun reads => ?_, nofun⟩
    rw [reads, truthy_some given] at unread
    cases unread

private theorem agree_of_readAlike (alike : ReadAlike api) (all : ∀ item ∈ items, Presented api item) :
    LookupsAgree api other items := by
  have plain : ∀ item ∈ items, PlainKey api.listCredentials.providerIdField := by
    intro item mem
    exact alike.ids.resolve_right fun none => none item (all item mem)
  apply lookups_agree
  · intro item mem
    rw [idKey_of_plain (plain item mem)]
  · intro item mem metadata presented
    exact id_of_plain (plain item mem) presented
  · intro item mem id reads
    obtain ⟨metadata, presented⟩ := all item mem
    rw [id_of_plain (plain item mem) presented] at reads
    exact ⟨item, mem, metadata, presented, Option.some.inj reads⟩
  · intro item mem name given
    obtain ⟨metadata, presented⟩ := all item mem
    rw [name_of_readAlike alike presented given]
    constructor
    · intro named
      exact ⟨metadata, presented, named⟩
    · rintro ⟨found, same, named⟩
      rw [Except.ok.inj (presented.symm.trans same)]
      exact named

/-- Items without metadata do no harm if no lookup finds them, and only then. -/
theorem agree_iff_presentable (ids : PlainKey api.listCredentials.providerIdField)
    (names : PlainKey api.listCredentials.nameField) : LookupsAgree api other items ↔ Presentable api items := by
  constructor
  · intro agree item mem
    by_cases presented : Presented api item
    · exact .inl presented
    · right
      constructor
      · rw [truthy, Option.filter_eq_none_iff]
        intro name reads
        rw [decide_eq_true_iff]
        intro given
        have picked := (agree.orphans name given [] item mem).mp (by
          obtain ⟨key, nonempty, declared, -⟩ := ids
          rw [orphanCandidates, List.mem_filter, decide_eq_true_iff]
          refine ⟨mem, reads, key, ?_, List.not_mem_nil⟩
          rw [idKey, declared, truthy_some nonempty]
          rfl)
        obtain ⟨metadata, found, -⟩ := picked
        exact presented ⟨metadata, found⟩
      · intro id reads
        rw [← agree.prepared id, preparedIds, List.mem_insertionSort, List.mem_filterMap]
        exact ⟨item, mem, reads⟩
  · intro presentable
    apply lookups_agree
    · intro item mem
      rw [idKey_of_plain ids]
    · intro item mem metadata presented
      exact id_of_plain ids presented
    · intro item mem id reads
      rcases presentable item mem with ⟨metadata, presented⟩ | ⟨-, hidden⟩
      · rw [id_of_plain ids presented] at reads
        exact ⟨item, mem, metadata, presented, Option.some.inj reads⟩
      · exact hidden id reads
    · intro item mem name given
      constructor
      · intro reads
        rcases presentable item mem with ⟨metadata, presented⟩ | ⟨unread, -⟩
        · exact ⟨metadata, presented, (name_of_plain names presented given).mp reads⟩
        · rw [reads, truthy_some given] at unread
          cases unread
      · rintro ⟨metadata, presented, named⟩
        exact (name_of_plain names presented given).mpr named

/-- The lookups agree with the metadata on every list of credentials that have metadata exactly when the declared paths
are plain keys, or no item could tell the difference. Under plain keys, they agree on exactly the presentable lists. -/
theorem lookups_agree_iff (api : ProviderApi) (other : Json → String) :
    ((∀ items, (∀ item ∈ items, Presented api item) → LookupsAgree api other items) ↔ ReadAlike api) ∧
      (PlainKey api.listCredentials.providerIdField → PlainKey api.listCredentials.nameField →
        ∀ items, LookupsAgree api other items ↔ Presentable api items) := by
  refine ⟨⟨readAlike_of_agree, fun alike items all => agree_of_readAlike alike all⟩, ?_⟩
  intro ids names items
  exact agree_iff_presentable ids names

end

private theorem provider_slot : "{provider_id}".toList <:+: "/keys/{provider_id}".toList := by
  decide

def nestedApi : ProviderApi where
  baseUrl := "https://keys.example.test"
  listCredentials := {
    method := "GET", path := "/keys", successStatuses := [200], providerIdField := some "data.id", nameField := some "name" }
  createCredential := {
    method := "POST", path := "/keys", successStatuses := [201], providerIdField := some "data.id",
    secretField := some "secret" }
  revokeCredential := { method := "DELETE", path := "/keys/{provider_id}", successStatuses := [204] }
  create_id := nofun
  create_secret := nofun
  list_id := nofun
  revoke_path := provider_slot

def nestedItem : Item := [("data", .obj [("id", .str "key-1")]), ("name", .str "deploy")]

/-- The credential is listed, and its status says that it does not exist. -/
theorem nested_credential_missed :
    credentialMetadata nestedApi.listCredentials nestedItem = .ok ⟨"key-1", some "deploy", []⟩ ∧
      credentialStatus nestedApi [nestedItem] "key-1" = .ok (false, none) ∧
      ¬ LookupsAgree nestedApi (fun _ => "") [nestedItem] := by
  have presented : credentialMetadata nestedApi.listCredentials nestedItem = .ok ⟨"key-1", some "deploy", []⟩ := by rfl
  have absent : credentialStatus nestedApi [nestedItem] "key-1" = .ok (false, none) := by rfl
  refine ⟨presented, absent, fun agree => ?_⟩
  have found := (agree.status "key-1" (by decide) false none absent).mpr
    ⟨nestedItem, List.mem_singleton_self nestedItem, _, presented, rfl⟩
  cases found

end Uumi.Connectors.Http
