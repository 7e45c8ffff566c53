import Uumi.Connectors.SecretManager

/-! The names of secret versions. Secret Manager may name the project of a secret by its id or by its number. -/
namespace Uumi.Connectors.SecretManager
open Uumi.Contracts Uumi.Core Uumi.Foundations Uumi.Broker Uumi.Storage
open Uumi.Foundations.Program (Spec Steps lift)

/-- A part of a resource name. -/
def IsSegment (text : String) : Prop := text ≠ "" ∧ '/' ∉ text.toList ∧ ':' ∉ text.toList

instance (text : String) : Decidable (IsSegment text) := by
  unfold IsSegment
  infer_instance

/-- A secret of a project, and the spellings of the project in the names of new versions and of listed ones. -/
structure Secret where
  projectId : String
  projectNumber : String
  secretId : String
  addedUnder : String
  listedUnder : String → String
  projectId_segment : IsSegment projectId
  projectNumber_segment : IsSegment projectNumber
  secretId_segment : IsSegment secretId
  addedUnder_spells : addedUnder = projectId ∨ addedUnder = projectNumber
  listedUnder_spells : ∀ version, listedUnder version = projectId ∨ listedUnder version = projectNumber

/-- A version of the secret, with the other fields that responses show of it. -/
structure Version where
  id : String
  state : String
  others : List (String × Json) := []
  segment : IsSegment id

namespace Secret
variable (secret : Secret)

/-- The project is spelled so. -/
def Spells (project : String) : Prop := project = secret.projectId ∨ project = secret.projectNumber

def resource (project : String) : String := "projects/" ++ project ++ "/secrets/" ++ secret.secretId

def versionName (project version : String) : String := secret.resource project ++ "/versions/" ++ version

def shown (project : String) (version : Version) : List (String × Json) :=
  ("name", .str (secret.versionName project version.id)) :: ("state", .str version.state) :: version.others

def page (versions : List Version) : List (String × Json) :=
  [("versions", .arr ((versions.take 100).map fun version => .obj (secret.shown (secret.listedUnder version.id) version)))]

def Added (versions : List Version) (version : Version) (after : List Version) : Prop :=
  after = version :: versions ∧ version.state = "ENABLED" ∧ ∀ earlier ∈ versions, earlier.id ≠ version.id

/-- The secret under its requests, whichever spelling they use; any other request may do and answer anything. -/
def world : Program.World Call Call.Answer Error (List Version) := fun versions op answer after =>
  match op, answer with
  | .get path _, .ok response =>
    (∃ project, secret.Spells project ∧ path = secret.resource project ++ "/versions") →
      after = versions ∧ response = secret.page versions
  | .post path _, .ok response =>
    (∃ project, secret.Spells project ∧ path = secret.resource project ++ ":addVersion") →
      ∃ version, Added versions version after ∧ response = secret.shown secret.addedUnder version
  | _, _ => True

end Secret

section
variable (secret : Secret)

private theorem spells_segment {project : String} (h : secret.Spells project) : IsSegment project := by
  rcases h with rfl | rfl
  · exact secret.projectId_segment
  · exact secret.projectNumber_segment

private theorem resource_split {project : String} (h : IsSegment project) :
    (secret.resource project).toList.splitOn '/' =
      ["projects".toList, project.toList, "secrets".toList, secret.secretId.toList] := by
  have hname : (secret.resource project).toList = ['/'].intercalate
      ["projects".toList, project.toList, "secrets".toList, secret.secretId.toList] := by
    simp [Secret.resource]
  rw [hname, List.splitOn_intercalate]
  · have := secret.secretId_segment.2.1
    simp [h.2.1, this]
  · simp

private theorem versionName_split {project version : String} (h : IsSegment project) (hv : IsSegment version) :
    (secret.versionName project version).toList.splitOn '/' =
      ["projects".toList, project.toList, "secrets".toList, secret.secretId.toList, "versions".toList, version.toList] := by
  have hname : (secret.versionName project version).toList = ['/'].intercalate
      ["projects".toList, project.toList, "secrets".toList, secret.secretId.toList, "versions".toList,
        version.toList] := by
    simp [Secret.versionName, Secret.resource]
  rw [hname, List.splitOn_intercalate]
  · have := secret.secretId_segment.2.1
    simp [h.2.1, hv.2.1, this]
  · simp

/-- The spelling of the project can be read off a name. -/
theorem versionName_inj {project other version : String}
    (h : secret.versionName project version = secret.versionName other version) : project = other := by
  have hl := congrArg String.toList h
  simp only [Secret.versionName, Secret.resource, String.toList_append, List.append_assoc] at hl
  exact String.ext_iff.mpr (List.append_cancel_right (List.append_cancel_left hl))

/-- What `versions` lists of a version. -/
def Secret.listed (project : String) (version : Version) : List (String × Json) :=
  metadata (merge (secret.shown (secret.listedUnder version.id) version)
    [("name", .str (secret.versionName project version.id))])

@[simp] theorem listed_name (project : String) (version : Version) :
    textOf (secret.listed project version) "name" = some (secret.versionName project version.id) := rfl

@[simp] theorem listed_state (project : String) (version : Version) :
    textOf (secret.listed project version) "state" = some version.state := rfl

private theorem listedVersion_shown {project spelled : String} (h : secret.Spells project)
    (hs : secret.Spells spelled) (version : Version) :
    listedVersion (secret.resource project) (secret.shown spelled version) =
      some (merge (secret.shown spelled version) [("name", .str (secret.versionName project version.id))]) := by
  have hname : textOf (secret.shown spelled version) "name" = some (secret.versionName spelled version.id) := rfl
  have hlast : lastSegment (secret.resource project) = secret.secretId.toList := by
    rw [lastSegment, resource_split secret (spells_segment secret h)]
    rfl
  have hproject : spelled.toList ≠ [] := fun he => (spells_segment secret hs).1 (String.toList_eq_nil_iff.mp he)
  have hversion : version.id.toList ≠ [] := fun he => version.segment.1 (String.toList_eq_nil_iff.mp he)
  simp only [listedVersion, hname, Option.bind_eq_bind, Option.bind_some,
    versionName_split secret (spells_segment secret hs) version.segment, hlast]
  rw [if_pos ⟨trivial, hproject, trivial, trivial, trivial, hversion⟩]
  simp [Secret.versionName]

private theorem mapM_map {α β γ : Type} {f : α → β} {g : β → Option γ} {h : α → γ} {items : List α}
    (hg : ∀ a ∈ items, g (f a) = some (h a)) : (items.map f).mapM g = some (items.map h) := by
  induction items with
  | nil => rfl
  | cons a items ih =>
    rw [List.map_cons, List.mapM_cons, hg a List.mem_cons_self,
      ih fun b hb => hg b (List.mem_cons_of_mem _ hb)]
    rfl

private theorem versions_spec {project : String} (h : secret.Spells project) (before : List Version) :
    Spec secret.world (fun _ _ => True) (versions (secret.resource project)) before fun outcome after =>
      ∀ listing, outcome = .ok listing →
        after = before ∧ listing = (before.take 100).map (secret.listed project) := by
  unfold versions
  refine Spec.liftThen (fun _ _ => ?_) fun _ _ _ => nofun
  refine Spec.callThen trivial (fun response after answered => ?_) fun _ _ _ _ => nofun
  obtain ⟨hafter, rfl⟩ := answered ⟨project, h, rfl⟩
  refine Spec.liftThen (fun values hvalues => ?_) fun _ _ _ => nofun
  refine Spec.liftThen (fun items hitems => ?_) fun _ _ _ => nofun
  refine Spec.liftThen (fun listed hlisted => ?_) fun _ _ _ => nofun
  rw [required_ok] at hvalues hitems hlisted
  cases hvalues
  have hshown : ((before.take 100).map fun version => Json.obj (secret.shown (secret.listedUnder version.id) version)).mapM
      objectOf = some ((before.take 100).map fun version => secret.shown (secret.listedUnder version.id) version) :=
    mapM_map fun _ _ => rfl
  rw [hshown] at hitems
  cases hitems
  rw [mapM_map fun version _ => listedVersion_shown secret h (secret.listedUnder_spells version.id) version] at hlisted
  cases hlisted
  rintro listing hl
  cases hl
  refine ⟨hafter, ?_⟩
  rw [List.map_map]
  rfl

private theorem metadata_lookup (response : List (String × Json)) :
    (metadata response).lookup "secret_reference" = none := by
  rw [List.lookup_eq_none_iff]
  intro entry he
  obtain ⟨-, hkey⟩ := List.mem_filter.mp he
  rw [bne_iff_ne]
  rintro heq
  rw [← heq] at hkey
  exact absurd hkey (by decide)

private theorem addVersion_spec (codec : Codec) {project : String} (h : secret.Spells project) (value : String)
    (before : List Version) :
    Spec secret.world (fun _ _ => True) (addVersion codec (secret.resource project) value) before fun outcome after =>
      ∀ stored, outcome = .ok stored → ∃ version, Secret.Added before version after ∧
        textOf stored "secret_reference" = some (secret.versionName secret.addedUnder version.id) := by
  unfold addVersion
  refine Spec.callThen trivial (fun response after answered => ?_) fun _ _ _ _ => nofun
  obtain ⟨version, hadded, rfl⟩ := answered ⟨project, h, rfl⟩
  refine Spec.liftThen (fun name hname => ?_) fun _ _ _ => nofun
  rw [required_ok] at hname
  cases hname
  rintro stored hs
  cases hs
  refine ⟨version, hadded, ?_⟩
  simp only [textOf, merge, List.map_cons, List.cons_append, List.lookup_cons_self, metadata_lookup, Option.getD_none]

private theorem afterScheme_of_no_colon {url : List Char} (h : ':' ∉ url) : afterScheme url = url := by
  have hall : url.takeWhile (fun c => decide (c ≠ ':')) = url := by
    rw [List.takeWhile_eq_self_iff]
    intro c hc
    exact decide_eq_true fun he => h (he ▸ hc)
  unfold afterScheme
  simp only [hall, List.drop_length]

private theorem versionName_hostname (lower : String → String) {project version : String} (h : IsSegment project)
    (hv : IsSegment version) : urlHostname lower (secret.versionName project version) = .ok none := by
  have hcolon : ':' ∉ (secret.versionName project version).toList := by
    have := secret.secretId_segment.2.2
    simp [Secret.versionName, Secret.resource, h.2.2, hv.2.2, this]
  obtain ⟨rest, hrest⟩ : ∃ rest, (secret.versionName project version).toList = 'p' :: rest := by
    simp [Secret.versionName, Secret.resource]
  have hfilter : ':' ∉ ('p' :: rest).filter (· ∉ ['\t', '\r', '\n']) :=
    fun hc => hcolon (hrest ▸ List.mem_of_mem_filter hc)
  unfold urlHostname
  rw [hrest, List.dropWhile_cons_of_neg (by decide), afterScheme_of_no_colon hfilter,
    List.filter_cons_of_pos (by decide)]
  rfl

private theorem versionName_under {project boundary : String} (version : String)
    (h : secret.resource project = boundary ∨ underBoundary (secret.resource project) boundary = true) :
    underBoundary (secret.versionName project version) boundary = true := by
  have hname : (secret.versionName project version).toList =
      (secret.resource project).toList ++ '/' :: ("versions/".toList ++ version.toList) := by
    simp [Secret.versionName]
  unfold underBoundary at h ⊢
  rw [List.isPrefixOf_iff_prefix] at h ⊢
  rw [hname]
  rcases h with rfl | h
  · -- The last segment has no slash to strip.
    obtain ⟨init, last, hlast⟩ := List.eq_nil_or_concat secret.secretId.toList |>.resolve_left
      fun he => secret.secretId_segment.1 (String.toList_eq_nil_iff.mp he)
    have hne : last ≠ '/' := fun he => secret.secretId_segment.2.1 (by simp [hlast, he])
    have hself : (secret.resource project).toList.rdropWhile (· == '/') = (secret.resource project).toList := by
      simp only [Secret.resource, String.toList_append, hlast, List.concat_eq_append]
      rw [← List.append_assoc, List.rdropWhile_concat_neg]
      simpa using hne
    rw [hself]
    exact (List.prefix_append_right_inj _).mpr (List.prefix_append ['/'] _)
  · exact h.trans (List.prefix_append ..)

/-- The secret lies within the resources of its sink. -/
def WithinSink (connection : Connection) (project : String) : Prop :=
  ∃ boundary ∈ connection.allowedResources,
    secret.resource project = boundary ∨ underBoundary (secret.resource project) boundary = true

/-- The tools of the secret store, with parameters that name no other resource, are within the boundary. -/
def MayUse (lower : String → String) (connection : Connection) (reference : String) : Prop :=
  ∀ tool payload, tool ∈ secretManagerConnector.tools →
    (∀ entry ∈ payload, entry.1 ∈ resourceKeys tool → entry.2 = .str reference) →
    withinBoundary lower connection.allowedResources (resources tool payload connection) = .ok true

private theorem withinBoundary_of_allowed {lower : String → String} {patterns named : List String}
    (h : ∀ resource ∈ named, allowed lower resource patterns = .ok true) :
    withinBoundary lower patterns named = .ok true := by
  induction named with
  | nil => rfl
  | cons resource rest ih =>
    unfold withinBoundary
    rw [h resource List.mem_cons_self]
    exact ih fun other ho => h other (List.mem_cons_of_mem _ ho)

private theorem mayUse_of_within (lower : String → String) {connection : Connection} {project version : String}
    (h : secret.Spells project) (hv : IsSegment version) (within : WithinSink secret connection project) :
    MayUse lower connection (secret.versionName project version) := by
  intro tool payload htool hpayload
  have hallowed : allowed lower (secret.versionName project version) connection.allowedResources = .ok true := by
    obtain ⟨boundary, hb, hwithin⟩ := within
    unfold allowed
    rw [versionName_hostname secret lower (spells_segment secret h) hv]
    refine congrArg Except.ok (List.any_eq_true.mpr ⟨boundary, hb, decide_eq_true (.inr (.inl ?_))⟩)
    exact versionName_under secret version hwithin
  refine withinBoundary_of_allowed fun resource hr => ?_
  have hprovider : ∀ tool ∈ secretManagerConnector.tools, "provider.".toList.isPrefixOf tool.toList = false := by
    decide
  unfold resources at hr
  rw [hprovider tool htool, if_neg Bool.false_ne_true] at hr
  obtain ⟨⟨key, value⟩, hentry, hvalue⟩ := List.mem_filterMap.mp hr
  cases value with
  | str text =>
    simp only [Option.ite_none_right_eq_some, Option.some.injEq] at hvalue
    obtain ⟨hkey, rfl⟩ := hvalue
    have := hpayload _ hentry hkey
    cases this
    exact hallowed
  | _ => cases hvalue

/-- The reference of an added version is the name that is listed for it afterwards, the tools may use it, and it is
what the comparison of the versions before and after finds. -/
def OneName (lower : String → String) (connection : Connection) (stored : List (String × Json))
    (before after : List (List (String × Json))) : Prop :=
  ∃ reference, textOf stored "secret_reference" = some reference ∧
    after.head?.bind (textOf · "name") = some reference ∧ MayUse lower connection reference ∧
    newVersions (versionNames before) after = [reference]

private theorem newVersions_added {before after : List Version} {version : Version} (project : String)
    (h : Secret.Added before version after) :
    newVersions (versionNames ((before.take 100).map (secret.listed project)))
        ((after.take 100).map (secret.listed project)) = [secret.versionName project version.id] := by
  obtain ⟨rfl, hstate, hfresh⟩ := h
  have hnames (versions : List Version) : versionNames (versions.map (secret.listed project)) =
      versions.map fun version => secret.versionName project version.id := by
    unfold versionNames
    rw [List.filterMap_map]
    exact List.filterMap_eq_map_iff_forall_eq_some.mpr fun version _ => listed_name secret project version
  have hnew : secret.versionName project version.id ∉ versionNames ((before.take 100).map (secret.listed project)) := by
    rw [hnames]
    intro hmem
    obtain ⟨earlier, he, hname⟩ := List.mem_map.mp hmem
    refine hfresh earlier (List.mem_of_mem_take he) ?_
    have hl := congrArg String.toList hname
    simp only [Secret.versionName, String.toList_append] at hl
    exact String.ext_iff.mpr (List.append_cancel_left hl)
  have hold : newVersions (versionNames ((before.take 100).map (secret.listed project)))
      ((before.take 99).map (secret.listed project)) = [] := by
    unfold newVersions
    rw [List.filterMap_eq_nil_iff]
    intro item hitem
    obtain ⟨earlier, he, rfl⟩ := List.mem_map.mp hitem
    rw [listed_name]
    refine if_neg fun hnot => hnot.1 ?_
    rw [hnames]
    exact List.mem_map.mpr ⟨earlier, (List.take_subset_take_left before (by omega)) he, rfl⟩
  rw [List.take_succ_cons, List.map_cons]
  unfold newVersions at hold ⊢
  rw [List.filterMap_cons, hold, listed_name, listed_state, hstate]
  simp only [hnew, not_false_eq_true, and_self, if_true]

/-- Adding a version and listing the versions agree about its name exactly if Secret Manager spells the project in
its answer as the secret resource does. -/
theorem one_name_iff (lower : String → String) (codec : Codec) (connection : Connection) {project value : String}
    (spells : secret.Spells project) (within : WithinSink secret connection project)
    {s₀ s₁ s₂ s₃ : List Version} {before after : List (List (String × Json))} {stored : List (String × Json)}
    (listed : Steps secret.world s₀ (versions (secret.resource project)) s₁ (.finish (.ok before)))
    (added : Steps secret.world s₁ (addVersion codec (secret.resource project) value) s₂ (.finish (.ok stored)))
    (relisted : Steps secret.world s₂ (versions (secret.resource project)) s₃ (.finish (.ok after))) :
    OneName lower connection stored before after ↔ secret.addedUnder = project := by
  obtain ⟨rfl, rfl⟩ := (versions_spec secret spells s₀).ends listed before rfl
  obtain ⟨version, hadded, hreference⟩ := (addVersion_spec secret codec spells value s₁).ends added stored rfl
  obtain ⟨rfl, rfl⟩ := (versions_spec secret spells s₂).ends relisted after rfl
  constructor
  · rintro ⟨reference, hr, hname, -⟩
    obtain ⟨rfl, -⟩ := hadded
    rw [hreference] at hr
    cases hr
    rw [List.take_succ_cons, List.map_cons, List.head?_cons, Option.bind_some, listed_name] at hname
    exact (versionName_inj secret (Option.some.inj hname)).symm
  · rintro rfl
    refine ⟨_, hreference, ?_, mayUse_of_within secret lower spells version.segment within,
      newVersions_added secret _ hadded⟩
    obtain ⟨rfl, -⟩ := hadded
    rfl

end

def sampleSecret (addedUnder : String) (h : addedUnder = "demo" ∨ addedUnder = "123") : Secret where
  projectId := "demo"
  projectNumber := "123"
  secretId := "key"
  addedUnder := addedUnder
  listedUnder _ := "123"
  projectId_segment := by decide
  projectNumber_segment := by decide
  secretId_segment := by decide
  addedUnder_spells := h
  listedUnder_spells _ := .inr rfl

def sampleCodec : Codec where
  encode := id
  decode := some
  checksum := id

def sampleVersion : Version where
  id := "1"
  state := "ENABLED"
  segment := by decide

section
variable (addedUnder : String) (h : addedUnder = "demo" ∨ addedUnder = "123")

private theorem sample_lists (versions : List Version) :
    Steps (sampleSecret addedUnder h).world versions (SecretManager.versions "projects/demo/secrets/key") versions
      (.finish (.ok ((versions.take 100).map ((sampleSecret addedUnder h).listed "demo")))) := by
  let secret := sampleSecret addedUnder h
  unfold SecretManager.versions
  refine Steps.liftThen (rfl : _ = Except.ok ()) ?_
  refine Steps.callThen (secret.page versions) versions (fun _ => ⟨rfl, rfl⟩) ?_
  let shown (version : Version) := secret.shown (secret.listedUnder version.id) version
  refine Steps.liftThen (a := (versions.take 100).map fun version => .obj (shown version)) rfl ?_
  refine Steps.liftThen (a := (versions.take 100).map shown) ((required_ok ..).mpr (mapM_map fun _ _ => rfl)) ?_
  have named : ((versions.take 100).map shown).mapM (listedVersion "projects/demo/secrets/key") = some
      ((versions.take 100).map fun version => merge (shown version)
        [("name", .str (secret.versionName "demo" version.id))]) :=
    mapM_map fun version _ => listedVersion_shown secret (.inl rfl) (secret.listedUnder_spells version.id) version
  refine Steps.liftThen ((required_ok ..).mpr named) ?_
  rw [List.map_map]
  exact .refl ..

private theorem sample_adds : ∃ stored, Steps (sampleSecret addedUnder h).world []
    (addVersion sampleCodec "projects/demo/secrets/key" "value") [sampleVersion] (.finish (.ok stored)) := by
  have answered : (sampleSecret addedUnder h).world [] (.post ("projects/demo/secrets/key" ++ ":addVersion")
      (.obj [("payload", .obj [("data", .str "value")])]))
      (.ok ((sampleSecret addedUnder h).shown addedUnder sampleVersion)) [sampleVersion] :=
    fun _ => ⟨sampleVersion, ⟨rfl, rfl, nofun⟩, rfl⟩
  exact ⟨_, .call answered (.refl ..)⟩

end

private theorem sample_within : WithinSink (sampleSecret "123" (.inr rfl)) sampleSecretStore "demo" :=
  ⟨"projects/demo/secrets", by decide, .inr (by decide)⟩

/-- Where Secret Manager answers with the number of the project, the reference is not the listed name. -/
theorem names_differ : ¬ ∀ (lower : String → String) (secret : Secret) (codec : Codec) (connection : Connection)
    (project value : String) (s₀ s₁ s₂ s₃ : List Version) (before after : List (List (String × Json)))
    (stored : List (String × Json)), secret.Spells project → WithinSink secret connection project →
    Steps secret.world s₀ (versions (secret.resource project)) s₁ (.finish (.ok before)) →
    Steps secret.world s₁ (addVersion codec (secret.resource project) value) s₂ (.finish (.ok stored)) →
    Steps secret.world s₂ (versions (secret.resource project)) s₃ (.finish (.ok after)) →
    OneName lower connection stored before after := by
  intro h
  let secret := sampleSecret "123" (.inr rfl)
  obtain ⟨stored, added⟩ := sample_adds "123" (.inr rfl)
  have listed := sample_lists "123" (.inr rfl) []
  have relisted := sample_lists "123" (.inr rfl) [sampleVersion]
  obtain ⟨reference, hr, hname, -⟩ := h id secret sampleCodec sampleSecretStore "demo" "value" _ _ _ _ _ _ stored
    (.inl rfl) sample_within listed added relisted
  obtain ⟨version, ⟨hversions, -⟩, hreference⟩ :=
    (addVersion_spec secret sampleCodec (.inl rfl : secret.Spells "demo") "value" []).ends added stored rfl
  obtain rfl : sampleVersion = version := (List.cons.inj hversions).1
  rw [hreference] at hr
  cases hr
  have heq : secret.versionName "demo" "1" = secret.versionName "123" "1" := Option.some.inj hname
  exact absurd (versionName_inj secret heq) (by decide)

/-- Where it answers with the id that the secret resource has, the names are one. -/
theorem sampleSecret_one_name : ∃ stored,
    OneName id sampleSecretStore stored [] ([sampleVersion].map ((sampleSecret "demo" (.inl rfl)).listed "demo")) := by
  obtain ⟨stored, added⟩ := sample_adds "demo" (.inl rfl)
  refine ⟨stored, (one_name_iff (sampleSecret "demo" (.inl rfl)) id sampleCodec sampleSecretStore (.inl rfl)
    ⟨"projects/demo/secrets", by decide, .inr (by decide)⟩ (sample_lists "demo" (.inl rfl) []) added
    (sample_lists "demo" (.inl rfl) [sampleVersion])).mpr rfl⟩

end Uumi.Connectors.SecretManager
