import Mathlib
import Uumi.Connectors.CloudRun

/-! The traffic of a Cloud Run service under the tools of the connector. -/
namespace Uumi.Connectors
open Uumi.Contracts Uumi.Core Uumi.Foundations Uumi.Broker
open Uumi.Foundations.Program (Calls Steps Spec lift)

/-- A Cloud Run service. Its revisions stand in the order of their creation, with whether they are ready; the etag
stands for the version of the service, and every change advances it. -/
structure CloudRunService where
  created : List (String × Bool)
  traffic : List TrafficTarget
  template : Option Json
  etag : Nat

namespace CloudRunService

def latestReady (s : CloudRunService) : Option String := ((s.created.filter (·.2)).getLast?).map (·.1)

def goesTo (s : CloudRunService) (target : TrafficTarget) : Option String := target.revision.or s.latestReady

/-- The share of production traffic that a revision receives, in percent. -/
def share (s : CloudRunService) (revision : String) : Int :=
  ((s.traffic.filter fun target => s.goesTo target = some revision).map fun target => target.percent.getD 0).sum

/-- The sum of the percentages. -/
def total (s : CloudRunService) : Int := (s.traffic.map fun target => target.percent.getD 0).sum

/-- All traffic goes to one revision. -/
def ServesAll (s : CloudRunService) (revision : String) : Prop :=
  ∀ other, s.share other = if other = revision then 100 else 0

/-- What a request shows of the service. -/
def Shows (s : CloudRunService) (view : ServiceView) : Prop :=
  view.latestReadyRevision = s.latestReady ∧ view.template = s.template ∧ view.traffic = s.traffic ∧
    view.etag = some s.etag

/-- A change is rejected if its etag is stale. -/
def Accepts (s : CloudRunService) (body : ServicePatch) : Prop := ∀ etag ∈ body.etag, etag = s.etag

/-- A change of the traffic replaces it; a change of the template creates a revision, if there is something new. -/
def Patched (s : CloudRunService) (mask : UpdateMask) (body : ServicePatch) (t : CloudRunService) : Prop :=
  match mask with
  | .traffic => t = { s with traffic := body.traffic, etag := s.etag + 1 }
  | .template => ∃ created, t = { s with template := body.template, created, etag := s.etag + 1 } ∧
      (created = s.created ∨ ∃ name, name ∉ s.created.map Prod.fst ∧ created = s.created ++ [(name, false)])

/-- What a request does and answers. A change that raises may have been made. -/
def Effect (s : CloudRunService) (op : CloudRunCall) (answer : Except Error op.Answer) (t : CloudRunService) : Prop :=
  match op, answer with
  | .get _, .ok view => s.Shows view ∧ t = s
  | .waitOperation _, .ok view => (s.Shows view ∨ view = {}) ∧ t = s
  | .patch _ mask body, .ok _ => s.Accepts body ∧ s.Patched mask body t
  | .patch _ mask body, .error _ => t = s ∨ s.Accepts body ∧ s.Patched mask body t
  | .get _, .error _ | .waitOperation _, .error _ => t = s

/-- A created revision becomes ready. -/
inductive Ready : CloudRunService → CloudRunService → Prop where
  | intro (s : CloudRunService) (before after : List (String × Bool)) (name : String)
      (h : s.created = before ++ (name, false) :: after) :
      Ready s { s with created := before ++ (name, true) :: after, etag := s.etag + 1 }

def world : Program.World CloudRunCall CloudRunCall.Answer Error CloudRunService := fun s op answer t =>
  ∃ m, s.Effect op answer m ∧ Relation.ReflTransGen Ready m t

variable {s t : CloudRunService}

private theorem ready_traffic (h : Relation.ReflTransGen Ready s t) : t.traffic = s.traffic := by
  induction h with
  | refl => rfl
  | tail _ step ih =>
    cases step
    exact ih

/-- With the same etag, the service is the same. -/
theorem ready_etag (h : Relation.ReflTransGen Ready s t) : s.etag < t.etag ∨ t = s := by
  induction h with
  | refl => exact .inr rfl
  | tail _ step ih =>
    cases step
    refine .inl ?_
    rcases ih with h | rfl
    · exact Nat.lt_succ_of_lt h
    · exact Nat.lt_succ_self _

/-- Traffic to named revisions depends on nothing else. -/
theorem share_of_named (hn : ∀ target ∈ s.traffic, target.revision.isSome) (h : t.traffic = s.traffic)
    (revision : String) : t.share revision = s.share revision := by
  unfold share
  rw [h]
  have hfilter : s.traffic.filter (fun target => t.goesTo target = some revision) =
      s.traffic.filter fun target => s.goesTo target = some revision := by
    refine List.filter_congr fun target ht => ?_
    obtain ⟨name, hname⟩ := Option.isSome_iff_exists.mp (hn target ht)
    simp [goesTo, hname]
  rw [hfilter]

/-- All traffic goes to one revision, by its name. -/
structure Pinned (s : CloudRunService) (revision : String) : Prop where
  names : ∀ target ∈ s.traffic, target.revision.isSome
  serves : s.ServesAll revision

private theorem Pinned.of_traffic {revision : String} (h : s.Pinned revision) (ht : t.traffic = s.traffic) :
    t.Pinned revision where
  names := ht ▸ h.names
  serves other := (share_of_named h.names ht other).trans (h.serves other)

/-- One target of a revision with all of the traffic pins it. -/
theorem pinned_of_single {revision : String} {target : TrafficTarget} (h : s.traffic = [target])
    (hr : target.revision = some revision) (hp : target.percent = some 100) : s.Pinned revision where
  names := by
    rw [h]
    simp [hr]
  serves other := by
    by_cases he : other = revision
    · simp [share, h, goesTo, hr, hp, he]
    · simp [share, h, goesTo, hr, he, Ne.symm he]

/-- So do two, if the second one takes nothing. -/
theorem pinned_of_candidate {revision candidate tag : String}
    (h : s.traffic = [named revision 100 none, named candidate 0 (some tag)]) : s.Pinned revision where
  names := by
    rw [h]
    simp [named]
  serves other := by
    by_cases he : other = revision <;> by_cases hc : candidate = other
    · simp [share, h, goesTo, named, he, hc]
    · simp [share, h, goesTo, named, ← he, hc]
    · simp [share, h, goesTo, named, he, hc, Ne.symm he]
    · simp [share, h, goesTo, named, he, hc, Ne.symm he]

/-- A request changes no share, whatever its effect. -/
def Keeps (s : CloudRunService) (op : CloudRunCall) : Prop :=
  ∀ answer t, s.Effect op answer t → ∀ revision, t.share revision = s.share revision

private theorem keeps_get (service : String) : s.Keeps (.get service) := by
  rintro answer t h revision
  cases answer with
  | error e => rw [show t = s from h]
  | ok view => rw [h.2]

private theorem keeps_waitOperation (operation : String) : s.Keeps (.waitOperation operation) := by
  rintro answer t h revision
  cases answer with
  | error e => rw [show t = s from h]
  | ok view => rw [h.2]

/-- A change that was made or not. -/
theorem effect_patch {service : String} {mask : UpdateMask} {body : ServicePatch}
    {answer : Except Error (Option String)} (h : s.Effect (.patch service mask body) answer t) :
    t = s ∨ s.Accepts body ∧ s.Patched mask body t := by
  cases answer with
  | error e => exact h
  | ok operation => exact .inr h

/-- A new template moves no pinned traffic. -/
theorem Pinned.keeps_template {revision : String} (h : s.Pinned revision) (service : String) (body : ServicePatch) :
    s.Keeps (.patch service .template body) := by
  rintro answer t heffect
  rcases effect_patch heffect with rfl | ⟨-, created, rfl, -⟩
  · exact fun _ => rfl
  · exact share_of_named h.names rfl

/-- A request for the service finds it pinned, and leaves it so. -/
theorem Pinned.after_get {revision service : String} {answer : Except Error ServiceView} (h : s.Pinned revision)
    (ha : world s (.get service) answer t) : t.Pinned revision := by
  obtain ⟨m, heffect, hready⟩ := ha
  have hm : m = s := by
    cases answer with
    | error e => exact heffect
    | ok view => exact heffect.2
  subst hm
  exact h.of_traffic (ready_traffic hready)

private theorem Pinned.after_waitOperation {revision operation : String} {answer : Except Error ServiceView}
    (h : s.Pinned revision) (ha : world s (.waitOperation operation) answer t) : t.Pinned revision := by
  obtain ⟨m, heffect, hready⟩ := ha
  have hm : m = s := by
    cases answer with
    | error e => exact heffect
    | ok view => exact heffect.2
  subst hm
  exact h.of_traffic (ready_traffic hready)

private theorem Pinned.after_template {revision service : String} {body : ServicePatch}
    {answer : Except Error (Option String)} (h : s.Pinned revision)
    (ha : world s (.patch service .template body) answer t) : t.Pinned revision := by
  obtain ⟨m, heffect, hready⟩ := ha
  have hm : m.traffic = s.traffic := by
    rcases effect_patch heffect with rfl | ⟨-, created, rfl, -⟩ <;> rfl
  exact h.of_traffic ((ready_traffic hready).trans hm)

end CloudRunService
open CloudRunService

section
variable {s : CloudRunService} {service previous : String}

private theorem patchTraffic_spec (view : ServiceView) (targets : List TrafficTarget)
    (hpinned : ∀ t : CloudRunService, t.traffic = targets → t.Pinned previous)
    (hserves : s.Accepts { name := service, traffic := targets, etag := view.etag } → s.ServesAll previous) :
    Spec world Keeps (patchTraffic service view targets) s fun outcome t =>
      (∃ response, outcome = .ok response) → t.Pinned previous := by
  unfold patchTraffic
  refine Spec.callThen ?_ ?_ fun _ _ _ => nofun
  · intro answer t h revision
    rcases effect_patch h with rfl | ⟨haccepts, rfl⟩
    · rfl
    · exact ((hpinned _ rfl).serves revision).trans (hserves haccepts revision).symm
  · rintro operation t ⟨m, ⟨-, rfl⟩, hready⟩
    have ht : t.Pinned previous := hpinned t (ready_traffic hready)
    refine Spec.liftThen (fun name _ => ?_) fun _ _ => nofun
    refine Spec.callThen (keeps_waitOperation name) ?_ fun _ _ _ => nofun
    exact fun result u hu _ => ht.after_waitOperation hu

private theorem pinCurrent_spec {start : CloudRunService} {view : ServiceView} (shows : start.Shows view)
    (since : Relation.ReflTransGen Ready start s) (serves : start.ServesAll previous) :
    Spec world Keeps (pinCurrent service view previous) s fun outcome t => outcome = .ok () → t.Pinned previous := by
  have patched : Spec world Keeps (do let _ ← patchTraffic service view [named previous 100 none]) s
      fun outcome t => outcome = .ok () → t.Pinned previous := by
    refine Spec.andThen (patchTraffic_spec view _ (fun _ h => pinned_of_single h rfl rfl) fun haccepts => ?_) ?_ fun _ _ _ => nofun
    · -- The etag is that of the service that was read, which has not changed since.
      have hetag : start.etag = s.etag := haccepts _ shows.2.2.2
      rcases ready_etag since with h | rfl
      · omega
      · exact serves
    · exact fun response t h _ => h ⟨response, rfl⟩
  unfold pinCurrent
  split
  · rename_i target htraffic
    split
    · rename_i h
      refine fun _ => Pinned.of_traffic (s := start) ⟨?_, serves⟩ (ready_traffic since)
      rw [← shows.2.2.1, htraffic]
      simp [h.1]
    · exact patched
  · exact patched

private theorem newRevision_spec {result : ServiceView} (h : s.Pinned previous) :
    Spec world Keeps (newRevision service previous result) s fun _ t => t.Pinned previous := by
  unfold newRevision
  have found : Spec world Keeps (if Differs previous result.latestReadyRevision then return result.latestReadyRevision
      else do return (← request (.get service)).latestReadyRevision : CloudRunM (Option String)) s
      fun _ t => t.Pinned previous := by
    split
    · exact h
    · refine Spec.callThen (keeps_get service) ?_ ?_
      · exact fun view t ht => h.after_get ht
      · exact fun e t ht => h.after_get ht
  refine Spec.andThen found (fun candidate t ht => ?_) fun _ _ ht => ht
  exact Spec.liftThen (fun _ _ => ht) fun _ _ => ht

/-- What a deployment reports as its rollback. -/
def RollsBackTo (response : ConnectorResponse) (revision : String) : Prop :=
  textOf response.result "rollback_revision" = some revision

private theorem deploy_spec {start : CloudRunService} {view : ServiceView} (payload : List (String × Json))
    (shows : start.Shows view) (since : Relation.ReflTransGen Ready start s)
    (serves : ∀ revision, start.latestReady = some revision → start.ServesAll revision) :
    Spec world Keeps (deploy service view payload) s fun outcome _ => ∀ response, outcome = .ok response →
      ∃ revision, RollsBackTo response revision ∧ start.latestReady = some revision := by
  unfold deploy
  refine Spec.liftThen (fun previous hprevious => ?_) fun _ _ _ => nofun
  rw [required_ok, shows.1] at hprevious
  refine Spec.andThen (pinCurrent_spec shows since (serves previous hprevious)) ?_ fun _ _ _ _ => nofun
  rintro _ t₁ h₁
  have h₁ := h₁ rfl
  refine Spec.callThen (keeps_get service) (fun current t₂ h₂ => ?_) fun _ _ _ _ => nofun
  have h₂ := h₁.after_get h₂
  refine Spec.liftThen (fun template _ => ?_) fun _ _ _ => nofun
  refine Spec.liftThen (fun generationId _ => ?_) fun _ _ _ => nofun
  refine Spec.callThen (h₂.keeps_template service _) (fun operation t₃ h₃ => ?_) fun _ _ _ _ => nofun
  have h₃ := h₂.after_template h₃
  refine Spec.liftThen (fun name _ => ?_) fun _ _ _ => nofun
  refine Spec.callThen (keeps_waitOperation name) (fun result t₄ h₄ => ?_) fun _ _ _ _ => nofun
  have h₄ := h₃.after_waitOperation h₄
  refine Spec.andThen (newRevision_spec h₄) (fun candidate t₅ h₅ => ?_) fun _ _ _ _ => nofun
  refine Spec.callThen (keeps_get service) (fun tagged t₆ h₆ => ?_) fun _ _ _ _ => nofun
  have h₆ := Pinned.after_get h₅ h₆
  refine Spec.liftThen (fun tag _ => ?_) fun _ _ _ => nofun
  refine Spec.andThen (patchTraffic_spec tagged _ (fun _ => pinned_of_candidate) fun _ => h₆.serves) ?_
    fun _ _ _ _ => nofun
  rintro _ t₇ - response h
  cases h
  exact ⟨previous, rfl, hprevious⟩

end

/-- The deployment reads a service whose latest ready revision, if there is one, receives all production traffic. -/
def OverServing (payload : List (String × Json)) (s : CloudRunService) : Prop :=
  ∀ service revision, serviceOf payload = .ok service → s.latestReady = some revision → s.ServesAll revision

/-- However a deployment goes, no request of it changes a share, and what it reports as its rollback received traffic. -/
def KeepsProduction (payload : List (String × Json)) (s : CloudRunService) : Prop :=
  ∀ t left, Steps world s (executeCloudRun "runtime.deployCandidate" payload) t left →
    (∀ op next, left = .call op next → t.Keeps op) ∧
      ∀ response, left = .finish (.ok response) → ∃ revision, RollsBackTo response revision ∧ 0 < s.share revision

def CloudRunService.view (s : CloudRunService) : ServiceView where
  latestReadyRevision := s.latestReady
  template := s.template
  traffic := s.traffic
  etag := some s.etag

private theorem deploy_reads (payload : List (String × Json)) {s : CloudRunService} {service revision : String}
    (hservice : serviceOf payload = .ok service) (hlatest : s.latestReady = some revision) :
    ∃ rest : Unit → CloudRunM ConnectorResponse, Steps world s (executeCloudRun "runtime.deployCandidate" payload) s
      (pinCurrent service s.view revision >>= rest) := by
  apply Exists.intro
  unfold executeCloudRun
  refine Steps.liftThen hservice ?_
  refine Steps.callThen s.view s ⟨s, ⟨⟨rfl, rfl, rfl, rfl⟩, rfl⟩, .refl⟩ ?_
  rw [if_neg (by decide), if_pos rfl]
  unfold deploy
  refine Steps.liftThen ((required_ok ..).mpr hlatest) ?_
  exact .refl ..

private theorem keepsProduction_iff (payload : List (String × Json)) (s : CloudRunService) :
    KeepsProduction payload s ↔ OverServing payload s := by
  constructor
  · intro h service revision hservice hlatest
    obtain ⟨rest, reached⟩ := deploy_reads payload hservice hlatest
    -- Where the deployment changes the traffic, the change may be made.
    have patching (hpin : pinCurrent service s.view revision =
        do let _ ← patchTraffic service s.view [named revision 100 none]) : s.ServesAll revision := by
      have changed : s.Effect (.patch service .traffic
          { name := service, traffic := [named revision 100 none], etag := s.view.etag }) (.ok none)
          { s with traffic := [named revision 100 none], etag := s.etag + 1 } :=
        ⟨fun _ he => (Option.some.inj he).symm, rfl⟩
      rw [hpin] at reached
      have hkeeps := (h s _ reached).1 _ _ rfl _ _ changed
      exact fun other => (hkeeps other).symm.trans ((pinned_of_single rfl rfl rfl).serves other)
    by_cases hsingle : ∃ target, s.traffic = [target] ∧ target.revision = some revision ∧ target.percent = some 100 ∧
        target.kind.getD "" = ""
    · obtain ⟨target, htraffic, hr, hp, -⟩ := hsingle
      exact (pinned_of_single htraffic hr hp).serves
    · refine patching ?_
      unfold pinCurrent
      split
      · rename_i target htraffic
        exact if_neg fun ht => hsingle ⟨target, htraffic, ht⟩
      · rfl
  · intro h t left steps
    have spec : Spec world Keeps (executeCloudRun "runtime.deployCandidate" payload) s fun outcome _ =>
        ∀ response, outcome = .ok response → ∃ revision, RollsBackTo response revision ∧ 0 < s.share revision := by
      unfold executeCloudRun
      refine Spec.liftThen (fun service hservice => ?_) fun _ _ _ => nofun
      refine Spec.callThen (keeps_get service) ?_ fun _ _ _ _ => nofun
      rintro view t ⟨m, ⟨shows, rfl⟩, since⟩
      rw [if_neg (by decide), if_pos rfl]
      refine (deploy_spec payload shows since fun revision => h service revision hservice).mono ?_
      intro outcome _ hout response hresponse
      obtain ⟨revision, hrollback, hlatest⟩ := hout response hresponse
      refine ⟨revision, hrollback, ?_⟩
      rw [h service revision hservice hlatest revision, if_pos rfl]
      decide
    constructor
    · rintro op next rfl
      exact spec.reaches steps
    · rintro response rfl
      exact spec.ends steps response rfl

def HandsOutAll : CloudRunCall → Prop
  | .patch _ .traffic body => (body.traffic.map fun target => target.percent.getD 0).sum = 100
  | _ => True

private theorem total_kept (s : CloudRunService) (op : CloudRunCall) (answer : Except Error op.Answer)
    (t : CloudRunService) (h : HandsOutAll op) (hs : s.total = 100) (answered : world s op answer t) :
    t.total = 100 := by
  obtain ⟨m, heffect, hready⟩ := answered
  have hm : m.total = 100 := by
    cases op with
    | get service =>
      cases answer with
      | error e => exact (show m = s from heffect) ▸ hs
      | ok view => exact heffect.2 ▸ hs
    | waitOperation operation =>
      cases answer with
      | error e => exact (show m = s from heffect) ▸ hs
      | ok view => exact heffect.2 ▸ hs
    | patch service mask body =>
      rcases effect_patch heffect with rfl | ⟨-, hpatched⟩
      · exact hs
      · cases mask with
        | traffic =>
          cases hpatched
          exact h
        | template =>
          obtain ⟨created, rfl, -⟩ := hpatched
          exact hs
  unfold total at hm ⊢
  rw [ready_traffic hready, hm]

private theorem patchTraffic_calls (service : String) (view : ServiceView) {targets : List TrafficTarget}
    (h : (targets.map fun target => target.percent.getD 0).sum = 100) :
    (patchTraffic service view targets).Calls HandsOutAll := by
  refine Calls.bind (Program.calls_perform h) fun _ => Calls.bind (Program.calls_lift _) fun _ => ?_
  exact Calls.bind (Program.calls_perform trivial) fun _ => trivial

private theorem patchTraffic_total (service : String) (view : ServiceView) {targets : List TrafficTarget}
    (h : (targets.map fun target => target.percent.getD 0).sum = 100) (s : CloudRunService) :
    Spec world (fun _ _ => True) (patchTraffic service view targets) s fun outcome t =>
      (∃ response, outcome = .ok response) → t.total = 100 := by
  unfold patchTraffic
  refine Spec.callThen trivial ?_ fun _ _ _ => nofun
  rintro operation t ⟨m, ⟨-, rfl⟩, hready⟩
  have ht : t.total = 100 := by
    unfold total
    rw [ready_traffic hready]
    exact h
  refine Spec.liftThen (fun name _ => ?_) fun _ _ => nofun
  refine Spec.callThen trivial (fun result u hu _ => ?_) fun _ _ _ => nofun
  exact total_kept t (.waitOperation name) (.ok result) u trivial ht hu

private theorem percent_split (first second : String) (percent : Int) (tag : Option String) :
    (([named first (100 - percent) none, named second percent tag]).map fun target => target.percent.getD 0).sum = 100 := by
  simp [named]

private theorem deploy_calls (service : String) (view : ServiceView) (payload : List (String × Json)) :
    (deploy service view payload).Calls HandsOutAll := by
  unfold deploy
  refine Calls.bind (Program.calls_lift _) fun previous => ?_
  have pinned : (pinCurrent service view previous).Calls HandsOutAll := by
    have patched : Calls HandsOutAll (do let _ ← patchTraffic service view [named previous 100 none]) :=
      Calls.bind (patchTraffic_calls service view rfl) fun _ => trivial
    unfold pinCurrent
    split
    · split
      · trivial
      · exact patched
    · exact patched
  refine Calls.bind pinned fun _ => Calls.bind (Program.calls_perform trivial) fun _ => ?_
  refine Calls.bind (Program.calls_lift _) fun _ => Calls.bind (Program.calls_lift _) fun _ => ?_
  refine Calls.bind (Program.calls_perform trivial) fun _ => Calls.bind (Program.calls_lift _) fun _ => ?_
  refine Calls.bind (Program.calls_perform trivial) fun result => ?_
  have found : (newRevision service previous result).Calls HandsOutAll := by
    unfold newRevision
    refine Calls.bind ?_ fun _ => Calls.bind (Program.calls_lift _) fun _ => Program.calls_lift _
    split
    · trivial
    · exact Calls.bind (Program.calls_perform trivial) fun _ => trivial
  refine Calls.bind found fun candidate => Calls.bind (Program.calls_perform trivial) fun _ => ?_
  refine Calls.bind (Program.calls_lift _) fun tag => ?_
  exact Calls.bind (patchTraffic_calls service _ (percent_split previous candidate 0 (some tag))) fun _ => trivial

def changingTools : Finset String := {"runtime.deployCandidate", "runtime.shiftTraffic", "runtime.rollback"}

private theorem execute_calls (tool : String) (payload : List (String × Json)) :
    (executeCloudRun tool payload).Calls HandsOutAll := by
  unfold executeCloudRun
  refine Calls.bind (Program.calls_lift _) fun service => Calls.bind (Program.calls_perform trivial) fun view => ?_
  split
  · exact Program.calls_lift _
  split
  · exact deploy_calls service view payload
  split
  · unfold shiftTraffic
    refine Calls.bind (Program.calls_lift _) fun candidate => Calls.bind (Program.calls_lift _) fun rollback => ?_
    refine Calls.bind (Program.calls_lift _) fun percent => Calls.bind (Program.calls_lift _) fun _ => ?_
    exact patchTraffic_calls service view (percent_split rollback candidate percent none)
  split
  · exact Calls.bind (Program.calls_lift _) fun rollback => patchTraffic_calls service view rfl
  · exact Program.calls_lift _

private theorem deploy_total (service : String) (view : ServiceView) (payload : List (String × Json))
    (s : CloudRunService) : Spec world (fun _ _ => True) (deploy service view payload) s fun outcome t =>
      (∃ response, outcome = .ok response) → t.total = 100 := by
  unfold deploy
  refine Spec.liftThen (fun previous _ => ?_) fun _ _ => nofun
  refine Spec.andThen (Program.spec_anyway _) (fun _ _ _ => ?_) fun _ _ _ => nofun
  refine Spec.callThen trivial (fun current _ _ => ?_) fun _ _ _ => nofun
  refine Spec.liftThen (fun template _ => ?_) fun _ _ => nofun
  refine Spec.liftThen (fun generationId _ => ?_) fun _ _ => nofun
  refine Spec.callThen trivial (fun operation _ _ => ?_) fun _ _ _ => nofun
  refine Spec.liftThen (fun name _ => ?_) fun _ _ => nofun
  refine Spec.callThen trivial (fun result _ _ => ?_) fun _ _ _ => nofun
  refine Spec.andThen (Program.spec_anyway _) (fun candidate _ _ => ?_) fun _ _ _ => nofun
  refine Spec.callThen trivial (fun tagged t _ => ?_) fun _ _ _ => nofun
  refine Spec.liftThen (fun tag _ => ?_) fun _ _ => nofun
  refine Spec.andThen (patchTraffic_total service tagged (percent_split previous candidate 0 (some tag)) t) ?_
    fun _ _ _ => nofun
  exact fun response _ h _ => h ⟨response, rfl⟩

private theorem execute_total {tool : String} (changes : tool ∈ changingTools) (payload : List (String × Json))
    (s : CloudRunService) : Spec world (fun _ _ => True) (executeCloudRun tool payload) s fun outcome t =>
      (∃ response, outcome = .ok response) → t.total = 100 := by
  unfold executeCloudRun
  refine Spec.liftThen (fun service _ => ?_) fun _ _ => nofun
  refine Spec.callThen trivial (fun view t _ => ?_) fun _ _ _ => nofun
  split
  · rename_i h
    subst h
    exact absurd changes (by decide)
  split
  · exact deploy_total service view payload t
  split
  · unfold shiftTraffic
    refine Spec.liftThen (fun candidate _ => ?_) fun _ _ => nofun
    refine Spec.liftThen (fun rollback _ => ?_) fun _ _ => nofun
    refine Spec.liftThen (fun percent _ => ?_) fun _ _ => nofun
    refine Spec.liftThen (fun _ _ => ?_) fun _ _ => nofun
    exact patchTraffic_total service view (percent_split rollback candidate percent none) t
  split
  · refine Spec.liftThen (fun rollback _ => ?_) fun _ _ => nofun
    exact patchTraffic_total service view rfl t
  · exact fun h => nomatch h

/-- An execution of a tool on the service, up to its end or to a crash. -/
structure Execution where
  tool : String
  payload : List (String × Json)
  before : CloudRunService
  after : CloudRunService
  left : CloudRunM ConnectorResponse
  steps : Steps world before (executeCloudRun tool payload) after left

/-- The execution returned, after it changed the traffic. -/
def Execution.Completed (e : Execution) : Prop :=
  e.tool ∈ changingTools ∧ ∃ response, e.left = .finish (.ok response)

/-- The runs of a service: one execution after another, and revisions that become ready in between. -/
inductive ServiceRun (start : CloudRunService) : List Execution → CloudRunService → Prop where
  | nil : ServiceRun start [] start
  | ready {executions : List Execution} {s t : CloudRunService} (run : ServiceRun start executions s) (h : Ready s t) :
      ServiceRun start executions t
  | execution {executions : List Execution} (e : Execution) (run : ServiceRun start executions e.before) :
      ServiceRun start (executions ++ [e]) e.after

private theorem run_total {start s : CloudRunService} {executions : List Execution}
    (run : ServiceRun start executions s) (h : ∃ e ∈ executions, e.Completed) : s.total = 100 := by
  induction run with
  | nil => simp at h
  | ready _ step ih =>
    cases step
    exact ih h
  | @execution executions e _ ih =>
    by_cases hc : e.Completed
    · obtain ⟨changes, response, hleft⟩ := hc
      exact (execute_total changes e.payload e.before).ends (hleft ▸ e.steps) ⟨response, rfl⟩
    · obtain ⟨earlier, he, hcompleted⟩ := h
      rcases List.mem_append.mp he with he | he
      · refine Calls.steps_keep (I := fun s => s.total = 100) (execute_calls e.tool e.payload) total_kept e.steps ?_
        exact ih ⟨earlier, he, hcompleted⟩
      · rw [List.mem_singleton.mp he] at hcompleted
        exact absurd hcompleted hc

/-- In every run of a service, the deployments keep production traffic exactly if each one starts where the latest
ready revision receives all of it; after every completed change the percentages sum to 100. -/
theorem deployments_keep_production {start s : CloudRunService} {executions : List Execution}
    (run : ServiceRun start executions s) :
    ((∀ e ∈ executions, e.tool = "runtime.deployCandidate" → KeepsProduction e.payload e.before) ↔
      ∀ e ∈ executions, e.tool = "runtime.deployCandidate" → OverServing e.payload e.before) ∧
    ((∃ e ∈ executions, e.Completed) → s.total = 100) := by
  refine ⟨?_, run_total run⟩
  refine forall_congr' fun e => imp_congr_right fun _ => imp_congr_right fun _ => ?_
  exact keepsProduction_iff e.payload e.before

def sampleServing : CloudRunService where
  created := [("api-1", true)]
  traffic := [named "api-1" 100 none]
  template := some (.obj [("containers", .arr [.obj [("name", .str "app")]])])
  etag := 1

def samplePayload (secretEnv : String) : List (String × Json) :=
  [("service", .str "projects/p/locations/l/services/api"), ("secret_env", .str secretEnv),
    ("secret_name", .str "projects/p/secrets/key"), ("secret_version", .str "2"),
    ("generation_id", .str "generation-2"), ("tag", .str "uumi-run-1")]

def sampleTemplate (secretEnv : String) (template : Option Json) : Option Json :=
  match candidateTemplate (samplePayload secretEnv) template with
  | .ok changed => some changed
  | .error _ => none

def sampleAfterDeployment (s : CloudRunService) (secretEnv old new : String) : CloudRunService where
  created := s.created ++ [(new, true)]
  traffic := [named old 100 none, named new 0 (some "uumi-run-1")]
  template := sampleTemplate secretEnv s.template
  etag := s.etag + 3

def CloudRunService.shifted (s : CloudRunService) (targets : List TrafficTarget) : CloudRunService :=
  { s with traffic := targets, etag := s.etag + 1 }

private theorem view_shown (s : CloudRunService) (service : String) : world s (.get service) (.ok s.view) s :=
  ⟨s, ⟨⟨rfl, rfl, rfl, rfl⟩, rfl⟩, .refl⟩

private theorem sample_shifts (s : CloudRunService) (service : String) (targets : List TrafficTarget) :
    ∃ response, Steps world s (patchTraffic service s.view targets) (s.shifted targets) (.finish (.ok response)) := by
  apply Exists.intro
  unfold patchTraffic
  have patched : world s (.patch service .traffic { name := service, traffic := targets, etag := s.view.etag })
      (.ok (some "operation-1")) (s.shifted targets) :=
    ⟨s.shifted targets, ⟨fun _ h => (Option.some.inj h).symm, rfl⟩, .refl⟩
  have waited : world (s.shifted targets) (.waitOperation "operation-1") (.ok (s.shifted targets).view)
      (s.shifted targets) := ⟨s.shifted targets, ⟨.inl ⟨rfl, rfl, rfl, rfl⟩, rfl⟩, .refl⟩
  refine Steps.callThen _ _ patched ?_
  refine Steps.liftThen (rfl : _ = Except.ok "operation-1") ?_
  exact Steps.callThen _ _ waited (.refl ..)

private theorem sample_deploys {s pinned : CloudRunService} {secretEnv old new : String} {template : Json}
    (latest : s.latestReady = some old)
    (pins : Steps world s (pinCurrent "projects/p/locations/l/services/api" s.view old) pinned (.finish (.ok ())))
    (changed : candidateTemplate (samplePayload secretEnv) pinned.template = .ok template)
    (fresh : new ∉ pinned.created.map Prod.fst) (differs : new ≠ old) :
    ∃ response, Steps world s (executeCloudRun "runtime.deployCandidate" (samplePayload secretEnv))
      (sampleAfterDeployment pinned secretEnv old new) (.finish (.ok response)) := by
  -- The change creates a revision, which becomes ready before the operation ends.
  let created : CloudRunService := { pinned with
    created := pinned.created ++ [(new, false)], template := some template, etag := pinned.etag + 1 }
  let ready : CloudRunService := { created with created := pinned.created ++ [(new, true)], etag := pinned.etag + 2 }
  have patched : world pinned (.patch "projects/p/locations/l/services/api" .template
      { name := "projects/p/locations/l/services/api", template := some template, traffic := pinned.traffic,
        etag := pinned.view.etag }) (.ok (some "operation-1")) ready :=
    ⟨created, ⟨fun _ h => (Option.some.inj h).symm, _, rfl, .inr ⟨new, fresh, rfl⟩⟩,
      .single (.intro created pinned.created [] new rfl)⟩
  have hready : ready.latestReady = some new := by simp [ready, latestReady]
  have hdeployed : ready.shifted [named old 100 none, named new 0 (some "uumi-run-1")] =
      sampleAfterDeployment pinned secretEnv old new := by
    simp [sampleAfterDeployment, CloudRunService.shifted, sampleTemplate, changed, ready, created]
  obtain ⟨response, shifts⟩ := sample_shifts ready "projects/p/locations/l/services/api"
    [named old 100 none, named new 0 (some "uumi-run-1")]
  rw [hdeployed] at shifts
  apply Exists.intro
  unfold executeCloudRun
  refine Steps.liftThen (rfl : _ = Except.ok "projects/p/locations/l/services/api") ?_
  refine Steps.callThen s.view s (view_shown ..) ?_
  rw [if_neg (by decide), if_pos rfl]
  unfold deploy
  refine Steps.liftThen ((required_ok ..).mpr latest) ?_
  refine Steps.andThen pins ?_
  refine Steps.callThen pinned.view pinned (view_shown ..) ?_
  refine Steps.liftThen changed ?_
  refine Steps.liftThen (rfl : _ = Except.ok "generation-2") ?_
  refine Steps.callThen _ ready patched ?_
  refine Steps.liftThen (rfl : _ = Except.ok "operation-1") ?_
  refine Steps.callThen ready.view ready ⟨ready, ⟨.inl ⟨rfl, rfl, rfl, rfl⟩, rfl⟩, .refl⟩ ?_
  have found : Steps world ready (newRevision "projects/p/locations/l/services/api" old ready.view) ready
      (.finish (.ok new)) := by
    have hdiffers : Differs old ready.view.latestReadyRevision := ⟨new, hready, differs⟩
    unfold newRevision
    rw [if_pos hdiffers]
    refine Steps.andThen (.refl ..) ?_
    refine Steps.liftThen ((raiseIf_ok _ _ ()).mpr (not_not.mpr hdiffers)) ?_
    rw [show required ready.view.latestReadyRevision _ = Except.ok new from (required_ok ..).mpr hready]
    exact .refl ..
  refine Steps.andThen found ?_
  refine Steps.callThen ready.view ready (view_shown ..) ?_
  refine Steps.liftThen (rfl : _ = Except.ok "uumi-run-1") ?_
  exact Steps.andThen shifts (.refl ..)

private theorem sampleServing_deploys : ∃ response, Steps world sampleServing
    (executeCloudRun "runtime.deployCandidate" (samplePayload "API_KEY"))
    (sampleAfterDeployment sampleServing "API_KEY" "api-1" "api-2") (.finish (.ok response)) := by
  obtain ⟨template, changed⟩ : ∃ template, candidateTemplate (samplePayload "API_KEY") sampleServing.template =
      .ok template := ⟨_, rfl⟩
  exact sample_deploys rfl (.refl ..) changed (by decide) (by decide)

/-- The second deployment on a service moves its traffic to the candidate of the first one. -/
theorem deployments_move_production : ¬ ∀ (start s : CloudRunService) (executions : List Execution),
    ServiceRun start executions s →
    (∀ e ∈ executions, e.tool = "runtime.deployCandidate" → KeepsProduction e.payload e.before) ∧
      ((∃ e ∈ executions, e.Completed) → s.total = 100) := by
  intro h
  obtain ⟨response, deployed⟩ := sampleServing_deploys
  let first : Execution := ⟨_, _, _, _, _, deployed⟩
  let second : Execution := ⟨"runtime.deployCandidate", samplePayload "SECOND_API_KEY", first.after, _, _, .refl ..⟩
  have run : ServiceRun sampleServing ([first] ++ [second]) first.after := .execution second (.execution first .nil)
  have keeps := (h _ _ _ run).1 second (by simp) rfl
  have serves := (keepsProduction_iff _ _).mp keeps "projects/p/locations/l/services/api" "api-2" rfl rfl
  have nothing : first.after.share "api-2" = 0 := rfl
  have all : first.after.share "api-2" = 100 := serves "api-2"
  omega

def sampleRollout : List (String × Json) :=
  [("service", .str "projects/p/locations/l/services/api"), ("candidate_revision", .str "api-2"),
    ("rollback_revision", .str "api-1"), ("percent", .int 100)]

def sampleRolledOut : CloudRunService :=
  (sampleAfterDeployment sampleServing "API_KEY" "api-1" "api-2").shifted [named "api-1" 0 none, named "api-2" 100 none]

private theorem sample_rollsOut : ∃ response, Steps world (sampleAfterDeployment sampleServing "API_KEY" "api-1" "api-2")
    (executeCloudRun "runtime.shiftTraffic" sampleRollout) sampleRolledOut (.finish (.ok response)) := by
  obtain ⟨response, shifts⟩ := sample_shifts (sampleAfterDeployment sampleServing "API_KEY" "api-1" "api-2")
    "projects/p/locations/l/services/api" [named "api-1" 0 none, named "api-2" 100 none]
  refine ⟨response, ?_⟩
  unfold executeCloudRun
  refine Steps.liftThen (rfl : _ = Except.ok "projects/p/locations/l/services/api") ?_
  refine Steps.callThen _ _ (view_shown ..) ?_
  rw [if_neg (by decide), if_neg (by decide), if_pos rfl]
  unfold shiftTraffic
  refine Steps.liftThen (rfl : _ = Except.ok "api-2") ?_
  refine Steps.liftThen (rfl : _ = Except.ok "api-1") ?_
  refine Steps.liftThen (rfl : _ = Except.ok (100 : Int)) ?_
  exact Steps.liftThen (rfl : _ = Except.ok ()) shifts

private theorem sampleRolledOut_deploys : ∃ response, Steps world sampleRolledOut
    (executeCloudRun "runtime.deployCandidate" (samplePayload "SECOND_API_KEY"))
    (sampleAfterDeployment (sampleRolledOut.shifted [named "api-2" 100 none]) "SECOND_API_KEY" "api-2" "api-3")
    (.finish (.ok response)) := by
  obtain ⟨template, changed⟩ : ∃ template, candidateTemplate (samplePayload "SECOND_API_KEY") sampleRolledOut.template =
      .ok template := ⟨_, rfl⟩
  obtain ⟨response, shifts⟩ := sample_shifts sampleRolledOut "projects/p/locations/l/services/api"
    [named "api-2" 100 none]
  exact sample_deploys rfl (Steps.andThen shifts (.refl ..)) changed (by decide) (by decide)

private theorem sampleRolledOut_serves : sampleRolledOut.ServesAll "api-2" := by
  intro other
  by_cases hold : "api-1" = other <;> by_cases hnew : "api-2" = other
  · exact absurd (hold.trans hnew.symm) (by decide)
  · simp [sampleRolledOut, CloudRunService.shifted, share, goesTo, named, hold, hnew, Ne.symm hnew]
  · simp [sampleRolledOut, CloudRunService.shifted, share, goesTo, named, ← hnew]
  · simp [sampleRolledOut, CloudRunService.shifted, share, goesTo, named, hold, hnew, Ne.symm hnew]

/-- A deployment, its rollout and another deployment keep the production traffic. -/
theorem sampleServing_keeps : ∃ executions s, ServiceRun sampleServing executions s ∧
    executions.map Execution.tool = ["runtime.deployCandidate", "runtime.shiftTraffic", "runtime.deployCandidate"] ∧
    (∀ e ∈ executions, e.Completed) ∧
    (∀ e ∈ executions, e.tool = "runtime.deployCandidate" → KeepsProduction e.payload e.before) ∧ s.total = 100 := by
  obtain ⟨_, deployed⟩ := sampleServing_deploys
  obtain ⟨_, rolledOut⟩ := sample_rollsOut
  obtain ⟨_, redeployed⟩ := sampleRolledOut_deploys
  let first : Execution := ⟨_, _, _, _, _, deployed⟩
  let rollout : Execution := ⟨_, _, _, _, _, rolledOut⟩
  let second : Execution := ⟨_, _, _, _, _, redeployed⟩
  have run : ServiceRun sampleServing [first, rollout, second] second.after :=
    .execution second (.execution rollout (.execution first .nil))
  have completed : ∀ e ∈ [first, rollout, second], e.Completed := by
    simp only [List.forall_mem_cons, List.not_mem_nil, false_imp_iff, implies_true, and_true]
    have deploys : "runtime.deployCandidate" ∈ changingTools := by decide
    have shifts : "runtime.shiftTraffic" ∈ changingTools := by decide
    exact ⟨⟨deploys, _, rfl⟩, ⟨shifts, _, rfl⟩, deploys, _, rfl⟩
  have serving : ∀ e ∈ [first, rollout, second], e.tool = "runtime.deployCandidate" → OverServing e.payload e.before := by
    simp only [List.forall_mem_cons, List.not_mem_nil, false_imp_iff, implies_true, and_true]
    refine ⟨fun _ => ?_, fun h => absurd (show "runtime.shiftTraffic" = _ from h) (by decide), fun _ => ?_⟩
    · rintro service revision - hlatest
      obtain rfl := Option.some.inj hlatest
      exact (pinned_of_single rfl rfl rfl).serves
    · rintro service revision - hlatest
      obtain rfl := Option.some.inj hlatest
      exact sampleRolledOut_serves
  obtain ⟨keeps, total⟩ := deployments_keep_production run
  exact ⟨_, _, run, rfl, completed, keeps.mpr serving, total ⟨first, List.mem_cons_self, completed _ List.mem_cons_self⟩⟩

end Uumi.Connectors
