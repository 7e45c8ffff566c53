import Uumi.Inventory.Controls
import Uumi.Verifier.Probes

/-! What a telemetry probe decides from the first page of its log entries, and when all of the entries decide the same. -/
namespace Uumi.Verifier
open Uumi.Contracts Uumi.Core Uumi.Foundations Uumi.Connectors
open Uumi.Coordinator (BoundProbe)

/-- The entries of a query as Logging splits them into pages. Every page but the last comes with a token, also a short
or empty one. -/
structure LogPaging where
  first : List Json
  later : List (List Json)
  bounded : ∀ page ∈ first :: later, page.length ≤ 100

def LogPaging.entries (paging : LogPaging) : List Json := paging.first ++ paging.later.flatten

def ProbePeers.logging (peers : ProbePeers) (paging : LogPaging) : ProbePeers :=
  { peers with logEntries := fun _ _ => .ok (.arr paging.first) }

section
variable (peers : ProbePeers) (probe : BoundProbe)

/-- What the entries of a query say about a probe: none at all of an old generation, and of the new one enough entries
with few enough errors and failed authentications. -/
def Verdict (entries : List Json) : Prop :=
  match probe.definition.telemetry with
  | none => False
  | some thresholds =>
    if probe.definition.negative then entries = []
    else thresholds.minimumCount ≤ entries.length ∧ entries.countP (isErrorEntry peers) ≤ thresholds.maximumErrorCount ∧
      entries.countP isAuthFailure ≤ thresholds.maximumAuthFailureCount

/-- The probe names the project whose logs are read, and the generation whose entries count. -/
def Bound : Prop := (∃ project, projectOf probe.target = .ok project) ∧ probe.expectedGenerationId ≠ none

/-- The later pages do not change the verdict: an old generation with entries has some on the first page; a new one
has enough of them there whenever all pages meet the thresholds, and the later pages bring no count over its maximum. -/
def DecidedByFirst (paging : LogPaging) : Prop :=
  match probe.definition.telemetry with
  | none => True
  | some thresholds =>
    if probe.definition.negative then paging.first = [] → paging.later.flatten = []
    else
      (Verdict peers probe paging.entries → thresholds.minimumCount ≤ paging.first.length) ∧
      (Verdict peers probe paging.first →
        paging.first.countP (isErrorEntry peers) + paging.later.flatten.countP (isErrorEntry peers) ≤
            thresholds.maximumErrorCount ∧
          paging.first.countP isAuthFailure + paging.later.flatten.countP isAuthFailure ≤
            thresholds.maximumAuthFailureCount)

end

section
variable {peers : ProbePeers} {probe : BoundProbe} {connection : Connection}

private theorem logging_entries {paging : LogPaging} {query : LogQuery} :
    (peers.logging paging).logEntries query connection = .ok (.arr paging.first) :=
  rfl

private theorem telemetry_some (hkind : probe.definition.kind = .telemetry) :
    ∃ thresholds, probe.definition.telemetry = some thresholds := by
  have accepted := probe.definition.accepted
  unfold ProbeFields.validateProbe at accepted
  simp only [unit_bind_ok, raiseIf_ok] at accepted
  obtain ⟨-, -, present, -⟩ := accepted
  exact Option.ne_none_iff_exists'.mp fun absent => present ⟨hkind, absent⟩

private theorem checkEntries_ok {thresholds : TelemetryThresholds} {entries : List Json}
    (hthresholds : probe.definition.telemetry = some thresholds) :
    checkEntries peers probe thresholds entries = .ok () ↔ Verdict peers probe entries := by
  unfold checkEntries Verdict
  simp only [hthresholds, unit_bind_ok, raiseIf_ok]
  cases probe.definition.negative with
  | true =>
    simp only [if_true, true_and, not_not, not_true, false_and, not_false_eq_true]
    constructor
    · exact fun h => h.1
    · rintro rfl
      exact ⟨rfl, Nat.not_lt_zero _, Nat.not_lt_zero _⟩
  | false => simp

/-- The probe passes when it is bound and the first page meets its thresholds. -/
theorem telemetryProbe_ok (hkind : probe.definition.kind = .telemetry) {paging : LogPaging} :
    (∃ observed, telemetryProbe (peers.logging paging) probe connection = .ok observed) ↔
      Bound probe ∧ Verdict peers probe paging.first := by
  obtain ⟨thresholds, hthresholds⟩ := telemetry_some hkind
  have hcheck : checkEntries (peers.logging paging) probe thresholds paging.first =
      checkEntries peers probe thresholds paging.first := rfl
  rw [Bound, ← checkEntries_ok hthresholds]
  constructor
  · rintro ⟨observed, h⟩
    unfold telemetryProbe at h
    rw [bind_ok] at h
    obtain ⟨project, hproject, h⟩ := h
    simp only [required_bind_ok] at h
    obtain ⟨found, hfound, expected, hexpected, h⟩ := h
    rw [bind_ok] at h
    obtain ⟨response, hresponse, h⟩ := h
    obtain rfl := Except.ok.inj hresponse
    simp only [required_bind_ok, unit_bind_ok] at h
    obtain ⟨entries, hentries, hchecked, -⟩ := h
    obtain rfl := Option.some.inj (hthresholds.symm.trans hfound)
    obtain rfl := Option.some.inj hentries
    exact ⟨⟨⟨project, hproject⟩, by rw [hexpected]; exact Option.some_ne_none _⟩, hchecked⟩
  · rintro ⟨⟨⟨project, hproject⟩, hbound⟩, hchecked⟩
    obtain ⟨expected, hexpected⟩ := Option.ne_none_iff_exists'.mp hbound
    simp only [telemetryProbe, hproject, hthresholds, hexpected, required, ok_bind, logging_entries, arrayOf, hcheck,
      hchecked]
    exact ⟨_, rfl⟩

/-- The executor reports a telemetry probe as passed in the same cases, on a ready connection and with its evidence
stored. -/
theorem telemetry_passed_iff (hkind : probe.definition.kind = .telemetry) {paging : LogPaging}
    {secretConnection : Option Connection} (ready : checkConnection peers probe connection = .ok ())
    (stored : ∀ kind, ∃ evidence, peers.storeEvidence kind = .ok evidence) :
    (∃ result, execute (peers.logging paging) probe connection secretConnection = .ok result ∧ result.status = .passed) ↔
      Bound probe ∧ Verdict peers probe paging.first := by
  have ready' : checkConnection (peers.logging paging) probe connection = .ok () := ready
  have observed_eq : observe (peers.logging paging) probe connection secretConnection =
      telemetryProbe (peers.logging paging) probe connection := by
    rw [observe, hkind]
  rw [← telemetryProbe_ok hkind]
  constructor
  · rintro ⟨result, hexecute, hpassed⟩
    unfold execute at hexecute
    split at hexecute
    · rename_i attempted hattempt
      simp only [attempt, bind_ok, observed_eq] at hattempt
      obtain ⟨-, -, observed, hobserved, -⟩ := hattempt
      exact ⟨observed, hobserved⟩
    · simp only [failure, bind_ok, pure_ok] at hexecute
      obtain ⟨evidence, -, rfl⟩ := hexecute
      cases hpassed
  · rintro ⟨observed, hobserved⟩
    obtain ⟨evidence, hevidence⟩ := stored s!"verification-{probe.definition.kind.value}"
    have hevidence' : (peers.logging paging).storeEvidence s!"verification-{probe.definition.kind.value}" =
        .ok evidence := hevidence
    simp only [execute, attempt, ready', observed_eq, hobserved, hevidence', ok_bind, pure, Except.pure]
    exact ⟨_, rfl, rfl⟩

/-- The first page decides for a probe that is bound exactly when the verdicts agree. -/
theorem verdict_first_iff {paging : LogPaging} :
    (Verdict peers probe paging.first ↔ Verdict peers probe paging.entries) ↔ DecidedByFirst peers probe paging := by
  unfold DecidedByFirst
  cases hthresholds : probe.definition.telemetry with
  | none => simp only [Verdict, hthresholds]
  | some thresholds =>
    cases hnegative : probe.definition.negative with
    | true =>
      simp only [Verdict, hthresholds, hnegative, if_true, LogPaging.entries, List.append_eq_nil_iff]
      tauto
    | false =>
      simp only [Verdict, hthresholds, hnegative, Bool.false_eq_true, if_false, LogPaging.entries, List.length_append,
        List.countP_append]
      constructor
      · exact fun h => ⟨fun all => (h.mpr all).1, fun first => (h.mp first).2⟩
      · rintro ⟨enough, within⟩
        constructor
        · exact fun first => ⟨Nat.le_add_right_of_le first.1, within first⟩
        · intro all
          exact ⟨enough all, (Nat.le_add_right _ _).trans all.2.1, (Nat.le_add_right _ _).trans all.2.2⟩

/-- A telemetry probe accounts for all log entries exactly when it is bound to a project and a generation and the later
pages do not change the verdict; one that is not bound does where the entries do not meet the thresholds either. -/
theorem telemetry_accounts_iff (peers : ProbePeers) (probe : BoundProbe) (connection : Connection)
    (hkind : probe.definition.kind = .telemetry) (paging : LogPaging) :
    ((∃ observed, telemetryProbe (peers.logging paging) probe connection = .ok observed) ↔
        Verdict peers probe paging.entries) ↔
      (Bound probe ∧ DecidedByFirst peers probe paging ∨ ¬ Bound probe ∧ ¬ Verdict peers probe paging.entries) := by
  rw [telemetryProbe_ok hkind, ← verdict_first_iff]
  tauto

end

open Uumi.Inventory (sampleTelemetry)

def ProbePeers.sample : ProbePeers where
  clock _ := ⟨0, 0⟩
  secretState _ _ := .ok none
  inspect _ _ := .ok []
  revisionGeneration _ _ := .ok none
  logEntries _ _ := .ok (.arr [])
  credentialStatus _ _ := .ok []
  testCredential _ _ _ := .ok 200
  successStatuses _ := [200]
  upper text := String.ofList (text.toList.map Char.toUpper)
  str error := error.className
  httpProbe _ := .error (.connector "verification-http" "no HTTP probes" false)
  emailProbe _ := .error (.connector "verification-email" "no email probes" false)
  storeEvidence _ := .ok sampleTelemetry.id

def sampleOldUse : BoundProbe where
  definition :=
    { id := ⟨"probe-logs", by decide⟩
      organisationId := sampleTelemetry.organisationId
      kind := .telemetry
      connectionId := sampleTelemetry.id
      target := ⟨"projects/demo", by decide⟩
      generationBinding := .current
      telemetry := some {}
      negative := true
      accepted := by decide }
  target := "projects/demo"
  secretReference := none
  expectedGenerationId := some ⟨"generation-logs", by decide⟩

def sampleLate : LogPaging where
  first := []
  later := [[.obj [("severity", .str "INFO")]]]
  bounded := by decide

/-- For a page that comes late, the probe decides as all entries say exactly when the condition holds. -/
theorem sampleLate_accounts_iff :
    ((∃ observed, telemetryProbe (ProbePeers.sample.logging sampleLate) sampleOldUse sampleTelemetry = .ok observed) ↔
        Verdict ProbePeers.sample sampleOldUse sampleLate.entries) ↔
      (Bound sampleOldUse ∧ DecidedByFirst ProbePeers.sample sampleOldUse sampleLate ∨
        ¬ Bound sampleOldUse ∧ ¬ Verdict ProbePeers.sample sampleOldUse sampleLate.entries) :=
  telemetry_accounts_iff ProbePeers.sample sampleOldUse sampleTelemetry rfl sampleLate

private theorem projectOf_demo : projectOf "projects/demo" = .ok "demo" := by
  have parts : "projects/demo".splitOn "/" = ["projects", "demo"] := by
    rw [String.splitOn, if_neg (by decide)]
    -- One unfolding for each character.
    iterate 14
      rw [String.splitOnAux]
      simp +decide only [reduceIte]
  rw [projectOf, parts]
  rfl

/-- The probe passes although the old generation is still in use. -/
theorem old_use_unseen :
    (∃ observed, telemetryProbe (ProbePeers.sample.logging sampleLate) sampleOldUse sampleTelemetry = .ok observed) ∧
      ¬ Verdict ProbePeers.sample sampleOldUse sampleLate.entries :=
  ⟨(telemetryProbe_ok rfl).mpr ⟨⟨⟨"demo", projectOf_demo⟩, nofun⟩, rfl⟩, nofun⟩

end Uumi.Verifier
