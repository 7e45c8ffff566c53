import Uumi.State.Frame

/-! Stage bindings are written once, each by the completion of its own stage. -/
namespace Uumi.State
open Uumi.Contracts Uumi.Core Uumi.Foundations Uumi.Policy

namespace RotationMachine
variable {machine : RotationMachine} {run updated : RotationRun} {bindings : StageBindings} {stage : Stage}

variable (bindings) in
private theorem mem_boundNames : ("browser_playbook_version" ∈ boundNames bindings ↔
      bindings.browserPlaybookVersion.isSome = true) ∧
    ("plan_id" ∈ boundNames bindings ↔ bindings.planId.isSome = true) ∧
    ("plan_hash" ∈ boundNames bindings ↔ bindings.planHash.isSome = true) ∧
    ("current_generation_id" ∈ boundNames bindings ↔ bindings.currentGenerationId.isSome = true) ∧
    ("target_generation_id" ∈ boundNames bindings ↔ bindings.targetGenerationId.isSome = true) ∧
    ("deployments" ∈ boundNames bindings ↔ bindings.deployments ≠ []) := by
  have mem_ite (c : Prop) [Decidable c] (a b : String) :
      a ∈ (if c then ({b} : Finset String) else ∅) ↔ c ∧ a = b := by
    split <;> simp_all
  simp only [boundNames, Finset.mem_union, mem_ite, String.reduceEq, and_true, and_false, or_false, false_or,
    and_self]

variable (stage) in
private theorem mem_allowed : ("browser_playbook_version" ∈ allowed stage ↔ stage = .preflight) ∧
    ("plan_id" ∈ allowed stage ↔ stage = .plan) ∧ ("plan_hash" ∈ allowed stage ↔ stage = .plan) ∧
    ("current_generation_id" ∈ allowed stage ↔ stage = .preflight) ∧
    ("target_generation_id" ∈ allowed stage ↔ stage = .create) ∧
    ("deployments" ∈ allowed stage ↔ stage = .deploy) := by
  cases stage <;> decide

/-- A field changes only from absent to present, and only in its own stage. -/
def Binds {α : Type} (field : RunFields → Option α) (stage : Stage) (run updated : RunFields) : Prop :=
  field updated = field run ∨ (field run = none ∧ run.stage = stage ∧ (field updated).isSome = true)

/-- A field that is bound is not bound again. -/
theorem Binds.kept {α : Type} {field : RunFields → Option α} {run updated : RunFields}
    (h : Binds field stage run updated) {value : α} (hv : field run = some value) :
    field updated = some value := by
  rcases h with h | ⟨h, _⟩
  · rw [h, hv]
  · rw [h] at hv
    cases hv

def deployed (run : RunFields) : Option (List RuntimeDeployment) :=
  if run.deployments = [] then none else some run.deployments

/-- Every stage binding of the run is written at most once, in its own stage. -/
structure BindsOnce (run updated : RunFields) : Prop where
  browserPlaybookVersion : Binds RunFields.browserPlaybookVersion .preflight run updated
  currentGenerationId : Binds RunFields.currentGenerationId .preflight run updated
  planId : Binds RunFields.planId .plan run updated
  planHash : Binds RunFields.planHash .plan run updated
  targetGenerationId : Binds RunFields.targetGenerationId .create run updated
  deployments : Binds deployed .deploy run updated

private theorem binds_of_eq {α : Type} {field : RunFields → Option α} {run updated : RunFields}
    (h : field updated = field run) : Binds field stage run updated := .inl h

private theorem binds_orElse {α : Type} {field : RunFields → Option α} {run updated : RunFields}
    {value : Option α} (hu : field updated = (value <|> field run))
    (hstage : value.isSome = true → run.stage = stage)
    (fresh : ¬ (value.isSome = true ∧ (field run).isSome = true ∧ field run ≠ value)) :
    Binds field stage run updated := by
  cases value with
  | none => exact .inl (by rw [hu]; rfl)
  | some v =>
    cases hr : field run with
    | none => exact .inr ⟨hr, hstage rfl, by rw [hu]; rfl⟩
    | some w =>
      have hwv : field run = some v := by
        by_contra hne
        exact fresh ⟨rfl, by rw [hr]; rfl, hne⟩
      exact .inl (by rw [hu, hwv]; rfl)

private theorem completesStage_bindsOnce {proof : StageProof} {token revision : Nat} {now : AwareDatetime}
    (h : CompletesStage run updated proof token revision now bindings) :
    BindsOnce run.toRunFields updated.toRunFields := by
  obtain ⟨hv, hp, hh, hc, ht, hd⟩ := completesStage_bindings h
  obtain ⟨nv, np, nh, nc, nt, nd⟩ := mem_boundNames bindings
  obtain ⟨av, ap, ah, ac, at', ad⟩ := mem_allowed run.stage
  have hall := h.binds.allowed
  have hfresh := h.binds.fresh
  simp only [Rebinds, not_or] at hfresh
  obtain ⟨fv, fp, fh, fc, ft, fd⟩ := hfresh
  refine ⟨binds_orElse hv (fun hs => av.mp (hall (nv.mpr hs))) fv,
    binds_orElse hc (fun hs => ac.mp (hall (nc.mpr hs))) fc,
    binds_orElse hp (fun hs => ap.mp (hall (np.mpr hs))) fp,
    binds_orElse hh (fun hs => ah.mp (hall (nh.mpr hs))) fh,
    binds_orElse ht (fun hs => at'.mp (hall (nt.mpr hs))) ft, ?_⟩
  by_cases hb : bindings.deployments = []
  · refine .inl ?_
    rw [deployed, deployed, hd]
    simp [bind, hb]
  · have hrun : run.deployments = [] := by
      by_contra hr
      exact fd ⟨hb, hr⟩
    refine .inr ⟨by rw [deployed, if_pos hrun], ad.mp (hall (nd.mpr hb)), ?_⟩
    rw [deployed, hd]
    simp [bind, hb]

/-- Every operation binds a field once. -/
theorem perform_bindsOnce {operation : Operation} (h : machine.perform run operation = .ok updated) :
    BindsOnce run.toRunFields updated.toRunFields := by
  rcases perform_stage h with ⟨_, hk⟩ | ⟨_, _, _, _, _, _, hc⟩
  · exact ⟨binds_of_eq hk.browserPlaybookVersion, binds_of_eq hk.currentGenerationId,
      binds_of_eq hk.planId, binds_of_eq hk.planHash, binds_of_eq hk.targetGenerationId,
      binds_of_eq (by rw [deployed, deployed, hk.deployments])⟩
  · exact completesStage_bindsOnce hc

/-- A required binding is present exactly past its own stage, the playbook version at most there. -/
structure BoundPast (run : RunFields) : Prop where
  browserPlaybookVersion : run.browserPlaybookVersion.isSome = true → Stage.preflight.index < run.stage.index
  currentGenerationId : run.currentGenerationId.isSome = true ↔ Stage.preflight.index < run.stage.index
  planId : run.planId.isSome = true ↔ Stage.plan.index < run.stage.index
  planHash : run.planHash.isSome = true ↔ Stage.plan.index < run.stage.index
  targetGenerationId : run.targetGenerationId.isSome = true ↔ Stage.create.index < run.stage.index
  deployments : run.deployments ≠ [] ↔ Stage.deploy.index < run.stage.index

private theorem isSome_orElse {α : Type} (a b : Option α) :
    (a <|> b).isSome = true ↔ a.isSome = true ∨ b.isSome = true := by
  cases a <;> simp

private theorem past_of_next {bound set' was : Prop} {own stage next : Stage} (hn : stage.next? = some next)
    (hb : bound ↔ set' ∨ was) (hset : set' → stage = own) (hmust : stage = own → set')
    (hwas : was ↔ own.index < stage.index) : bound ↔ own.index < next.index := by
  rw [hb, hwas, Stage.next?_index hn]
  constructor
  · rintro (h | h)
    · rw [hset h]
      omega
    · omega
  · intro h
    rcases Nat.lt_succ_iff_lt_or_eq.mp h with h | h
    · exact .inr h
    · exact .inl (hmust (Stage.index_injective h.symm))

private theorem Binds.of_ne {α : Type} {field : RunFields → Option α} {run updated : RunFields}
    (h : Binds field stage run updated) (hne : run.stage ≠ stage) : field updated = field run :=
  h.resolve_right fun hs => hne hs.2.1

private theorem deployed_isSome (r : RunFields) : (deployed r).isSome = true ↔ r.deployments ≠ [] := by
  unfold deployed
  split <;> simp_all

private theorem boundPast_last {proof : StageProof} {token revision : Nat} {now : AwareDatetime}
    (hb : BoundPast run.toRunFields)
    (h : CompletesStage run updated proof token revision now bindings) (hc : run.stage = .complete)
    (hu : updated.stage = .complete) : BoundPast updated.toRunFields := by
  have ho := completesStage_bindsOnce h
  have hne (own : Stage) (hown : own ≠ .complete) : run.stage ≠ own := by
    rw [hc]
    exact hown.symm
  have hd : updated.deployments ≠ [] ↔ run.deployments ≠ [] := by
    rw [← deployed_isSome, ← deployed_isSome, ho.deployments.of_ne (hne _ nofun)]
  refine ⟨?_, ?_, ?_, ?_, ?_, ?_⟩
  · rw [ho.browserPlaybookVersion.of_ne (hne _ nofun), hu, ← hc]
    exact hb.browserPlaybookVersion
  · rw [ho.currentGenerationId.of_ne (hne _ nofun), hu, ← hc]
    exact hb.currentGenerationId
  · rw [ho.planId.of_ne (hne _ nofun), hu, ← hc]
    exact hb.planId
  · rw [ho.planHash.of_ne (hne _ nofun), hu, ← hc]
    exact hb.planHash
  · rw [ho.targetGenerationId.of_ne (hne _ nofun), hu, ← hc]
    exact hb.targetGenerationId
  · rw [hd, hu, ← hc]
    exact hb.deployments

private theorem boundPast_next {proof : StageProof} {token revision : Nat} {now : AwareDatetime}
    (hb : BoundPast run.toRunFields)
    (h : CompletesStage run updated proof token revision now bindings)
    (hn : run.stage.next? = some updated.stage) : BoundPast updated.toRunFields := by
  obtain ⟨hv, hp, hh, hc, ht, hd⟩ := completesStage_bindings h
  obtain ⟨nv, np, nh, nc, nt, nd⟩ := mem_boundNames bindings
  obtain ⟨av, ap, ah, ac, at', ad⟩ := mem_allowed run.stage
  have hall := h.binds.allowed
  have hexact := h.binds.exact
  refine ⟨?_, ?_, ?_, ?_, ?_, ?_⟩
  · intro hs
    rw [hv, bind, isSome_orElse] at hs
    rw [Stage.next?_index hn]
    rcases hs with hs | hs
    · rw [av.mp (hall (nv.mpr hs))]
      exact Nat.lt_succ_self _
    · exact Nat.lt_succ_of_lt (hb.browserPlaybookVersion hs)
  · exact past_of_next hn (by rw [hc]; exact isSome_orElse ..) (fun hs => ac.mp (hall (nc.mpr hs)))
      (fun he => nc.mp (h.binds.preflight he)) hb.currentGenerationId
  · exact past_of_next hn (by rw [hp]; exact isSome_orElse ..) (fun hs => ap.mp (hall (np.mpr hs)))
      (fun he => np.mp (by rw [hexact (.inl he)]; exact ap.mpr he)) hb.planId
  · exact past_of_next hn (by rw [hh]; exact isSome_orElse ..) (fun hs => ah.mp (hall (nh.mpr hs)))
      (fun he => nh.mp (by rw [hexact (.inl he)]; exact ah.mpr he)) hb.planHash
  · exact past_of_next hn (by rw [ht]; exact isSome_orElse ..) (fun hs => at'.mp (hall (nt.mpr hs)))
      (fun he => nt.mp (by rw [hexact (.inr (.inl he))]; exact at'.mpr he)) hb.targetGenerationId
  · have hbound : updated.deployments ≠ [] ↔ bindings.deployments ≠ [] ∨ run.deployments ≠ [] := by
      rw [hd, bind]
      by_cases he : bindings.deployments = [] <;> simp [he]
    exact past_of_next hn hbound (fun hs => ad.mp (hall (nd.mpr hs)))
      (fun he => nd.mp (by rw [hexact (.inr (.inr he))]; exact ad.mpr he)) hb.deployments

/-- Every operation keeps what earlier stages have bound. -/
theorem perform_boundPast {operation : Operation} (hb : BoundPast run.toRunFields)
    (h : machine.perform run operation = .ok updated) : BoundPast updated.toRunFields := by
  rcases perform_stage h with ⟨_, hk⟩ | ⟨_, _, _, _, _, _, hc⟩
  · obtain ⟨h1, h2, h3, h4, h5, h6⟩ := hb
    constructor <;> simp only [hk.stage, hk.browserPlaybookVersion, hk.currentGenerationId, hk.planId,
      hk.planHash, hk.targetGenerationId, hk.deployments] <;> assumption
  · rcases completesStage_cases hc with ⟨hn, _⟩ | ⟨hlast, hu, _⟩
    · exact boundPast_next hb hc hn
    · exact boundPast_last hb hc hlast hu

end RotationMachine
end Uumi.State
