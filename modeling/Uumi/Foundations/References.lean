import Mathlib

/-! Documents that refer to each other: every document in use refers to documents in use only. A write keeps this when
it takes nothing out of use that is referred to and puts nothing in use that refers to something out of use. -/
namespace Uumi.Foundations

/-- A document as others see it: whether it is in use, and what it refers to. -/
structure Entry (ν : Type) where
  live : Bool
  refs : List ν

abbrev Graph (ν : Type) := ν → Option (Entry ν)

namespace Graph
variable {ν : Type}

/-- There is a document under the name, and it is in use. -/
def Live (g : Graph ν) (n : ν) : Prop := ∃ entry, g n = some entry ∧ entry.live = true

/-- What is in use refers to what is in use. -/
def Sound (g : Graph ν) : Prop := ∀ n entry, g n = some entry → entry.live = true → ∀ m ∈ entry.refs, Live g m

/-- No documents are sound. -/
theorem sound_empty : Sound (fun _ : ν => none) := nofun

/-- New documents that refer to documents in use. -/
theorem Sound.extend {g g' : Graph ν} (h : Sound g) (hold : ∀ n entry, g n = some entry → g' n = some entry)
    (hnew : ∀ n entry, g' n = some entry → g n = none → entry.live = true → ∀ m ∈ entry.refs, Live g' m) : Sound g' := by
  intro n entry hentry hlive m hm
  cases hn : g n with
  | none => exact hnew n entry hentry hn hlive m hm
  | some before =>
    obtain rfl := Option.some.inj ((hold n before hn).symm.trans hentry)
    obtain ⟨referred, hreferred, hl⟩ := h n before hn hlive m hm
    exact ⟨referred, hold m referred hreferred, hl⟩

section
variable [DecidableEq ν]

/-- A document is written that stays in use if it was, and that refers to documents in use. -/
theorem Sound.put {g : Graph ν} (h : Sound g) {n : ν} {entry : Entry ν}
    (hkeep : ∀ before, g n = some before → before.live = true → entry.live = true)
    (hrefs : entry.live = true → ∀ m ∈ entry.refs, m ≠ n → Live g m) (hself : n ∉ entry.refs) :
    Sound (Function.update g n (some entry)) := by
  have hmono : ∀ m, Live g m → Live (Function.update g n (some entry)) m := by
    rintro m ⟨referred, hreferred, hlive⟩
    by_cases hm : m = n
    · subst hm
      exact ⟨entry, Function.update_self .., hkeep referred hreferred hlive⟩
    · exact ⟨referred, (Function.update_of_ne hm ..).trans hreferred, hlive⟩
  intro k found hfound hlive m hm
  by_cases hk : k = n
  · subst hk
    rw [Function.update_self] at hfound
    obtain rfl := Option.some.inj hfound
    exact hmono m (hrefs hlive m hm fun hmk => hself (hmk ▸ hm))
  · rw [Function.update_of_ne hk] at hfound
    exact hmono m (h k found hfound hlive m hm)

end

/-- Documents go out of use together with everything in use that refers to them. -/
theorem Sound.retire {g g' : Graph ν} (h : Sound g) (retired : ν → Prop) (hsame : ∀ n, ¬ retired n → g' n = g n)
    (hdead : ∀ n, retired n → ∀ entry, g' n = some entry → entry.live = false)
    (hclosed : ∀ n entry, g n = some entry → entry.live = true → ∀ m ∈ entry.refs, retired m → retired n) :
    Sound g' := by
  intro n entry hentry hlive m hm
  have hn : ¬ retired n := by
    intro hretired
    rw [hdead n hretired entry hentry] at hlive
    cases hlive
  rw [hsame n hn] at hentry
  obtain ⟨referred, hreferred, hl⟩ := h n entry hentry hlive m hm
  exact ⟨referred, (hsame m fun hretired => hn (hclosed n entry hentry hlive m hm hretired)).trans hreferred, hl⟩

end Graph
end Uumi.Foundations
