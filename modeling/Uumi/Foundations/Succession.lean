import Uumi.Foundations.Documents

/-! Lines of versions. Each line has at most one version at its head. A version waits, takes over
the head from its predecessor, is superseded by its successor and is then retired; a version that
waits may be abandoned instead. -/
namespace Uumi.Foundations

/-- Where a version stands in its line. -/
inductive Phase where
  | waiting | active | superseded | retired | abandoned
  deriving DecidableEq

namespace Phase

/-- What one step may do to the phase of a version. -/
inductive Next : Phase → Phase → Prop
  | stay (p : Phase) : Next p p
  | promote : Next waiting active
  | supersede : Next active superseded
  | retire : Next superseded retired
  | abandon : Next waiting abandoned

/-- The version is or was at the head. -/
def Settled (p : Phase) : Prop := p ≠ waiting ∧ p ≠ abandoned

/-- An active version is settled. -/
theorem settled_active : Settled active := ⟨nofun, nofun⟩
private theorem settled_superseded : Settled superseded := ⟨nofun, nofun⟩
private theorem settled_retired : Settled retired := ⟨nofun, nofun⟩

/-- A settled version stays settled. -/
theorem Next.settled {p q : Phase} (h : Next p q) (hp : p.Settled) : q.Settled := by
  cases h with
  | stay => exact hp
  | promote => exact settled_active
  | supersede => exact settled_superseded
  | retire => exact settled_retired
  | abandon => exact absurd rfl hp.1

/-- A version retires only after it was superseded. -/
theorem Next.into_retired {p : Phase} (h : Next p retired) : p = superseded ∨ p = retired := by
  cases h with
  | stay => exact .inr rfl
  | retire => exact .inl rfl

/-- A retired version stays as it is. -/
theorem Next.of_retired {p : Phase} (h : Next retired p) : p = retired := by
  cases h
  rfl

/-- An abandoned version stays as it is. -/
theorem Next.of_abandoned {p : Phase} (h : Next abandoned p) : p = abandoned := by
  cases h
  rfl

end Phase

/-- A version of a line. -/
structure Version (κ ν : Type) where
  line : κ
  phase : Phase
  predecessor : Option ν
  successor : Option ν

/-- All versions, and the head of every line. -/
structure Ledger (κ ν : Type) where
  version : Collection ν (Version κ ν)
  head : Collection κ ν

namespace Ledger
variable {κ ν : Type} [DecidableEq κ] [DecidableEq ν] {l l' : Ledger κ ν}

/-- What may happen to a ledger. -/
inductive Step (l : Ledger κ ν) : Ledger κ ν → Prop
  | found (k : κ) (v : ν) (x : Version κ ν) (fresh : l.version v = none) (free : l.head k = none)
      (line : x.line = k) (phase : x.phase = .active) :
      Step l ⟨l.version.set v x, l.head.set k v⟩
  | enrol (v : ν) (x : Version κ ν) (fresh : l.version v = none) (phase : x.phase = .waiting) :
      Step l ⟨l.version.set v x, l.head⟩
  | promote (k : κ) (p t : ν) (x y : Version κ ν) (head : l.head k = some p)
      (old : l.version p = some x) (new : l.version t = some y) (line : y.line = k)
      (active : x.phase = .active) (waiting : y.phase = .waiting) :
      Step l ⟨(l.version.set t { y with phase := .active, predecessor := some p }).set p
        { x with phase := .superseded, successor := some t }, l.head.set k t⟩
  | retire (v : ν) (x : Version κ ν) (found : l.version v = some x) (superseded : x.phase = .superseded) :
      Step l ⟨l.version.set v { x with phase := .retired }, l.head⟩
  | abandon (v : ν) (x : Version κ ν) (found : l.version v = some x) (waiting : x.phase = .waiting) :
      Step l ⟨l.version.set v { x with phase := .abandoned }, l.head⟩

/-- The head of a line is its one active version, and a superseded version names the version that
took over from it. -/
structure Coherent (l : Ledger κ ν) : Prop where
  head_iff : ∀ k v, l.head k = some v ↔ ∃ x, l.version v = some x ∧ x.line = k ∧ x.phase = .active
  chained : ∀ v x, l.version v = some x → x.phase = .superseded →
    ∃ w y, x.successor = some w ∧ l.version w = some y ∧ y.predecessor = some v ∧ y.phase.Settled

omit [DecidableEq κ] [DecidableEq ν] in
/-- The ledger without entries is coherent. -/
theorem coherent_empty : Coherent (⟨Collection.empty, Collection.empty⟩ : Ledger κ ν) := by
  refine ⟨fun k v => ⟨nofun, ?_⟩, nofun⟩
  rintro ⟨x, hx, _⟩
  cases hx

/-- A version stays where it is or moves to a next phase of the same line. -/
theorem Step.next (h : Step l l') {v : ν} {x : Version κ ν} (hv : l.version v = some x) :
    ∃ y, l'.version v = some y ∧ y.line = x.line ∧ x.phase.Next y.phase := by
  have keep {w : ν} {z : Version κ ν} (hz : ∀ x, l.version w = some x → z.line = x.line ∧ x.phase.Next z.phase) :
      ∃ y, l.version.set w z v = some y ∧ y.line = x.line ∧ x.phase.Next y.phase := by
    by_cases hw : v = w
    · subst hw
      exact ⟨z, Collection.set_same .., hz x hv⟩
    · exact ⟨x, by rw [Collection.set_of_ne hw, hv], rfl, .stay _⟩
  cases h with
  | found k w z fresh =>
    refine keep fun x hx => ?_
    rw [fresh] at hx
    cases hx
  | enrol w z fresh =>
    refine keep fun x hx => ?_
    rw [fresh] at hx
    cases hx
  | promote k p t a b head old new line active waiting =>
    by_cases hp : v = p
    · subst hp
      obtain rfl : a = x := Option.some.inj (old.symm.trans hv)
      exact ⟨_, Collection.set_same .., rfl, active ▸ .supersede⟩
    · simp only [Collection.set_of_ne hp]
      refine keep fun x hx => ?_
      obtain rfl : b = x := Option.some.inj (new.symm.trans hx)
      exact ⟨rfl, waiting ▸ .promote⟩
  | retire w z found superseded =>
    refine keep fun x hx => ?_
    obtain rfl : z = x := Option.some.inj (found.symm.trans hx)
    exact ⟨rfl, superseded ▸ .retire⟩
  | abandon w z found waiting =>
    refine keep fun x hx => ?_
    obtain rfl : z = x := Option.some.inj (found.symm.trans hx)
    exact ⟨rfl, waiting ▸ .abandon⟩

/-- A new version starts at the head or waits. -/
theorem Step.starts (h : Step l l') {v : ν} {y : Version κ ν} (hn : l.version v = none)
    (hv : l'.version v = some y) : y.phase = .active ∨ y.phase = .waiting := by
  have absurd_old {w : ν} {x z : Version κ ν} (hw : l.version w = some x) (hz : l.version.set w z v = some y) :
      False := by
    rcases Collection.set_eq_some.mp hz with ⟨rfl, _⟩ | ⟨_, hz⟩
    · rw [hn] at hw
      cases hw
    · rw [hn] at hz
      cases hz
  cases h with
  | found k w z fresh free line phase =>
    rcases Collection.set_eq_some.mp hv with ⟨_, rfl⟩ | ⟨_, hv⟩
    · exact .inl phase
    · rw [hn] at hv
      cases hv
  | enrol w z fresh phase =>
    rcases Collection.set_eq_some.mp hv with ⟨_, rfl⟩ | ⟨_, hv⟩
    · exact .inr phase
    · rw [hn] at hv
      cases hv
  | promote k p t a b head old new =>
    rcases Collection.set_eq_some.mp hv with ⟨rfl, _⟩ | ⟨_, hv⟩
    · rw [hn] at old
      cases old
    · exact (absurd_old new hv).elim
  | retire w z found => exact (absurd_old found hv).elim
  | abandon w z found => exact (absurd_old found hv).elim

omit [DecidableEq κ] in
private theorem Coherent.head_of_idle {v : ν} {z : Version κ ν} (h : Coherent l)
    (was : ∀ x, l.version v = some x → x.phase ≠ .active) (idle : z.phase ≠ .active) (k : κ) (w : ν) :
    l.head k = some w ↔ ∃ x, l.version.set v z w = some x ∧ x.line = k ∧ x.phase = .active := by
  rw [h.head_iff]
  constructor
  · rintro ⟨x, hx, hl, ha⟩
    refine ⟨x, ?_, hl, ha⟩
    rw [Collection.set_of_ne, hx]
    rintro rfl
    exact was x hx ha
  · rintro ⟨x, hx, hl, ha⟩
    rcases Collection.set_eq_some.mp hx with ⟨_, rfl⟩ | ⟨_, hx⟩
    · exact absurd ha idle
    · exact ⟨x, hx, hl, ha⟩

omit [DecidableEq κ] in
private theorem Coherent.chained_of {v : ν} {z : Version κ ν} (h : Coherent l)
    (keeps : ∀ x, l.version v = some x → x.phase.Settled → z.predecessor = x.predecessor ∧ z.phase.Settled)
    (idle : z.phase ≠ .superseded) {w : ν} {x : Version κ ν} (hw : l.version.set v z w = some x)
    (hs : x.phase = .superseded) :
    ∃ u y, x.successor = some u ∧ l.version.set v z u = some y ∧ y.predecessor = some w ∧ y.phase.Settled := by
  rcases Collection.set_eq_some.mp hw with ⟨_, rfl⟩ | ⟨_, hw⟩
  · exact absurd hs idle
  · obtain ⟨u, y, hu, hy, hp, hset⟩ := h.chained w x hw hs
    by_cases huv : u = v
    · subst huv
      obtain ⟨hkp, hks⟩ := keeps y hy hset
      exact ⟨u, z, hu, Collection.set_same .., hkp.trans hp, hks⟩
    · exact ⟨u, y, hu, by rw [Collection.set_of_ne huv, hy], hp, hset⟩

private theorem Coherent.found {k : κ} {v : ν} {x : Version κ ν} (h : Coherent l)
    (fresh : l.version v = none) (free : l.head k = none) (line : x.line = k) (phase : x.phase = .active) :
    Coherent ⟨l.version.set v x, l.head.set k v⟩ := by
  refine ⟨fun j w => ?_, fun w y hw hs => h.chained_of ?_ (by rw [phase]; nofun) hw hs⟩
  · simp only [Collection.set_eq_some]
    constructor
    · rintro (⟨rfl, rfl⟩ | ⟨hj, hh⟩)
      · exact ⟨x, .inl ⟨rfl, rfl⟩, line, phase⟩
      · obtain ⟨y, hy, hl, ha⟩ := (h.head_iff j w).mp hh
        refine ⟨y, .inr ⟨?_, hy⟩, hl, ha⟩
        rintro rfl
        rw [fresh] at hy
        cases hy
    · rintro ⟨y, ⟨rfl, rfl⟩ | ⟨hne, hy⟩, hl, ha⟩
      · exact .inl ⟨hl.symm.trans line, rfl⟩
      · have hh := (h.head_iff j w).mpr ⟨y, hy, hl, ha⟩
        refine .inr ⟨?_, hh⟩
        rintro rfl
        rw [free] at hh
        cases hh
  · intro y hy
    rw [fresh] at hy
    cases hy

private theorem Coherent.promote {k : κ} {p t : ν} {x y : Version κ ν} (h : Coherent l)
    (head : l.head k = some p) (old : l.version p = some x) (new : l.version t = some y) (line : y.line = k)
    (active : x.phase = .active) (waiting : y.phase = .waiting) :
    Coherent ⟨(l.version.set t { y with phase := .active, predecessor := some p }).set p
      { x with phase := .superseded, successor := some t }, l.head.set k t⟩ := by
  have hpt : t ≠ p := by
    rintro rfl
    rw [old] at new
    cases new
    rw [active] at waiting
    cases waiting
  have hxk : x.line = k := by
    obtain ⟨x', hx', hl, _⟩ := (h.head_iff k p).mp head
    rw [old] at hx'
    cases hx'
    exact hl
  refine ⟨fun j w => ?_, fun w z hw hs => ?_⟩
  · simp only [Collection.set_eq_some]
    constructor
    · rintro (⟨rfl, rfl⟩ | ⟨hj, hh⟩)
      · exact ⟨_, .inr ⟨hpt, .inl ⟨rfl, rfl⟩⟩, line, rfl⟩
      · obtain ⟨z, hz, hl, ha⟩ := (h.head_iff j w).mp hh
        refine ⟨z, .inr ⟨?_, .inr ⟨?_, hz⟩⟩, hl, ha⟩
        · rintro rfl
          rw [old] at hz
          cases hz
          exact hj (hl.symm.trans hxk)
        · rintro rfl
          rw [new] at hz
          cases hz
          rw [waiting] at ha
          cases ha
    · rintro ⟨z, ⟨rfl, rfl⟩ | ⟨hwp, ⟨rfl, rfl⟩ | ⟨hwt, hz⟩⟩, hl, ha⟩
      · cases ha
      · exact .inl ⟨hl.symm.trans line, rfl⟩
      · have hh := (h.head_iff j w).mpr ⟨z, hz, hl, ha⟩
        refine .inr ⟨?_, hh⟩
        rintro rfl
        rw [head] at hh
        exact hwp (Option.some.inj hh).symm
  · have taken : ∃ u z', (some t : Option ν) = some u ∧
        ((l.version.set t { y with phase := .active, predecessor := some p }).set p
          { x with phase := .superseded, successor := some t }) u = some z' ∧
        z'.predecessor = some p ∧ z'.phase.Settled :=
      ⟨t, _, rfl, by rw [Collection.set_of_ne hpt, Collection.set_same], rfl, Phase.settled_active⟩
    rcases Collection.set_eq_some.mp hw with ⟨rfl, rfl⟩ | ⟨hwp, hw⟩
    · exact taken
    · rcases Collection.set_eq_some.mp hw with ⟨rfl, rfl⟩ | ⟨hwt, hw⟩
      · cases hs
      · obtain ⟨u, z', hu, hz', hp, hset⟩ := h.chained w z hw hs
        by_cases hup : u = p
        · subst hup
          obtain rfl : x = z' := Option.some.inj (old.symm.trans hz')
          exact ⟨u, _, hu, Collection.set_same .., hp, Phase.settled_superseded⟩
        · have hut : u ≠ t := by
            rintro rfl
            rw [new] at hz'
            cases hz'
            exact hset.1 waiting
          exact ⟨u, z', hu, by simp only [Collection.set_of_ne hup, Collection.set_of_ne hut, hz'], hp, hset⟩

/-- Every step keeps the lines coherent. -/
theorem Coherent.step (h : Coherent l) (hs : Step l l') : Coherent l' := by
  cases hs with
  | found k v x fresh free line phase => exact h.found fresh free line phase
  | enrol v x fresh phase =>
    have none_old {y : Version κ ν} {P : Prop} (hy : l.version v = some y) : P := by
      rw [fresh] at hy
      cases hy
    exact ⟨fun k w => h.head_of_idle (fun _ hy => none_old hy) (by rw [phase]; nofun) k w,
      fun w y hw hs => h.chained_of (fun _ hy => none_old hy) (by rw [phase]; nofun) hw hs⟩
  | promote k p t x y head old new line active waiting => exact h.promote head old new line active waiting
  | retire v x found superseded =>
    refine ⟨fun k w => h.head_of_idle ?_ (show Phase.retired ≠ .active by decide) k w,
      fun w y hw hs => h.chained_of ?_ (show Phase.retired ≠ .superseded by decide) hw hs⟩
    · intro y hy
      obtain rfl : x = y := Option.some.inj (found.symm.trans hy)
      rw [superseded]
      nofun
    · intro y hy _
      obtain rfl : x = y := Option.some.inj (found.symm.trans hy)
      exact ⟨rfl, Phase.settled_retired⟩
  | abandon v x found waiting =>
    refine ⟨fun k w => h.head_of_idle ?_ (show Phase.abandoned ≠ .active by decide) k w,
      fun w y hw hs => h.chained_of ?_ (show Phase.abandoned ≠ .superseded by decide) hw hs⟩
    · intro y hy
      obtain rfl : x = y := Option.some.inj (found.symm.trans hy)
      rw [waiting]
      nofun
    · intro y hy hset
      obtain rfl : x = y := Option.some.inj (found.symm.trans hy)
      exact absurd waiting hset.1

end Ledger
end Uumi.Foundations
