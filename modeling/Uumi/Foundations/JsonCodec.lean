import Uumi.Foundations.Json
import Uumi.Foundations.Results

/-! How values are written as JSON and read back. Reading may refuse or normalise, so a codec restores only
some of its values. -/
namespace Uumi.Foundations

structure Codec (ε α : Type) where
  write : α → Json
  read : Json → Except ε α

namespace Codec
variable {ε α : Type}

def Restores (c : Codec ε α) (a : α) : Prop := c.read (c.write a) = .ok a

def bool (e : ε) : Codec ε Bool where
  write := .bool
  read
    | .bool b => .ok b
    | _ => .error e

@[simp] theorem bool_restores (e : ε) (b : Bool) : (bool e).Restores b := rfl

def text (e : ε) (normal : String → String) : Codec ε String where
  write := .str
  read
    | .str s => .ok (normal s)
    | _ => .error e

/-- A text is restored when it is in normal form. -/
theorem text_restores {e : ε} {normal : String → String} {s : String} :
    (text e normal).Restores s ↔ normal s = s :=
  ⟨Except.ok.inj, congrArg Except.ok⟩

def checked (e : ε) (value : α → String) (build : String → Except ε α) : Codec ε α where
  write a := .str (value a)
  read
    | .str s => build s
    | _ => .error e

/-- A checked text is restored when its value builds it again. -/
theorem checked_restores {e : ε} {value : α → String} {build : String → Except ε α} {a : α} :
    (checked e value build).Restores a ↔ build (value a) = .ok a := Iff.rfl

def choice (e : ε) (all : List α) (value : α → String) : Codec ε α :=
  checked e value fun s => required (all.find? fun a => value a = s) e

/-- A choice is restored when its values are different texts. -/
theorem choice_restores {e : ε} {all : List α} {value : α → String} (injective : Function.Injective value) {a : α}
    (h : a ∈ all) : (choice e all value).Restores a := by
  refine checked_restores.mpr ((required_ok _ _ _).mpr ?_)
  have hsome : (all.find? fun other => value other = value a).isSome :=
    List.find?_isSome.mpr ⟨a, h, decide_eq_true rfl⟩
  obtain ⟨found, hfound⟩ := Option.isSome_iff_exists.mp hsome
  have hvalue := List.find?_some hfound
  rw [hfound, injective (of_decide_eq_true hvalue)]

/-- A number within bounds. -/
def bounded (e : ε) (admits : Nat → Prop) [DecidablePred admits] : Codec ε { n : Nat // admits n } where
  write n := .int n.val
  read
    | .int (.ofNat n) => if h : admits n then .ok ⟨n, h⟩ else .error e
    | _ => .error e

@[simp] theorem bounded_restores (e : ε) {admits : Nat → Prop} [DecidablePred admits] (n : { n : Nat // admits n }) :
    (bounded e admits).Restores n :=
  dif_pos n.property

def list (e : ε) (c : Codec ε α) : Codec ε (List α) where
  write as := .arr (as.map c.write)
  read
    | .arr items => collect items c.read
    | _ => .error e

/-- A list is restored item by item. -/
theorem list_restores {e : ε} {c : Codec ε α} {as : List α} (h : ∀ a ∈ as, c.Restores a) :
    (list e c).Restores as := by
  change collect (as.map c.write) c.read = .ok as
  rw [collect_ok, List.forall₂_map_left_iff, List.forall₂_same]
  exact h

def nullable (c : Codec ε α) : Codec ε (Option α) where
  write
    | none => .null
    | some a => c.write a
  read
    | .null => .ok none
    | json => do return some (← c.read json)

/-- An optional value is restored when the value is, and is not written as null. -/
theorem nullable_restores {c : Codec ε α} {value : Option α} (h : ∀ a ∈ value, c.Restores a ∧ c.write a ≠ .null) :
    (nullable c).Restores value := by
  cases value with
  | none => rfl
  | some a =>
    obtain ⟨hrestores, hnull⟩ := h a rfl
    change (nullable c).read (c.write a) = .ok (some a)
    have hread : c.read (c.write a) = .ok a := hrestores
    revert hnull hread
    cases c.write a with
    | null => exact fun hnull _ => absurd rfl hnull
    | _ =>
      intro _ hread
      change (do return some (← c.read _) : Except ε (Option α)) = .ok (some a)
      rw [hread, ok_bind]
      rfl

def mapping (e : ε) (c : Codec ε α) : Codec ε (List (String × α)) where
  write entries := .obj (entries.map fun entry => (entry.1, c.write entry.2))
  read
    | .obj fields => collect fields fun field => do return (field.1, ← c.read field.2)
    | _ => .error e

/-- A mapping is restored entry by entry. -/
theorem mapping_restores {e : ε} {c : Codec ε α} {entries : List (String × α)}
    (h : ∀ entry ∈ entries, c.Restores entry.2) : (mapping e c).Restores entries := by
  change collect (entries.map fun entry => (entry.1, c.write entry.2)) _ = .ok entries
  rw [collect_ok, List.forall₂_map_left_iff, List.forall₂_same]
  intro entry hentry
  have hread : c.read (c.write entry.2) = .ok entry.2 := h entry hentry
  rw [hread, ok_bind]
  rfl

def fieldsOf (e : ε) (keys : List String) : Json → Except ε (List (String × Json))
  | .obj fields => do
    raiseIf (∃ field ∈ fields, field.1 ∉ keys) e
    return fields
  | _ => .error e

/-- An object with known keys is read as its fields. -/
theorem fieldsOf_written {e : ε} {keys : List String} {fields : List (String × Json)}
    (h : ∀ field ∈ fields, field.1 ∈ keys) : fieldsOf e keys (.obj fields) = .ok fields := by
  rw [fieldsOf, raiseIf_bind_of_not (by simpa using fun key json hfield => h (key, json) hfield)]
  rfl

def field (c : Codec ε α) (e : ε) (fields : List (String × Json)) (key : String) (default : Option α) : Except ε α :=
  match fields.lookup key with
  | some json => c.read json
  | none => required default e

/-- A field that was written is read back. -/
theorem field_written {c : Codec ε α} {e : ε} {fields : List (String × Json)} {key : String} {default : Option α} {a : α}
    (h : fields.lookup key = some (c.write a)) (restores : c.Restores a) :
    c.field e fields key default = .ok a := by
  rw [field, h]
  exact restores

end Codec
end Uumi.Foundations
