import SchemaDraft.Blueprint.Json
import SchemaDraft.Proofs.Json.Text

/-!
Reading the parts of records. A list is read as its items are, an optional part as its value is if
what stands for that is never null, and a number is read back if it is below the bound.
-/

namespace SchemaDraft.Json

variable {α β : Type} {write : α → Json} {read : Json → Option α}

/-- A part that is read is followed by the reading of the others. -/
theorem bind_eq_some_of {x : Option α} {f : α → Option β} {a : α} {b : β} (hx : x = some a)
    (hf : f a = some b) : (x >>= f) = some b := by
  rw [hx]
  exact hf

theorem list?_map {made : α → α} (h : ∀ a, read (write a) = some (made a)) (values : List α) :
    list? read (.arr (values.map write)) = some (values.map made) := by
  rw [list?]
  induction values with
  | nil => rfl
  | cons a values ih => simp [h a, ih]

theorem list?_map_id (h : ∀ a, read (write a) = some a) (values : List α) :
    list? read (.arr (values.map write)) = some values := by
  simpa using list?_map h values

theorem strings?_ofStrings (names : List String) : strings? (ofStrings names) = some names := by
  have hname (name : String) : str? (.str name) = some name := rfl
  exact list?_map_id hname names

theorem optional_ofOption {made : α → α} {name : String} {members : List (String × Json)}
    {value : Option α} (hmember : member? name members = some (some (ofOption write value)))
    (hread : ∀ a, read (write a) = some (made a)) (hnull : ∀ a, write a ≠ .null) :
    optional name read members = some (value.map made) := by
  rw [optional, hmember]
  cases value with
  | none => rfl
  | some a =>
    have hvalue := hread a
    have hsome := hnull a
    rw [ofOption]
    cases hwrite : write a <;> simp_all

theorem optional_ofOption_id {name : String} {members : List (String × Json)} {value : Option α}
    (hmember : member? name members = some (some (ofOption write value)))
    (hread : ∀ a, read (write a) = some a) (hnull : ∀ a, write a ≠ .null) :
    optional name read members = some value := by
  simpa using optional_ofOption hmember hread hnull

theorem optional_str {name : String} {members : List (String × Json)} {value : Option String}
    (hmember : member? name members = some (some (ofOption .str value))) :
    optional name str? members = some value :=
  optional_ofOption_id hmember (fun _ => rfl) (by simp)

theorem natBelow?_natCast {bound n : Nat} (h : n < bound) : natBelow? bound (.int n) = some n := by
  simp [natBelow?, int?, h]

theorem itemsExact_iff {items : List Json} : ItemsExact items ↔ ∀ item ∈ items, item.IsExact := by
  induction items with
  | nil => simp [ItemsExact]
  | cons item items ih => simp [ItemsExact, ih]

theorem isExact_arr_map {values : List α} (h : ∀ a ∈ values, (write a).IsExact) :
    (Json.arr (values.map write)).IsExact := by
  rw [IsExact, itemsExact_iff]
  simpa using h

theorem isExact_ofOption {value : Option α} (h : ∀ a ∈ value, (write a).IsExact) :
    (ofOption write value).IsExact := by
  cases value with
  | none => trivial
  | some a => exact h a rfl

theorem isExact_ofStrings (names : List String) : (ofStrings names).IsExact :=
  isExact_arr_map fun _ _ => trivial

theorem isMachineInt_natCast {n : Nat} (h : n < UInt64.size) : IsMachineInt n := by
  constructor <;> omega

theorem isMachineInt_uint8 (n : UInt8) : IsMachineInt n.toNat :=
  isMachineInt_natCast (n.toNat_lt.trans (by decide))

theorem isMachineInt_uint32 (n : UInt32) : IsMachineInt n.toNat :=
  isMachineInt_natCast (n.toNat_lt.trans (by decide))

theorem isMachineInt_toInt (n : Int64) : IsMachineInt n.toInt :=
  ⟨n.le_toInt, n.toInt_lt.trans_le (by decide)⟩

end SchemaDraft.Json
