import SchemaDraft.Proofs.Calendar.Text
import SchemaDraft.Proofs.Json.Record

/-!
Literals and conditions read from the JSON they are written as. This gives back the value but for
leap seconds that are written as another moment, whatever floats it holds; that its text can be read
too asks for floats that have one.
-/

namespace SchemaDraft

namespace Literal

/-- A float that is no number has no JSON text. -/
def isFinite : Literal → Bool
  | .float x => x.isFinite
  | _ => true

def AllFinite (values : List Literal) : Prop := ∀ value ∈ values, value.isFinite = true

instance (values : List Literal) : Decidable (AllFinite values) :=
  inferInstanceAs (Decidable (∀ value ∈ values, value.isFinite = true))

theorem integer?_toInt (n : Int64) : integer? n.toInt = some n := by
  rw [integer?, if_pos ⟨n.minValue_le_toInt, n.toInt_le⟩, Int64.ofInt_toInt]

/-- Whether the value is no leap second, or one at the end of a minute. -/
def hasOwnText : Literal → Bool
  | .timestamp t => t.hasOwnText
  | _ => true

def AllOwnText (values : List Literal) : Prop := ∀ value ∈ values, value.hasOwnText = true

instance (values : List Literal) : Decidable (AllOwnText values) :=
  inferInstanceAs (Decidable (∀ value ∈ values, value.hasOwnText = true))

/-- The value that the text of this one stands for. -/
def asWritten : Literal → Literal
  | .timestamp t => .timestamp t.asWritten
  | value => value

theorem asWritten_eq_self_iff {value : Literal} :
    value.asWritten = value ↔ value.hasOwnText = true := by
  cases value with
  | timestamp t => exact Literal.timestamp.injEq _ _ ▸ Timestamp.asWritten_eq_self_iff
  | _ => exact iff_of_true rfl rfl

/-- Reading changes none of the values exactly if all of them have texts of their own. -/
theorem forall_asWritten_eq_self_iff {values : List Literal} :
    (∀ value ∈ values, value.asWritten = value) ↔ AllOwnText values := by
  simp only [AllOwnText, asWritten_eq_self_iff]

theorem ofJson?_toJson (place : Json.Place) (value : Literal) :
    ofJson? place value.toJson = some value.asWritten := by
  cases value with
  | null => rfl
  | boolean b => rfl
  | integer n =>
    have hread (k : Int) : ofJson? place (.obj [("type", .str "integer"), ("value", .int k)]) =
        (integer? k).map .integer := rfl
    exact (hread _).trans (by rw [integer?_toInt]; rfl)
  | float x => rfl
  | text s => rfl
  | date d =>
    have hread (text : String) :
        ofJson? place (.obj [("type", .str "date"), ("value", .str text)]) =
          (Date.ofText? text).map .date := rfl
    exact (hread _).trans (by rw [Date.ofText?_text]; rfl)
  | timestamp t =>
    have hread (text : String) :
        ofJson? place (.obj [("type", .str "timestamp"), ("value", .str text)]) =
          (Timestamp.ofTextWith? 'T' text).map .timestamp := rfl
    exact (hread _).trans (by rw [Timestamp.ofTextWith?_textWith (by decide)]; rfl)

theorem isExact_toJson {value : Literal} (h : value.isFinite = true) : value.toJson.IsExact := by
  cases value with
  | null => exact ⟨trivial, trivial⟩
  | boolean b => exact ⟨trivial, trivial, trivial⟩
  | integer n => exact ⟨trivial, Json.isMachineInt_toInt n, trivial⟩
  | float x => exact ⟨trivial, h, trivial⟩
  | text s => exact ⟨trivial, trivial, trivial⟩
  | date d => exact ⟨trivial, trivial, trivial⟩
  | timestamp t => exact ⟨trivial, trivial, trivial⟩

theorem depth_toJson (value : Literal) : value.toJson.depth = 1 := by
  cases value <;> rfl

theorem isExact_map_toJson {values : List Literal} (h : AllFinite values) :
    (Json.arr (values.map toJson)).IsExact :=
  Json.isExact_arr_map fun value hvalue => isExact_toJson (h value hvalue)

theorem list?_map_toJson (place : Json.Place) (values : List Literal) :
    Json.list? (ofJson? place) (.arr (values.map toJson)) = some (values.map asWritten) :=
  Json.list?_map (ofJson?_toJson place) values

theorem map_eq_self_iff {f : Literal → Literal} {values : List Literal} :
    values.map f = values ↔ ∀ value ∈ values, f value = value := by
  simpa using List.map_inj_left (f := f) (g := id) (l := values)

end Literal

theorem Comparison.ofJson?_toJson (operator : Comparison) :
    ofJson? operator.toJson = some operator := ofSpelling?_sql operator

namespace Condition

/-- The values that a condition mentions. -/
def literals : Condition → List Literal
  | .comparison _ _ value => [value]
  | .columnComparison .. => []
  | .between _ low high _ => [low, high]
  | .membership _ values _ => values
  | .nullCheck .. => []
  | .fragment _ bindings => bindings
  | .conjunction left right => left.literals ++ right.literals
  | .disjunction left right => left.literals ++ right.literals

/-- The condition with other values. -/
def mapLiterals (f : Literal → Literal) : Condition → Condition
  | .comparison column operator value => .comparison column operator (f value)
  | .columnComparison left operator right => .columnComparison left operator right
  | .between column low high negated => .between column (f low) (f high) negated
  | .membership column values negated => .membership column (values.map f) negated
  | .nullCheck column isNull => .nullCheck column isNull
  | .fragment template bindings => .fragment template (bindings.map f)
  | .conjunction left right => .conjunction (left.mapLiterals f) (right.mapLiterals f)
  | .disjunction left right => .disjunction (left.mapLiterals f) (right.mapLiterals f)

theorem mapLiterals_eq_self_iff {f : Literal → Literal} {c : Condition} :
    c.mapLiterals f = c ↔ ∀ value ∈ c.literals, f value = value := by
  induction c with
  | membership column values negated => simp [mapLiterals, literals, Literal.map_eq_self_iff]
  | fragment template bindings => simp [mapLiterals, literals, Literal.map_eq_self_iff]
  | conjunction left right hleft hright | disjunction left right hleft hright =>
    simp only [mapLiterals, literals, List.forall_mem_append, hleft, hright, conjunction.injEq,
      disjunction.injEq]
  | _ => simp [mapLiterals, literals]

private theorem joined?_eq_some {kind : String} {join : Condition → Condition → Condition}
    {left right madeLeft madeRight : Condition} (hleft : ofJson? left.toJson = some madeLeft)
    (hright : ofJson? right.toJson = some madeRight) :
    let members := [("kind", Json.str kind), ("left", left.toJson), ("right", right.toJson)]
    joined? join members (operands members) = some (join madeLeft madeRight) := by
  simp [joined?, operands, operand?, Json.required, Json.member?, hleft, hright]

theorem ofJson?_toJson (c : Condition) :
    ofJson? c.toJson = some (c.mapLiterals Literal.asWritten) := by
  induction c with
  | comparison column operator value =>
    have hoperator := operator.ofJson?_toJson
    have hvalue := value.ofJson?_toJson .inside
    exact Json.bind_eq_some_of rfl
      (Json.bind_eq_some_of hoperator (Json.bind_eq_some_of hvalue rfl))
  | columnComparison left operator right =>
    have hoperator := operator.ofJson?_toJson
    exact Json.bind_eq_some_of rfl (Json.bind_eq_some_of hoperator rfl)
  | between column low high negated =>
    have hlow := low.ofJson?_toJson .inside
    have hhigh := high.ofJson?_toJson .inside
    exact Json.bind_eq_some_of rfl (Json.bind_eq_some_of hlow (Json.bind_eq_some_of hhigh rfl))
  | membership column values negated =>
    have hvalues := Literal.list?_map_toJson .inside values
    exact Json.bind_eq_some_of rfl (Json.bind_eq_some_of hvalues rfl)
  | nullCheck column isNull => rfl
  | fragment template bindings =>
    have hbindings := Literal.list?_map_toJson .inside bindings
    exact Json.bind_eq_some_of rfl (Json.bind_eq_some_of hbindings rfl)
  | conjunction left right hleft hright => exact joined?_eq_some hleft hright
  | disjunction left right hleft hright => exact joined?_eq_some hleft hright

theorem isExact_toJson {c : Condition} (h : Literal.AllFinite c.literals) :
    c.toJson.IsExact := by
  induction c with
  | comparison column operator value =>
    have hvalue := Literal.isExact_toJson (h value (by simp [literals]))
    exact ⟨trivial, trivial, trivial, hvalue, trivial⟩
  | columnComparison left operator right => exact ⟨trivial, trivial, trivial, trivial, trivial⟩
  | between column low high negated =>
    have hlow := Literal.isExact_toJson (h low (by simp [literals]))
    have hhigh := Literal.isExact_toJson (h high (by simp [literals]))
    exact ⟨trivial, trivial, hlow, hhigh, trivial, trivial⟩
  | membership column values negated =>
    have hvalues := Literal.isExact_map_toJson h
    exact ⟨trivial, trivial, hvalues, trivial, trivial⟩
  | nullCheck column isNull => exact ⟨trivial, trivial, trivial, trivial⟩
  | fragment template bindings =>
    have hbindings := Literal.isExact_map_toJson h
    exact ⟨trivial, trivial, hbindings, trivial⟩
  | conjunction left right ihleft ihright | disjunction left right ihleft ihright =>
    have hleft := ihleft fun value hvalue => h value (List.mem_append_left _ hvalue)
    have hright := ihright fun value hvalue => h value (List.mem_append_right _ hvalue)
    exact ⟨trivial, hleft, hright, trivial⟩

end Condition

end SchemaDraft
