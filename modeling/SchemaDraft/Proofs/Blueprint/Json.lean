import SchemaDraft.Proofs.Condition.Json

/-!
Blueprints and their parts read from the JSON they are written as. Every record is read member by
member, and every choice by its name, so that nothing but the values in them can come out different.
-/

namespace SchemaDraft

open Json

/-- The values that a column is given. -/
def Column.literals (column : Column) : List Literal :=
  match column.defaultValue with
  | some (.literal value) => [value]
  | _ => []

def PartitionBounds.literals : PartitionBounds → List Literal
  | .range lower upper => lower ++ upper
  | .list values => values
  | _ => []

/-- The values that a command mentions. -/
def Command.literals : Command → List Literal
  | .createTable definition => definition.columns.flatMap Column.literals
  | .addColumns columns => columns.flatMap Column.literals
  | .createIndex index => index.predicate.elim [] Condition.literals
  | .createTrigger trigger => trigger.arguments
  | .attachPartition _ bounds => bounds.literals
  | _ => []

def Blueprint.literals (b : Blueprint) : List Literal := b.commands.flatMap Command.literals

section Map

variable (f : Literal → Literal)

def DefaultValue.mapLiterals : DefaultValue → DefaultValue
  | .literal value => .literal (f value)
  | .expression sql => .expression sql

/-- The column with other values. -/
def Column.mapLiterals (column : Column) : Column :=
  { column with defaultValue := column.defaultValue.map (DefaultValue.mapLiterals f) }

def PartitionBounds.mapLiterals : PartitionBounds → PartitionBounds
  | .range lower upper => .range (lower.map f) (upper.map f)
  | .list values => .list (values.map f)
  | bounds => bounds

/-- The command with other values. -/
def Command.mapLiterals : Command → Command
  | .createTable definition =>
    .createTable { definition with columns := definition.columns.map (Column.mapLiterals f) }
  | .addColumns columns => .addColumns (columns.map (Column.mapLiterals f))
  | .createIndex index =>
    .createIndex { index with predicate := index.predicate.map (Condition.mapLiterals f) }
  | .createTrigger trigger =>
    .createTrigger { trigger with arguments := trigger.arguments.map f }
  | .attachPartition partition bounds => .attachPartition partition (bounds.mapLiterals f)
  | command => command

def Blueprint.mapLiterals (b : Blueprint) : Blueprint :=
  { b with commands := b.commands.map (Command.mapLiterals f) }

end Map

section Fixed

variable {f : Literal → Literal}

/-- Elements stay as they are exactly if all values in them do. -/
theorem map_eq_self_iff_flatMap {α : Type} {change : α → α} {values : α → List Literal}
    (h : ∀ a, change a = a ↔ ∀ value ∈ values a, f value = value) (all : List α) :
    all.map change = all ↔ ∀ value ∈ all.flatMap values, f value = value := by
  rw [List.forall_mem_flatMap]
  simpa [h] using List.map_inj_left (f := change) (g := id) (l := all)

theorem Column.mapLiterals_eq_self_iff (column : Column) :
    column.mapLiterals f = column ↔ ∀ value ∈ column.literals, f value = value := by
  obtain ⟨name, type, nullable, primaryKey, defaultValue, comment, index⟩ := column
  rcases defaultValue with _ | value | sql <;>
    simp [mapLiterals, literals, DefaultValue.mapLiterals]

theorem PartitionBounds.mapLiterals_eq_self_iff {bounds : PartitionBounds} :
    bounds.mapLiterals f = bounds ↔ ∀ value ∈ bounds.literals, f value = value := by
  cases bounds with
  | range lower upper => simp only [mapLiterals, literals, range.injEq, List.forall_mem_append,
      Literal.map_eq_self_iff]
  | list values => simp only [mapLiterals, literals, list.injEq, Literal.map_eq_self_iff]
  | _ => simp [mapLiterals, literals]

theorem Command.mapLiterals_eq_self_iff (command : Command) :
    command.mapLiterals f = command ↔ ∀ value ∈ command.literals, f value = value := by
  have hcolumns (columns : List Column) := map_eq_self_iff_flatMap
    (Column.mapLiterals_eq_self_iff (f := f)) columns
  cases command with
  | createTable definition =>
    obtain ⟨columns, ifNotExists, like⟩ := definition
    simp [mapLiterals, literals, hcolumns]
  | addColumns columns => simp only [mapLiterals, literals, addColumns.injEq, hcolumns]
  | createIndex index =>
    obtain ⟨name, columns, method, unique, predicate⟩ := index
    cases predicate <;> simp [mapLiterals, literals, Condition.mapLiterals_eq_self_iff]
  | createTrigger trigger =>
    obtain ⟨name, timing, events, table, level, routine, function, arguments⟩ := trigger
    simp [mapLiterals, literals, Literal.map_eq_self_iff]
  | attachPartition partition bounds =>
    simp [mapLiterals, literals, PartitionBounds.mapLiterals_eq_self_iff]
  | _ => simp [mapLiterals, literals]

theorem Blueprint.mapLiterals_eq_self_iff (b : Blueprint) :
    b.mapLiterals f = b ↔ ∀ value ∈ b.literals, f value = value := by
  obtain ⟨table, commands⟩ := b
  simp only [mapLiterals, literals, mk.injEq, true_and]
  exact map_eq_self_iff_flatMap Command.mapLiterals_eq_self_iff commands

end Fixed

namespace ColumnType

theorem uint8?_toNat (n : UInt8) : uint8? (.int n.toNat) = some n := by
  rw [uint8?, natBelow?_natCast n.toNat_lt, Option.map_some, UInt8.ofNat_toNat]

theorem uint32?_toNat (n : UInt32) : uint32? (.int n.toNat) = some n := by
  rw [uint32?, natBelow?_natCast n.toNat_lt, Option.map_some, UInt32.ofNat_toNat]

theorem optional_precisionJson (precision : Option UInt8) :
    optional "precision" uint8? [("precision", precisionJson precision)] = some precision := by
  have hjson : precisionJson precision = ofOption (fun n : UInt8 => .int n.toNat) precision := by
    cases precision <;> rfl
  rw [hjson]
  exact optional_ofOption_id rfl uint8?_toNat (by simp)

theorem ofJson?_toJson (type : ColumnType) : ofJson? type.toJson = some type := by
  cases type with
  | string length =>
    have hread (json : Json) : ofJson? (.obj [("type", .str "string"), ("length", json)]) =
        (do return .string (← uint32? json)) := rfl
    exact (hread _).trans (bind_eq_some_of (uint32?_toNat length) rfl)
  | timestamp precision =>
    have hread (json : Json) : ofJson? (.obj [("type", .str "timestamp"), ("precision", json)]) =
        (do return .timestamp (← optional "precision" uint8? [("precision", json)])) := rfl
    exact (hread _).trans (bind_eq_some_of (optional_precisionJson precision) rfl)
  | timestampTz precision =>
    have hread (json : Json) : ofJson? (.obj [("type", .str "timestamp_tz"), ("precision", json)]) =
        (do return .timestampTz (← optional "precision" uint8? [("precision", json)])) := rfl
    exact (hread _).trans (bind_eq_some_of (optional_precisionJson precision) rfl)
  | decimal precision scale =>
    have hread (first second : Json) :
        ofJson? (.obj [("type", .str "decimal"), ("precision", first), ("scale", second)]) =
          (do return .decimal (← uint8? first) (← uint8? second)) := rfl
    exact (hread _ _).trans (bind_eq_some_of (uint8?_toNat precision)
      (bind_eq_some_of (uint8?_toNat scale) rfl))
  | _ => rfl

end ColumnType

theorem IndexMethod.ofJson?_toJson (place : Place) (method : IndexMethod) :
    ofJson? place method.toJson = some method := by
  cases method <;> rfl

theorem DefaultValue.ofJson?_toJson (place : Place) (value : DefaultValue) :
    ofJson? place value.toJson = some (value.mapLiterals Literal.asWritten) := by
  cases value with
  | literal value =>
    have hread (json : Json) : ofJson? place (.obj [("literal", json)]) =
        (Literal.ofJson? place json).map .literal := rfl
    exact (hread _).trans (by rw [Literal.ofJson?_toJson]; rfl)
  | expression sql => rfl

theorem InlineIndex.ofJson?_toJson (place : Place) (index : InlineIndex) :
    ofJson? place index.toJson = some index := by
  have hmethod := IndexMethod.ofJson?_toJson place index.method
  exact bind_eq_some_of rfl <| bind_eq_some_of rfl <| bind_eq_some_of hmethod <|
    bind_eq_some_of (optional_str rfl) rfl

theorem Column.ofJson?_toJson (place : Place) (column : Column) :
    ofJson? place column.toJson = some (column.mapLiterals Literal.asWritten) := by
  have htype := ColumnType.ofJson?_toJson column.type
  have hdefault (value : DefaultValue) : value.toJson ≠ .null := by
    cases value <;> simp [DefaultValue.toJson]
  have hindex (index : InlineIndex) : index.toJson ≠ .null := by simp [InlineIndex.toJson]
  exact bind_eq_some_of rfl <| bind_eq_some_of rfl <| bind_eq_some_of htype <|
    bind_eq_some_of rfl <| bind_eq_some_of rfl <|
    bind_eq_some_of (optional_ofOption rfl (DefaultValue.ofJson?_toJson place) hdefault) <|
    bind_eq_some_of (optional_str rfl) <|
    bind_eq_some_of (optional_ofOption_id rfl (InlineIndex.ofJson?_toJson place) hindex) rfl

theorem LikeFeature.ofJson?_toJson (place : Place) (feature : LikeFeature) :
    ofJson? place feature.toJson = some feature := by
  cases feature <;> rfl

theorem LikeOption.ofJson?_toJson (option : LikeOption) : ofJson? option.toJson = some option := by
  have hfeature := LikeFeature.ofJson?_toJson .inside option.feature
  exact bind_eq_some_of rfl <| bind_eq_some_of rfl <| bind_eq_some_of hfeature rfl

theorem LikeOptions.ofJson?_toJson (options : LikeOptions) :
    ofJson? options.toJson = some options := by
  cases options with
  | plain => rfl
  | includingAll => rfl
  | selected options =>
    have hread (json : Json) : ofJson? (.obj [("selected", json)]) =
        (list? LikeOption.ofJson? json).map .selected := rfl
    exact (hread _).trans (by rw [list?_map_id LikeOption.ofJson?_toJson]; rfl)

theorem LikeClause.ofJson?_toJson (clause : LikeClause) : ofJson? clause.toJson = some clause := by
  have hoptions := LikeOptions.ofJson?_toJson clause.options
  exact bind_eq_some_of rfl <| bind_eq_some_of rfl <| bind_eq_some_of hoptions rfl

theorem TriggerTiming.ofJson?_toJson (place : Place) (timing : TriggerTiming) :
    ofJson? place timing.toJson = some timing := by
  cases timing <;> rfl

theorem TriggerLevel.ofJson?_toJson (level : TriggerLevel) : ofJson? level.toJson = some level := by
  cases level <;> rfl

theorem RoutineKind.ofJson?_toJson (kind : RoutineKind) : ofJson? kind.toJson = some kind := by
  cases kind <;> rfl

theorem TriggerEvent.ofJson?_toJson (place : Place) (event : TriggerEvent) :
    ofJson? place event.toJson = some event := by
  cases event with
  | updateOf columns =>
    have hread (json : Json) : ofJson? place (.obj [("update_of", json)]) =
        json.strings?.map .updateOf := rfl
    exact (hread _).trans (by rw [strings?_ofStrings]; rfl)
  | _ => rfl

theorem PartitionBounds.ofJson?_toJson (place : Place) (bounds : PartitionBounds) :
    ofJson? place bounds.toJson = some (bounds.mapLiterals Literal.asWritten) := by
  cases bounds with
  | range lower upper =>
    have hread (first second : Json) :
        ofJson? place (.obj [("range", .obj [("from", first), ("to", second)])]) =
          (do return .range (← literals? place first) (← literals? place second)) := rfl
    exact (hread _ _).trans (bind_eq_some_of (Literal.list?_map_toJson place lower)
      (bind_eq_some_of (Literal.list?_map_toJson place upper) rfl))
  | list values =>
    have hread (json : Json) : ofJson? place (.obj [("list", json)]) =
        (literals? place json).map .list := rfl
    have hvalues : literals? place (ofLiterals values) = some (values.map Literal.asWritten) :=
      Literal.list?_map_toJson place values
    exact (hread _).trans (by rw [hvalues]; rfl)
  | hash modulus remainder =>
    have hread (first second : Json) :
        ofJson? place (.obj [("hash", .obj [("modulus", first), ("remainder", second)])]) =
          (do return .hash (← ColumnType.uint32? first) (← ColumnType.uint32? second)) := rfl
    exact (hread _ _).trans (bind_eq_some_of (ColumnType.uint32?_toNat modulus)
      (bind_eq_some_of (ColumnType.uint32?_toNat remainder) rfl))
  | rest => rfl
  | raw clause => rfl

namespace Command

theorem columns?_map_toJson (columns : List Column) :
    columns? (.arr (columns.map Column.toJson)) =
      some (columns.map (Column.mapLiterals Literal.asWritten)) :=
  list?_map (Column.ofJson?_toJson .inside) columns

theorem ofMembers?_members (command : Command) :
    ofMembers? command.kind (("command", .str command.kind) :: command.members) =
      some (command.mapLiterals Literal.asWritten) := by
  cases command with
  | createTable definition =>
    have hcolumns := columns?_map_toJson definition.columns
    have hlike (clause : LikeClause) : clause.toJson ≠ .null := by simp [LikeClause.toJson]
    exact bind_eq_some_of hcolumns <| bind_eq_some_of rfl <|
      bind_eq_some_of (optional_ofOption_id rfl LikeClause.ofJson?_toJson hlike) rfl
  | addColumns columns => exact bind_eq_some_of (columns?_map_toJson columns) rfl
  | createIndex index =>
    have hcolumns := strings?_ofStrings index.columns
    have hmethod := IndexMethod.ofJson?_toJson .inside index.method
    have hpredicate (condition : Condition) : condition.toJson ≠ .null := by
      cases condition <;> simp [Condition.toJson]
    exact bind_eq_some_of (optional_str rfl) <| bind_eq_some_of hcolumns <|
      bind_eq_some_of hmethod <| bind_eq_some_of rfl <|
      bind_eq_some_of (optional_ofOption rfl Condition.ofJson?_toJson hpredicate) rfl
  | createTrigger trigger =>
    have htiming := TriggerTiming.ofJson?_toJson .inside trigger.timing
    have hevents := list?_map_id (TriggerEvent.ofJson?_toJson .inside) trigger.events
    have hlevel := TriggerLevel.ofJson?_toJson trigger.level
    have hroutine := RoutineKind.ofJson?_toJson trigger.routine
    have harguments := Literal.list?_map_toJson .inside trigger.arguments
    exact bind_eq_some_of rfl <| bind_eq_some_of htiming <| bind_eq_some_of hevents <|
      bind_eq_some_of rfl <| bind_eq_some_of hlevel <| bind_eq_some_of hroutine <|
      bind_eq_some_of rfl <| bind_eq_some_of harguments rfl
  | attachPartition partition bounds =>
    have hbounds := PartitionBounds.ofJson?_toJson .inside bounds
    exact bind_eq_some_of rfl <| bind_eq_some_of hbounds rfl
  | _ => rfl

theorem ofJson?_toJson (command : Command) :
    ofJson? command.toJson = some (command.mapLiterals Literal.asWritten) := by
  have hkind : required "command" str? (("command", .str command.kind) :: command.members) =
      some command.kind := by
    cases command <;> rfl
  exact bind_eq_some_of rfl <| bind_eq_some_of hkind command.ofMembers?_members

end Command

theorem Blueprint.ofJson?_toJson (b : Blueprint) :
    ofJson? b.toJson = some (b.mapLiterals Literal.asWritten) := by
  have hcommands := list?_map Command.ofJson?_toJson b.commands
  exact bind_eq_some_of rfl <| bind_eq_some_of rfl <| bind_eq_some_of hcommands rfl

theorem ColumnType.isExact_toJson (type : ColumnType) : type.toJson.IsExact := by
  have hprecision (precision : Option UInt8) : (precisionJson precision).IsExact := by
    cases precision with
    | none => trivial
    | some n => exact isMachineInt_uint8 n
  cases type with
  | string length => exact ⟨trivial, isMachineInt_uint32 length, trivial⟩
  | timestamp precision => exact ⟨trivial, hprecision precision, trivial⟩
  | timestampTz precision => exact ⟨trivial, hprecision precision, trivial⟩
  | decimal precision scale =>
    exact ⟨trivial, isMachineInt_uint8 precision, isMachineInt_uint8 scale, trivial⟩
  | custom name => exact ⟨trivial, trivial, trivial⟩
  | _ => exact ⟨trivial, trivial⟩

theorem Column.isExact_toJson {column : Column} (h : Literal.AllFinite column.literals) :
    column.toJson.IsExact := by
  have hdefault : (ofOption DefaultValue.toJson column.defaultValue).IsExact := by
    apply isExact_ofOption
    intro value hvalue
    cases value with
    | literal value =>
      have hliteral := Literal.isExact_toJson (h value (by simp_all [literals]))
      exact ⟨hliteral, trivial⟩
    | expression sql => exact ⟨trivial, trivial⟩
  have hcomment : (ofOption .str column.comment).IsExact := isExact_ofOption fun _ _ => trivial
  have hindex : (ofOption InlineIndex.toJson column.index).IsExact :=
    isExact_ofOption fun index _ =>
      ⟨trivial, trivial, isExact_ofOption fun _ _ => trivial, trivial⟩
  exact ⟨trivial, column.type.isExact_toJson, trivial, trivial, hdefault, hcomment, hindex, trivial⟩

theorem Column.depth_toJson_le (column : Column) : column.toJson.depth ≤ 3 := by
  have htype : column.type.toJson.depth ≤ 1 := by
    cases column.type with
    | timestamp precision => cases precision <;> exact Nat.le_refl 1
    | timestampTz precision => cases precision <;> exact Nat.le_refl 1
    | _ => exact Nat.le_refl 1
  have hdefault : (ofOption DefaultValue.toJson column.defaultValue).depth ≤ 2 := by
    rcases column.defaultValue with _ | value | sql
    · exact Nat.zero_le 2
    · simp [ofOption, DefaultValue.toJson, Json.depth, membersDepth, value.depth_toJson]
    · exact Nat.le_succ 1
  have hcomment : (ofOption .str column.comment).depth ≤ 0 := by
    cases column.comment <;> exact Nat.le_refl 0
  have hindex : (ofOption InlineIndex.toJson column.index).depth ≤ 1 := by
    rcases column.index with _ | ⟨unique, method, _ | name⟩
    · exact Nat.zero_le 1
    · exact Nat.le_refl 1
    · exact Nat.le_refl 1
  simp only [toJson, Json.depth, membersDepth]
  omega

theorem Column.isExact_map_toJson {columns : List Column}
    (h : Literal.AllFinite (columns.flatMap Column.literals)) :
    (Json.arr (columns.map Column.toJson)).IsExact :=
  isExact_arr_map fun column hcolumn => Column.isExact_toJson fun value hvalue =>
    h value (List.mem_flatMap.mpr ⟨column, hcolumn, hvalue⟩)

theorem LikeClause.isExact_toJson (clause : LikeClause) : clause.toJson.IsExact := by
  have hoptions : clause.options.toJson.IsExact := by
    cases clause.options with
    | selected options =>
      exact ⟨isExact_arr_map fun option _ => ⟨trivial, trivial, trivial⟩, trivial⟩
    | _ => trivial
  exact ⟨trivial, hoptions, trivial⟩

theorem PartitionBounds.isExact_toJson {bounds : PartitionBounds}
    (h : Literal.AllFinite bounds.literals) : bounds.toJson.IsExact := by
  cases bounds with
  | range lower upper =>
    have hlower := Literal.isExact_map_toJson fun value hvalue =>
      h value (List.mem_append_left upper hvalue)
    have hupper := Literal.isExact_map_toJson fun value hvalue =>
      h value (List.mem_append_right lower hvalue)
    exact ⟨⟨hlower, hupper, trivial⟩, trivial⟩
  | list values => exact ⟨Literal.isExact_map_toJson h, trivial⟩
  | hash modulus remainder =>
    exact ⟨⟨isMachineInt_uint32 modulus, isMachineInt_uint32 remainder, trivial⟩, trivial⟩
  | rest => trivial
  | raw clause => exact ⟨trivial, trivial⟩

theorem Command.isExact_toJson {command : Command} (h : Literal.AllFinite command.literals) :
    command.toJson.IsExact := by
  cases command with
  | createTable definition =>
    have hlike : (ofOption LikeClause.toJson definition.like).IsExact :=
      isExact_ofOption fun clause _ => clause.isExact_toJson
    exact ⟨trivial, Column.isExact_map_toJson h, trivial, hlike, trivial⟩
  | addColumns columns => exact ⟨trivial, Column.isExact_map_toJson h, trivial⟩
  | createIndex index =>
    have hpredicate : (ofOption Condition.toJson index.predicate).IsExact :=
      isExact_ofOption fun condition hcondition => Condition.isExact_toJson fun value hvalue =>
        h value (by simp_all [literals])
    exact ⟨trivial, isExact_ofOption fun _ _ => trivial, isExact_ofStrings index.columns, trivial,
      trivial, hpredicate, trivial⟩
  | createTrigger trigger =>
    have hevents : (Json.arr (trigger.events.map TriggerEvent.toJson)).IsExact := by
      apply isExact_arr_map
      intro event _
      cases event with
      | updateOf columns => exact ⟨isExact_ofStrings columns, trivial⟩
      | _ => trivial
    have harguments := Literal.isExact_map_toJson h
    exact ⟨trivial, trivial, trivial, hevents, trivial, trivial, trivial, trivial, harguments,
      trivial⟩
  | attachPartition partition bounds =>
    exact ⟨trivial, trivial, PartitionBounds.isExact_toJson h, trivial⟩
  | dropTable ifExists => exact ⟨trivial, trivial, trivial⟩
  | dropIndex name => exact ⟨trivial, trivial, trivial⟩
  | dropUnique name => exact ⟨trivial, trivial, trivial⟩
  | createView view => exact ⟨trivial, trivial, trivial, trivial, trivial⟩
  | dropView name materialized => exact ⟨trivial, trivial, trivial, trivial⟩
  | dropTrigger name => exact ⟨trivial, trivial, trivial⟩
  | detachPartition partition => exact ⟨trivial, trivial, trivial⟩

theorem Blueprint.isExact_toJson {b : Blueprint} (h : Literal.AllFinite b.literals) :
    b.toJson.IsExact := by
  have hcommands : (Json.arr (b.commands.map Command.toJson)).IsExact :=
    isExact_arr_map fun command hcommand => Command.isExact_toJson fun value hvalue =>
      h value (List.mem_flatMap.mpr ⟨command, hcommand, hvalue⟩)
  exact ⟨trivial, hcommands, trivial⟩

end SchemaDraft
