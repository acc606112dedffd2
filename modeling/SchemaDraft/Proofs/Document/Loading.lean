import SchemaDraft.Document
import SchemaDraft.Proofs.Blueprint.Json

/-!
Values written as JSON text and read again, and files of blueprints that have been written so. What
is asked of a value is that its floats have text, and that its containers nest no deeper than a file
may; only conditions can nest that deep. Whether the value then comes back as it was depends on the
leap seconds in it alone.
-/

namespace SchemaDraft

open Json

/-- Reads a value from a text. -/
def decode? {α : Type} (read : Json → Option α) (text : String) : Option α :=
  (Json.read? documentDepth text).bind read

theorem decode?_print {α : Type} {read : Json → Option α} {json : Json} {a : α}
    (hexact : json.IsExact) (hdepth : json.depth ≤ documentDepth) (hread : read json = some a) :
    decode? read json.print = some a := by
  rw [decode?, read?_print hexact hdepth]
  exact hread

theorem fromUTF8?_toUTF8 (text : String) : String.fromUTF8? text.toUTF8 = some text := by
  rw [String.fromUTF8?, String.toUTF8_eq_toByteArray, dif_pos text.isValidUTF8]
  rfl

/-- The file whose bytes are the text of a value. -/
def SourceFile.ofJson (path : String) (json : Json) : SourceFile :=
  ⟨path, .bytes json.print.toUTF8⟩

theorem SourceFile.load_ofJson {path : String} {json : Json} {blueprints : List Blueprint}
    (hexact : json.IsExact) (hdepth : json.depth ≤ documentDepth)
    (hread : Blueprint.ofDocument? json = some blueprints) :
    (SourceFile.ofJson path json).load = .ok blueprints := by
  have hdecode : (Json.read? documentDepth json.print).bind Blueprint.ofDocument? =
      some blueprints := decode?_print hexact hdepth hread
  simp only [SourceFile.load, SourceFile.ofJson, FileContent.text, fromUTF8?_toUTF8, hdecode]

theorem Blueprint.ofDocument?_toJson (b : Blueprint) :
    ofDocument? b.toJson = some [b.mapLiterals Literal.asWritten] := by
  rw [ofDocument?, ofJson?_toJson]

theorem Blueprint.ofDocument?_arr (blueprints : List Blueprint) :
    ofDocument? (.arr (blueprints.map toJson)) =
      some (blueprints.map (mapLiterals Literal.asWritten)) := by
  have hnot : ofJson? (.arr (blueprints.map toJson)) = none := rfl
  rw [ofDocument?, hnot]
  exact list?_map ofJson?_toJson blueprints

/-- Every value whose floats are finite is read from its text, and so are files of blueprints: one
that holds an array as the blueprints of the array, one that holds a blueprint as this one. A leap
second in the midst of a minute comes back as the moment that it is written as, and nothing else
changes. So a value comes back as it was exactly if all leap seconds in it are at the end of a
minute. -/
theorem decode_toJson_and_load :
    (∀ value : Literal, value.isFinite = true →
      decode? (Literal.ofJson? .alone) value.toJson.print = some value.asWritten ∧
      (value.asWritten = value ↔ value.hasOwnText = true)) ∧
    (∀ c : Condition, Literal.AllFinite c.literals → c.toJson.depth ≤ documentDepth →
      decode? Condition.ofJson? c.toJson.print = some (c.mapLiterals Literal.asWritten) ∧
      (c.mapLiterals Literal.asWritten = c ↔ Literal.AllOwnText c.literals)) ∧
    (∀ column : Column, Literal.AllFinite column.literals →
      decode? (Column.ofJson? .alone) column.toJson.print =
        some (column.mapLiterals Literal.asWritten) ∧
      (column.mapLiterals Literal.asWritten = column ↔ Literal.AllOwnText column.literals)) ∧
    (∀ command : Command, Literal.AllFinite command.literals →
      command.toJson.depth ≤ documentDepth →
      decode? Command.ofJson? command.toJson.print =
        some (command.mapLiterals Literal.asWritten) ∧
      (command.mapLiterals Literal.asWritten = command ↔ Literal.AllOwnText command.literals)) ∧
    (∀ b : Blueprint, Literal.AllFinite b.literals → b.toJson.depth ≤ documentDepth →
      decode? Blueprint.ofJson? b.toJson.print = some (b.mapLiterals Literal.asWritten) ∧
      (∀ path, (SourceFile.ofJson path b.toJson).load =
        .ok [b.mapLiterals Literal.asWritten]) ∧
      (b.mapLiterals Literal.asWritten = b ↔ Literal.AllOwnText b.literals)) ∧
    ∀ blueprints : List Blueprint, (∀ b ∈ blueprints, Literal.AllFinite b.literals) →
      (Json.arr (blueprints.map Blueprint.toJson)).depth ≤ documentDepth →
      (∀ path, (SourceFile.ofJson path (.arr (blueprints.map Blueprint.toJson))).load =
        .ok (blueprints.map (Blueprint.mapLiterals Literal.asWritten))) ∧
      (blueprints.map (Blueprint.mapLiterals Literal.asWritten) = blueprints ↔
        ∀ b ∈ blueprints, Literal.AllOwnText b.literals) := by
  have hfixed (values : List Literal) :
      (∀ value ∈ values, value.asWritten = value) ↔ Literal.AllOwnText values :=
    Literal.forall_asWritten_eq_self_iff
  refine ⟨?_, ?_, ?_, ?_, ?_, ?_⟩
  · intro value hfinite
    have hdepth : value.toJson.depth ≤ documentDepth := by
      rw [value.depth_toJson]
      decide
    exact ⟨decode?_print (Literal.isExact_toJson hfinite) hdepth (value.ofJson?_toJson .alone),
      Literal.asWritten_eq_self_iff⟩
  · intro c hfinite hdepth
    exact ⟨decode?_print (Condition.isExact_toJson hfinite) hdepth c.ofJson?_toJson,
      Condition.mapLiterals_eq_self_iff.trans (hfixed _)⟩
  · intro column hfinite
    have hdepth := column.depth_toJson_le.trans (by decide : 3 ≤ documentDepth)
    exact ⟨decode?_print (Column.isExact_toJson hfinite) hdepth (column.ofJson?_toJson .alone),
      column.mapLiterals_eq_self_iff.trans (hfixed _)⟩
  · intro command hfinite hdepth
    exact ⟨decode?_print (Command.isExact_toJson hfinite) hdepth command.ofJson?_toJson,
      command.mapLiterals_eq_self_iff.trans (hfixed _)⟩
  · intro b hfinite hdepth
    have hexact := Blueprint.isExact_toJson hfinite
    exact ⟨decode?_print hexact hdepth b.ofJson?_toJson,
      fun path => SourceFile.load_ofJson hexact hdepth b.ofDocument?_toJson,
      b.mapLiterals_eq_self_iff.trans (hfixed _)⟩
  · intro blueprints hfinite hdepth
    have hexact := isExact_arr_map fun b hb => Blueprint.isExact_toJson (hfinite b hb)
    refine ⟨fun path => SourceFile.load_ofJson hexact hdepth
      (Blueprint.ofDocument?_arr blueprints), ?_⟩
    rw [map_eq_self_iff_flatMap Blueprint.mapLiterals_eq_self_iff, List.forall_mem_flatMap]
    simp only [hfixed]

/-- A leap second in the midst of a minute does not come back. -/
theorem decode_toJson_midMinute_ne :
    let value : Literal := .timestamp Timestamp.midMinute
    value.isFinite = true ∧
      decode? (Literal.ofJson? .alone) value.toJson.print = some (.timestamp Timestamp.afterMidMinute) ∧
      decode? (Literal.ofJson? .alone) value.toJson.print ≠ some value := by
  decide +kernel

/-- The least float above zero. -/
def leastFloat : Literal := .float (.finite false ⟨1, by decide⟩)

/-- A float with as many digits as one can have, a text that is escaped, and the first day. -/
def nestedCondition : Condition :=
  .conjunction
    (.membership "a\"b" [.float (.finite true ⟨9218868437227405311, by decide⟩), .text "\\\x01\n"]
      true)
    (.disjunction (.between "day" (.date ⟨-262143, 1, 1, by decide⟩) .null false)
      (.fragment "x <> ?" [.integer Int64.minValue]))

/-- A column whose default is a leap second. -/
def momentColumn : Column :=
  { name := "at", type := .timestamp (some 6), comment := some "",
    defaultValue := some (.literal (.timestamp
      { date := ⟨262142, 12, 31, by decide⟩, hour := 23, minute := 59, second := 59,
        nanosecond := 1999999999 })),
    index := some { unique := true, name := some "once" } }

def partialIndex : Command :=
  .createIndex { columns := ["day"], unique := true, predicate := some nestedCondition }

def eventsBlueprint : Blueprint :=
  { table := "events",
    commands :=
      [.createTable { columns := [momentColumn], like := some ⟨"other", .selected []⟩ },
       partialIndex, .attachPartition "part" (.range [leastFloat] [.null])] }

def momentBlueprint (t : Timestamp) : Blueprint :=
  { table := "", commands := [.attachPartition "part" (.list [.timestamp t])] }

def allBlueprints : List Blueprint := [eventsBlueprint, momentBlueprint .midMinute]

/-- All values come back but the leap second in the midst of a minute. -/
theorem decode_toJson_and_load_events :
    (leastFloat.isFinite = true ∧
      decode? (Literal.ofJson? .alone) leastFloat.toJson.print = some leastFloat) ∧
    ((Literal.AllFinite nestedCondition.literals ∧ nestedCondition.toJson.depth ≤ documentDepth) ∧
      decode? Condition.ofJson? nestedCondition.toJson.print = some nestedCondition) ∧
    (Literal.AllFinite momentColumn.literals ∧
      decode? (Column.ofJson? .alone) momentColumn.toJson.print = some momentColumn) ∧
    ((Literal.AllFinite partialIndex.literals ∧ partialIndex.toJson.depth ≤ documentDepth) ∧
      decode? Command.ofJson? partialIndex.toJson.print = some partialIndex) ∧
    ((Literal.AllFinite eventsBlueprint.literals ∧
        eventsBlueprint.toJson.depth ≤ documentDepth) ∧
      (SourceFile.ofJson "events.json" eventsBlueprint.toJson).load = .ok [eventsBlueprint]) ∧
    (((∀ b ∈ allBlueprints, Literal.AllFinite b.literals) ∧
        (Json.arr (allBlueprints.map Blueprint.toJson)).depth ≤ documentDepth) ∧
      (SourceFile.ofJson "all.json" (.arr (allBlueprints.map Blueprint.toJson))).load =
        .ok [eventsBlueprint, momentBlueprint .afterMidMinute]) := by
  obtain ⟨hliteral, hcondition, hcolumn, hcommand, hblueprint, hlist⟩ := decode_toJson_and_load
  have hfloat : leastFloat.isFinite = true := rfl
  have hvalues : Literal.AllFinite nestedCondition.literals := by decide
  have hnesting : nestedCondition.toJson.depth ≤ documentDepth := by decide
  have hmoment : Literal.AllFinite momentColumn.literals := by decide
  have hindex : partialIndex.toJson.depth ≤ documentDepth := by decide
  have hevents : Literal.AllFinite eventsBlueprint.literals := by decide
  have hdepth : eventsBlueprint.toJson.depth ≤ documentDepth := by decide
  have hall : ∀ b ∈ allBlueprints, Literal.AllFinite b.literals := by decide
  have hallDepth : (Json.arr (allBlueprints.map Blueprint.toJson)).depth ≤ documentDepth := by
    decide
  -- What comes back as it was has no leap second in the midst of a minute.
  have hown : Literal.AllOwnText nestedCondition.literals ∧
      Literal.AllOwnText momentColumn.literals ∧
      Literal.AllOwnText eventsBlueprint.literals := by decide
  obtain ⟨hnestedOwn, hmomentOwn, heventsOwn⟩ := hown
  obtain ⟨hliteralRead, hliteralSame⟩ := hliteral _ hfloat
  obtain ⟨hconditionRead, hconditionSame⟩ := hcondition _ hvalues hnesting
  obtain ⟨hcolumnRead, hcolumnSame⟩ := hcolumn _ hmoment
  obtain ⟨hcommandRead, hcommandSame⟩ := hcommand partialIndex hvalues hindex
  obtain ⟨-, hblueprintLoad, hblueprintSame⟩ := hblueprint _ hevents hdepth
  rw [hliteralSame.mpr rfl] at hliteralRead
  rw [hconditionSame.mpr hnestedOwn] at hconditionRead
  rw [hcolumnSame.mpr hmomentOwn] at hcolumnRead
  rw [hcommandSame.mpr hnestedOwn] at hcommandRead
  rw [hblueprintSame.mpr heventsOwn] at hblueprintLoad
  have hallRead : allBlueprints.map (Blueprint.mapLiterals Literal.asWritten) =
      [eventsBlueprint, momentBlueprint .afterMidMinute] := by decide +kernel
  have hallLoad := (hlist _ hall hallDepth).1 "all.json"
  rw [hallRead] at hallLoad
  exact ⟨⟨hfloat, hliteralRead⟩, ⟨⟨hvalues, hnesting⟩, hconditionRead⟩, ⟨hmoment, hcolumnRead⟩,
    ⟨⟨hvalues, hindex⟩, hcommandRead⟩, ⟨⟨hevents, hdepth⟩, hblueprintLoad "events.json"⟩,
    ⟨⟨hall, hallDepth⟩, hallLoad⟩⟩

end SchemaDraft
