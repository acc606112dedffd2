import SchemaDraft.Proofs.Blueprint.Names
import SchemaDraft.Sql.Postgres

/-!
The empty name. Whatever passes the search for faults has no empty name in it, and the conventional
name of an index is never empty either, so how a dialect would spell the empty name shows nowhere:
two dialects that differ in nothing else give the same result.
-/

namespace SchemaDraft

/-- Two dialects write all literals alike, and spell all names alike but perhaps the empty one. -/
structure Dialect.AgreesUpToEmpty (d d' : Dialect) : Prop where
  literal : ∀ value, d.formatLiteral value = d'.formatLiteral value
  name : ∀ name, name ≠ "" → d.quoteIdentifier name = d'.quoteIdentifier name

theorem Dialect.AgreesUpToEmpty.commands {d d' : Dialect} {table : String}
    (h : d.AgreesUpToEmpty d') (htable : table ≠ "") {commands : List Command}
    (hfaults : ∀ command ∈ commands, command.faults table = []) :
    Blueprint.renderCommands d table commands = Blueprint.renderCommands d' table commands := by
  have hnonempty : d.AgreesOn (· ≠ "") d' := ⟨h.literal, h.name⟩
  exact hnonempty.commands fun command hmem => Command.names_ne_empty htable (hfaults command hmem)

/-- No dialect is asked to spell an empty name: two dialects that write all literals alike and spell
all other names alike compile every blueprint to the same statements or the same error, with the
same events on the way. -/
theorem Blueprint.compilation_eq_of_agreesUpToEmpty {d d' : Dialect} (h : d.AgreesUpToEmpty d')
    (b : Blueprint) : b.compile d = b.compile d' ∧ b.compilation d = b.compilation d' := by
  have hcompilation : b.compilation d = b.compilation d' := by
    unfold compilation
    cases hfaults : b.faults with
    | cons fault others => rfl
    | nil =>
      obtain ⟨htable, hcommands⟩ := Blueprint.faults_eq_nil.mp hfaults
      exact h.commands htable hcommands
  exact ⟨congrArg Compilation.result hcompilation, hcompilation⟩

/-- A dialect of its own mind about the empty name gives the same statements, also where a name is
made up, and the same error where a name is empty. -/
theorem Blueprint.compilation_eq_of_agreesUpToEmpty_unnamed :
    let spell (name : String) : String := if name = "" then "?" else Sql.quoteIdentifier name
    let d : Dialect := { Postgres.dialect with quoteIdentifier := spell }
    let column : Column := { name := "a", type := .text, index := some { unique := true } }
    let named : Blueprint := { table := "t", commands := [.addColumns [column]] }
    let unnamed : Blueprint :=
      { table := "t", commands := [.createTrigger
        { name := "x", timing := .after, events := [.updateOf [""]], table := "t",
          function := "f" }] }
    d.quoteIdentifier "" ≠ Postgres.dialect.quoteIdentifier "" ∧
      d.AgreesUpToEmpty Postgres.dialect ∧
      named.compile d = .ok ["ALTER TABLE t ADD COLUMN a text NOT NULL",
        "ALTER TABLE t ADD CONSTRAINT t_a_unique UNIQUE (a)"] ∧
      unnamed.compile d = .error (.structure (.emptyUpdateColumns "x")) := by
  intro spell d column named unnamed
  have hagree : d.AgreesUpToEmpty Postgres.dialect :=
    ⟨fun _ => rfl, fun name hname => if_neg hname⟩
  refine ⟨by decide, hagree, ?_, ?_⟩
  · rw [(compilation_eq_of_agreesUpToEmpty hagree named).1]
    decide +kernel
  · rw [(compilation_eq_of_agreesUpToEmpty hagree unnamed).1]
    decide +kernel

end SchemaDraft
