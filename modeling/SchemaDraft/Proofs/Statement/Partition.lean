import SchemaDraft.Proofs.Statement.Sealed
import SchemaDraft.Proofs.Statement.Trigger

/-!
What the statement that attaches a partition tells. Which kind of bounds it has shows in the words
before the values, and the values end with a parenthesis that no value contains outside quotes.
-/

namespace SchemaDraft

open Sql Postgres

/-- Bounds of the same kind with the same texts in the same order. A clause of the user's own is
like no other bounds. -/
inductive PartitionBounds.SpelledAlike (d : Dialect) : PartitionBounds → PartitionBounds → Prop where
  | range {lower upper lower' upper' : List Literal} (hlower : d.WritesAlike lower lower')
    (hupper : d.WritesAlike upper upper') :
    SpelledAlike d (.range lower upper) (.range lower' upper')
  | list {values values' : List Literal} (h : d.WritesAlike values values') :
    SpelledAlike d (.list values) (.list values')
  | hash (modulus remainder : UInt32) :
    SpelledAlike d (.hash modulus remainder) (.hash modulus remainder)
  | rest : SpelledAlike d .rest .rest

/-- Commands that create triggers, or that attach partitions, and spell everything alike. -/
inductive Command.SpelledAlike (d : Dialect) : Command → Command → Prop where
  | trigger {trigger other : Trigger} (h : trigger.SpelledAlike d other) :
    SpelledAlike d (.createTrigger trigger) (.createTrigger other)
  | attachment {partition other : String} {bounds bounds' : PartitionBounds}
    (hname : d.quoteIdentifier partition = d.quoteIdentifier other)
    (hbounds : bounds.SpelledAlike d bounds') :
    SpelledAlike d (.attachPartition partition bounds) (.attachPartition other bounds')

namespace PartitionBounds

variable {partition text : String} {bounds other : PartitionBounds}

/-- The text of bounds, by their kind. -/
inductive TextForm : PartitionBounds → List Char → Prop where
  | range {site : LiteralSite} {lower upper : List Literal} {lowerText upperText : String}
    (hlower : dialect.tupleAt site lower = .ok lowerText)
    (hupper : dialect.tupleAt site upper = .ok upperText) :
    TextForm (.range lower upper) ("FOR VALUES FROM ".toList ++ (lowerText.toList ++
      (" TO ".toList ++ (upperText.toList ++ []))))
  | list {site : LiteralSite} {values : List Literal} {text : String}
    (h : dialect.tupleAt site values = .ok text) :
    TextForm (.list values) ("FOR VALUES IN ".toList ++ (text.toList ++ []))
  | hash (modulus remainder : UInt32) :
    TextForm (.hash modulus remainder) ("FOR VALUES WITH (MODULUS ".toList ++
      (modulus.toNat.repr.toList ++ ',' :: (" REMAINDER ".toList ++
        (remainder.toNat.repr.toList ++ [')']))))
  | rest : TextForm .rest "DEFAULT".toList

theorem textForm_of_render (hfree : bounds.verbatimFree = true)
    (h : bounds.render dialect partition = .ok text) : TextForm bounds text.toList := by
  cases bounds with
  | range lower upper =>
    simp only [render, bind_eq_ok, pure_eq_ok] at h
    obtain ⟨lowerText, hlower, upperText, hupper, rfl⟩ := h
    simpa using TextForm.range hlower hupper
  | list values =>
    simp only [render, bind_eq_ok, pure_eq_ok] at h
    obtain ⟨valuesText, hvalues, rfl⟩ := h
    simpa using TextForm.list hvalues
  | hash modulus remainder =>
    obtain rfl := pure_eq_ok.mp h
    simpa using TextForm.hash modulus remainder
  | rest =>
    obtain rfl := pure_eq_ok.mp h
    exact .rest
  | raw clause => cases hfree

theorem TextForm.spelledAlike {text text' : List Char} (h : TextForm bounds text)
    (h' : TextForm other text') (hsame : text = text') : bounds.SpelledAlike dialect other := by
  cases h with
  | range hlower hupper =>
    cases h' with
    | range hlower' hupper' =>
      obtain ⟨hfrom, hrest⟩ := tuple_append_inj hlower hlower' (List.append_cancel_left hsame)
      obtain ⟨hto, -⟩ := tuple_append_inj hupper hupper' (List.append_cancel_left hrest)
      exact .range hfrom hto
    | list | hash | rest => simp at hsame
  | list hvalues =>
    cases h' with
    | list hvalues' =>
      exact .list (tuple_append_inj hvalues hvalues' (List.append_cancel_left hsame)).1
    | range | hash | rest => simp at hsame
  | hash modulus remainder =>
    cases h' with
    | hash modulus' remainder' =>
      obtain ⟨hmodulus, hrest⟩ := number_append_inj (List.append_cancel_left hsame)
      obtain ⟨hremainder, -⟩ := number_append_inj (List.append_cancel_left hrest)
      obtain rfl := UInt32.toNat_inj.mp hmodulus
      obtain rfl := UInt32.toNat_inj.mp hremainder
      exact .hash _ _
    | range | list | rest => simp at hsame
  | rest =>
    cases h' with
    | rest => exact .rest
    | range | list | hash => simp at hsame

theorem SpelledAlike.render_eq {d : Dialect} (h : bounds.SpelledAlike d other)
    (partition partition' : String) :
    bounds.render d partition = other.render d partition' := by
  cases h with
  | range hlower hupper =>
    rw [render, render, hlower.tupleAt_eq _ (.partitionBounds partition'),
      hupper.tupleAt_eq _ (.partitionBounds partition')]
  | list h => rw [render, render, h.tupleAt_eq _ (.partitionBounds partition')]
  | hash | rest => rfl

end PartitionBounds

variable {table partition partition' sql : String} {bounds bounds' : PartitionBounds}

theorem spelledAlike_of_renderAttachment (hfree : bounds.verbatimFree = true)
    (hfree' : bounds'.verbatimFree = true)
    (h : renderAttachment dialect table partition bounds = .ok sql)
    (h' : renderAttachment dialect table partition' bounds' = .ok sql) :
    quoteIdentifier partition = quoteIdentifier partition' ∧
      bounds.SpelledAlike dialect bounds' := by
  simp only [renderAttachment, bind_eq_ok, pure_eq_ok] at h h'
  obtain ⟨text', htext', rfl⟩ := h'
  obtain ⟨text, htext, hsame⟩ := h
  have hsame := congrArg String.toList hsame
  simp only [String.toList_append, List.append_assoc] at hsame
  obtain ⟨-, h⟩ := quoteIdentifier_append_inj (List.append_cancel_left hsame)
  obtain ⟨hname, h⟩ := quoteIdentifier_append_inj (List.append_cancel_left h)
  have hform := PartitionBounds.textForm_of_render hfree htext
  have hform' := PartitionBounds.textForm_of_render hfree' htext'
  exact ⟨hname, hform.spelledAlike hform' h⟩

theorem renderAttachment_eq_of_spelledAlike {d : Dialect}
    (hname : d.quoteIdentifier partition = d.quoteIdentifier partition')
    (hbounds : bounds.SpelledAlike d bounds') :
    renderAttachment d table partition bounds = renderAttachment d table partition' bounds' := by
  rw [renderAttachment, renderAttachment, hbounds.render_eq partition partition', hname]

/-- A statement that creates a trigger begins unlike one that alters a table. -/
theorem Trigger.render_ne_of_renderAttachment {trigger : Trigger}
    (h : renderAttachment dialect table partition bounds = .ok sql) :
    trigger.render dialect ≠ .ok sql := by
  intro htrigger
  simp only [renderAttachment, bind_eq_ok, pure_eq_ok] at h
  simp only [Trigger.render, bind_eq_ok, pure_eq_ok] at htrigger
  obtain ⟨_, _, rfl⟩ := h
  obtain ⟨_, _, hsame⟩ := htrigger
  simpa using congrArg String.toList hsame

namespace Command

variable {command other : Command} {rendering rendering' : Rendering}

/-- The only statement of a command that creates a trigger or attaches a partition. -/
inductive SingleForm (table : String) : Command → List String → Prop where
  | trigger {trigger : Trigger} {sql : String} (hvalid : trigger.faults = [])
    (h : trigger.render dialect = .ok sql) : SingleForm table (.createTrigger trigger) [sql]
  | attachment {partition sql : String} {bounds : PartitionBounds}
    (hfree : bounds.verbatimFree = true)
    (h : renderAttachment dialect table partition bounds = .ok sql) :
    SingleForm table (.attachPartition partition bounds) [sql]

theorem singleForm_of_render (hkind : command.kind ∈ ["create_trigger", "attach_partition"])
    (hvalid : command.faults table = []) (hfree : command.verbatimFree = true)
    (h : command.render dialect table = .ok rendering) :
    SingleForm table command rendering.statements := by
  cases command with
  | createTrigger trigger =>
    simp only [Command.render, bind_eq_ok, pure_eq_ok] at h
    obtain ⟨sql, hsql, rfl⟩ := h
    exact .trigger hvalid hsql
  | attachPartition partition bounds =>
    simp only [Command.render, bind_eq_ok, pure_eq_ok] at h
    obtain ⟨sql, hsql, rfl⟩ := h
    exact .attachment hfree hsql
  | _ => simp [kind] at hkind

theorem SingleForm.eq_iff {statements statements' : List String}
    (h : SingleForm table command statements) (h' : SingleForm table other statements') :
    statements = statements' ↔ command.SpelledAlike dialect other := by
  constructor
  · intro hsame
    cases h with
    | trigger hvalid hsql =>
      cases h' with
      | trigger hvalid' hsql' =>
        obtain rfl := (List.cons.inj hsame).1
        exact .trigger (Trigger.spelledAlike_of_render hvalid hvalid' hsql hsql')
      | attachment _ hsql' =>
        obtain rfl := (List.cons.inj hsame).1
        exact absurd hsql (Trigger.render_ne_of_renderAttachment hsql')
    | attachment hfree hsql =>
      cases h' with
      | trigger _ hsql' =>
        obtain rfl := (List.cons.inj hsame).1
        exact absurd hsql' (Trigger.render_ne_of_renderAttachment hsql)
      | attachment hfree' hsql' =>
        obtain rfl := (List.cons.inj hsame).1
        obtain ⟨hname, hbounds⟩ := spelledAlike_of_renderAttachment hfree hfree' hsql hsql'
        exact .attachment hname hbounds
  · rintro (halike | ⟨hname, hbounds⟩)
    · cases h with
      | trigger _ hsql =>
        cases h' with
        | trigger _ hsql' =>
          rw [halike.render_eq, hsql'] at hsql
          rw [Except.ok.inj hsql]
    · cases h with
      | attachment _ hsql =>
        cases h' with
        | attachment _ hsql' =>
          rw [renderAttachment_eq_of_spelledAlike hname hbounds, hsql'] at hsql
          rw [Except.ok.inj hsql]

/-- Two commands that create triggers or attach partitions to a table, without faults and clauses of
the user's own, have the same statement exactly if they spell everything alike. -/
theorem statement_eq_iff_spelledAlike
    (hkind : command.kind ∈ ["create_trigger", "attach_partition"])
    (hkind' : other.kind ∈ ["create_trigger", "attach_partition"])
    (hvalid : command.faults table = []) (hvalid' : other.faults table = [])
    (hfree : command.verbatimFree = true) (hfree' : other.verbatimFree = true)
    (hrender : command.render dialect table = .ok rendering)
    (hrender' : other.render dialect table = .ok rendering') :
    rendering.statements = rendering'.statements ↔ command.SpelledAlike dialect other := by
  have hform := singleForm_of_render hkind hvalid hfree hrender
  have hform' := singleForm_of_render hkind' hvalid' hfree' hrender'
  exact hform.eq_iff hform'

/-- Names that hold what stands between the parts, with quotes of their own and without, and values
of different kinds with the same text. -/
theorem statement_eq_iff_spelledAlike_misleading :
    let trigger : Trigger :=
      { name := "a ON b", timing := .insteadOf, events := [.updateOf ["x OR y", "z"], .insert],
        table := "s.V", function := "f", arguments := [.text "2024-02-29"] }
    let other : Trigger :=
      { name := "\"a ON b\"", timing := .insteadOf,
        events := [.updateOf ["\"x OR y\"", "z"], .insert], table := "s.\"V\"", function := "f",
        arguments := [.date ⟨2024, 2, 29, by decide⟩] }
    let sql := "CREATE TRIGGER \"a ON b\" INSTEAD OF UPDATE OF \"x OR y\", z OR INSERT ON " ++
      "s.\"V\" FOR EACH ROW EXECUTE FUNCTION f('2024-02-29')"
    let lower : List Literal := [.text ") TO (", .integer 1]
    let attachment := "ALTER TABLE t ATTACH PARTITION \"P\" FOR VALUES FROM (') TO (', 1) TO ()"
    (Command.createTrigger trigger).faults "t" = [] ∧ (Command.createTrigger other).faults "t" = [] ∧
      (Command.createTrigger trigger).render dialect "t" = .ok (.single sql) ∧
      (Command.createTrigger other).render dialect "t" = .ok (.single sql) ∧
      (Command.createTrigger trigger).SpelledAlike dialect (.createTrigger other) ∧
      (Command.attachPartition "P" (.range lower [])).render dialect "t" =
        .ok (.single attachment) ∧
      (Command.attachPartition "\"P\"" (.range lower [])).render dialect "t" =
        .ok (.single attachment) ∧
      (Command.attachPartition "P" (.range lower [])).SpelledAlike dialect
        (.attachPartition "\"P\"" (.range lower [])) := by
  intro trigger other sql lower attachment
  have hvalid : (Command.createTrigger trigger).faults "t" = [] := by decide +kernel
  have hvalid' : (Command.createTrigger other).faults "t" = [] := by decide +kernel
  have hrender : (Command.createTrigger trigger).render dialect "t" = .ok (.single sql) := by
    decide +kernel
  have hrender' : (Command.createTrigger other).render dialect "t" = .ok (.single sql) := by
    decide +kernel
  have halike : (Command.createTrigger trigger).SpelledAlike dialect (.createTrigger other) :=
    (statement_eq_iff_spelledAlike (by decide) (by decide) hvalid hvalid' rfl rfl hrender
      hrender').mp rfl
  have hattached : (Command.attachPartition "P" (.range lower [])).render dialect "t" =
      .ok (.single attachment) := by decide +kernel
  have hattached' : (Command.attachPartition "\"P\"" (.range lower [])).render dialect "t" =
      .ok (.single attachment) := by decide +kernel
  exact ⟨hvalid, hvalid', hrender, hrender', halike, hattached, hattached',
    (statement_eq_iff_spelledAlike (by decide) (by decide) rfl rfl rfl rfl hattached
      hattached').mp rfl⟩

end Command

end SchemaDraft
