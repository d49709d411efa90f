import ColumnLineage.Lineage.Detector
import ColumnLineage.Lineage.Resolve
/-
ColumnLineage/Lineage/Analyze.lean

The lineage of whole statements. A statement is walked into scopes, then
each output of its outermost scope is followed to its sources. The outputs
are named after the target's column list when the statement has one of the
right length, and after themselves otherwise, which is then reported. One
statement failing never stops the others of a batch: its report carries the
error with whatever was computed before it, and a warning is logged.
-/

namespace ColumnLineage

open Sql

/-- The names of the target columns for the outputs `outputs`: the target's
own list when it matches them in number, else the outputs' names, with the
mismatch as the error. -/
def targetNames (outputs : List Field) (target : Option Target) :
    List String × Option LineageError :=
  match target with
  | some t =>
    if t.columns.isEmpty then (outputs.map (·.name), none)
    else if t.columns.length == outputs.length then (t.columns, none)
    else (outputs.map (·.name), some (.positionalMismatch t.columns.length outputs.length))
  | none => (outputs.map (·.name), none)

/-- Follows named outputs to their sources in order, stopping at the first
failure: the lineage found before it, and the failure. -/
def resolveOutputs (arena : ScopeArena) (maxDepth : Nat) (table : Option TableName) :
    List (Field × String) → Resolve (List TargetLineage × Option LineageError)
  | [] => pure ([], none)
  | (f, name) :: rest => do
    match ← tryCatch (Except.ok <$> sourcesOf arena maxDepth f) (fun e => pure (.error e)) with
    | .error e => pure ([], some e)
    | .ok sources =>
      let (more, err) ← resolveOutputs arena maxDepth table rest
      pure ({ target := { table, field := name }, sources, transformation := f.process } :: more,
        err)

/-- The sources of each of `fs`, or the failure met following it, with one
walk shared by all of them: what one finds is reused by the next. Answers the
warnings of the walk too. -/
def sourcesOfEach (arena : ScopeArena) (maxDepth : Nat) (fs : List Field) :
    List (Except LineageError SourceSet) × List LineageError :=
  let step := fun (f : Field) => tryCatch (Except.ok <$> sourcesOf arena maxDepth f)
    (fun e => pure (Except.error e))
  let (result, st) := (fs.mapM step).run.run {}
  match result with
  | .ok rs => (rs, st.warnings)
  | .error _ => ([], st.warnings)

/-- The warning logged when the analysis of statement `index` stops at
`e`; `message` tells at which stage. -/
def failureEvent (message : String) (index : Nat) (e : LineageError) : Log.Event :=
  { level := .warn, target := LogTarget.analysis, message,
    fields := [("statement", toString index), ("error", e.message)] }

/-- The report for statement number `index`. -/
def analyzeStatement (catalog : Catalog) (maxDepth : Nat) (index : Nat) (st : Statement) :
    StatementReport :=
  let (outcome, d) := (Detector.new catalog maxDepth).detect st
  let targetTable := d.target.bind (·.table)
  let base : StatementReport :=
    { index, targetTable, lineage := [], warnings := d.warnings, error := none, events := d.events }
  match outcome with
  | .error e =>
    { base with
      error := some e
      events := d.events ++ [failureEvent "statement analysis failed" index e] }
  | .ok () =>
    match d.root.bind d.arena.get? with
    | none => { base with error := some (.malformed "statement has no query body") }
    | some root =>
      let (names, mismatch) := targetNames root.fields d.target
      let table := if mismatch.isSome then none else targetTable
      let (result, st) := (resolveOutputs d.arena maxDepth table (root.fields.zip names)).run.run {}
      let (lineage, failure) := match result with
        | .ok r => r
        | .error e => ([], some e)
      { base with
        lineage := lineage
        warnings := d.warnings ++ st.warnings
        error := failure <|> mismatch
        events := d.events ++
          (failure.map (failureEvent "lineage resolution stopped" index)).toList }

/-- The reports for a batch of statements, in order. -/
def analyzeStatements (catalog : Catalog) (maxDepth : Nat) (sts : List Statement) :
    List StatementReport :=
  sts.zipIdx.map fun (st, i) => analyzeStatement catalog maxDepth i st

end ColumnLineage
