import ColumnLineage.Proofs.Evaluate
/-
ColumnLineage/Proofs/Reports.lean

The lineage a statement reports, run on fixed inputs. `analyzeStatement`
follows the outputs of a statement with the walk to sources, which neither
`decide` nor the kernel can run; `lineageOf` computes the same lineage and
error with the bounded walk of `Evaluate`, and answers `none` when a bound ran
out.

Main statement (`lineageOf_eq`): where the bounded computation finishes, its
lineage and its error are those the report of the statement carries. A fact
about the report of a fixed statement is then proved by running `lineageOf`
with `decide`.
-/

namespace ColumnLineage

deriving instance DecidableEq for TargetLineage

namespace Resolve.Bounded

open Run

/-- Follows named outputs in turn as `ColumnLineage.resolveOutputs` does, each
output within `fuel` calls. -/
def resolveOutputs (fuel : Nat) (arena : ScopeArena) (maxDepth : Nat) (table : Option TableName) :
    List (Field × String) → Walk (List TargetLineage × Option LineageError)
  | [] => pure ([], none)
  | (f, name) :: rest => do
    match ← tryCatch (Except.ok <$> field true arena maxDepth fuel 0 f)
        (fun e => pure (.error e)) with
    | .error e => pure ([], some e)
    | .ok sources =>
      let (more, err) ← resolveOutputs fuel arena maxDepth table rest
      pure ({ target := { table, field := name }, sources, transformation := f.process } :: more,
        err)

theorem resolveOutputs_finishes (fuel : Nat) (arena : ScopeArena) (maxDepth : Nat)
    (table : Option TableName) : ∀ outs,
    Finishes (ColumnLineage.resolveOutputs arena maxDepth table outs)
      (resolveOutputs fuel arena maxDepth table outs)
  | [] => Finishes.pure _
  | (f, name) :: rest => by
    simp only [ColumnLineage.resolveOutputs, resolveOutputs]
    refine Finishes.bind (Finishes.catch (field_finishes fuel 0 f)) fun r => ?_
    cases r with
    | error e => exact Finishes.pure _
    | ok sources =>
      exact Finishes.bind (resolveOutputs_finishes fuel arena maxDepth table rest)
        fun _ => Finishes.pure _

/-- The lineage of a statement and the error reported with it, each output
followed within `fuel` calls; `none` when a bound ran out. -/
def lineageOf (fuel : Nat) (catalog : Catalog) (maxDepth : Nat) (st : Sql.Statement) :
    Option (List TargetLineage × Option LineageError) :=
  let (outcome, d) := (Detector.new catalog maxDepth).detect st
  match outcome with
  | .error e => some ([], some e)
  | .ok () =>
    match d.root.bind d.arena.get? with
    | none => some ([], some (.malformed "statement has no query body"))
    | some root =>
      let (names, mismatch) := targetNames root.fields d.target
      let table := if mismatch.isSome then none else d.target.bind (·.table)
      ((resolveOutputs fuel d.arena maxDepth table (root.fields.zip names)).run.run {}).map
        fun (result, _) =>
          match result with
          | .ok (lineage, failure) => (lineage, failure <|> mismatch)
          | .error e => ([], some e <|> mismatch)

/-- **The bounded lineage is the reported lineage.** Where `lineageOf`
finishes, the report of the statement, at any index, carries its lineage and
its error. -/
theorem lineageOf_eq {fuel : Nat} {catalog : Catalog} {maxDepth : Nat} {st : Sql.Statement}
    {L : List TargetLineage} {err : Option LineageError}
    (h : lineageOf fuel catalog maxDepth st = some (L, err)) (index : Nat) :
    (analyzeStatement catalog maxDepth index st).lineage = L ∧
      (analyzeStatement catalog maxDepth index st).error = err := by
  unfold lineageOf at h
  unfold analyzeStatement
  rcases hdet : (Detector.new catalog maxDepth).detect st with ⟨_ | ⟨⟩, d⟩ <;>
    rw [hdet] at h <;> dsimp only at h ⊢
  · cases h
    exact ⟨rfl, rfl⟩
  rcases hr : d.root.bind d.arena.get? with _ | root <;> rw [hr] at h <;> dsimp only at h ⊢
  · cases h
    exact ⟨rfl, rfl⟩
  -- the outputs followed by the bounded walk, as by the walk itself
  obtain ⟨⟨res, σ⟩, hres, hmap⟩ := Option.map_eq_some_iff.mp h
  rw [resolveOutputs_finishes fuel _ _ _ _ {} _ hres]
  rcases res with e | ⟨lineage, failure⟩ <;> cases hmap <;> exact ⟨rfl, rfl⟩

/-- Where the bounded computation finishes with no error, the report of the
statement carries none. -/
theorem error_eq_none_of_lineageOf {fuel : Nat} {catalog : Catalog} {maxDepth : Nat}
    {st : Sql.Statement} (h : (lineageOf fuel catalog maxDepth st).map Prod.snd = some none)
    (index : Nat) : (analyzeStatement catalog maxDepth index st).error = none := by
  obtain ⟨⟨L, err⟩, hrun, herr⟩ := Option.map_eq_some_iff.mp h
  rw [(lineageOf_eq hrun index).2]
  exact herr

end Resolve.Bounded

/-- The warnings of the walk over a statement open the warnings of its report;
the walk to sources adds its own after them. -/
theorem warnings_of_detect (catalog : Catalog) (maxDepth index : Nat) (st : Sql.Statement) :
    ((Detector.new catalog maxDepth).detect st).2.warnings <+:
      (analyzeStatement catalog maxDepth index st).warnings := by
  unfold analyzeStatement
  rcases (Detector.new catalog maxDepth).detect st with ⟨_ | ⟨⟩, d⟩
  · exact List.prefix_refl _
  dsimp only
  rcases d.root.bind d.arena.get? with _ | root
  · exact List.prefix_refl _
  exact List.prefix_append _ _

end ColumnLineage
