import ColumnLineage.Proofs.PairedLineage
import ColumnLineage.Proofs.SoundWalk
/-
ColumnLineage/Proofs/StatementReport.lean

What the report of a statement says, on success and on failure.

A walk over a statement that fails leaves its report with the failure, no
lineage, and the warnings and the target recorded before the failure. A walk
that succeeds has recorded its outermost scope (`detect_rooted`). Its outputs
are then followed to their sources one after another, sharing one table of
found names, until one of them fails (`resolveOutputs_stops`): the report
keeps the entries of the outputs before the failure; it names them after the
target's columns when those match the outputs in number, and after the
outputs otherwise; it drops the target table from them when the numbers
differ; and it reports the failure, or else that mismatch. The walk to
sources warns only that a scope outputs a name twice, and of each such name
once (`WarnsOnce`), after the warnings of the walk over the statement.

Main statement (`statement_report`).
-/

namespace ColumnLineage

open Run Detect

/-! ### The warnings of the walk to sources -/

/-- `ws'` is `ws` with warnings added at its end, each that a scope outputs a
name more than once, none twice and none already in `ws`. -/
def WarnedOnce (ws ws' : List LineageError) : Prop :=
  ∃ new, ws' = ws ++ new ∧ new.Nodup ∧
    ∀ w ∈ new, w ∉ ws ∧ ∃ column scope, w = .duplicateOutput column scope

namespace WarnedOnce

theorem refl (ws : List LineageError) : WarnedOnce ws ws :=
  ⟨[], by simp, List.nodup_nil, by simp⟩

theorem trans {ws₁ ws₂ ws₃ : List LineageError} (h₁ : WarnedOnce ws₁ ws₂)
    (h₂ : WarnedOnce ws₂ ws₃) : WarnedOnce ws₁ ws₃ := by
  obtain ⟨new₁, rfl, hnd₁, hnew₁⟩ := h₁
  obtain ⟨new₂, rfl, hnd₂, hnew₂⟩ := h₂
  refine ⟨new₁ ++ new₂, by simp, List.nodup_append.2 ⟨hnd₁, hnd₂, ?_⟩, ?_⟩
  · -- a warning added second was not there after the first additions
    intro a ha b hb hab
    exact (hnew₂ b hb).1 (List.mem_append_right _ (hab ▸ ha))
  · intro w hw
    rcases List.mem_append.1 hw with hw | hw
    · exact hnew₁ w hw
    · exact ⟨fun h => (hnew₂ w hw).1 (List.mem_append_left _ h), (hnew₂ w hw).2⟩

/-- Added to no warnings, the warnings are distinct and all of duplicate
outputs. -/
theorem of_nil {ws : List LineageError} (h : WarnedOnce [] ws) :
    ws.Nodup ∧ ∀ w ∈ ws, ∃ column scope, w = .duplicateOutput column scope := by
  obtain ⟨new, rfl, hnd, hnew⟩ := h
  exact ⟨by simpa using hnd, fun w hw => (hnew w (by simpa using hw)).2⟩

end WarnedOnce

namespace Resolve

variable {α : Type}

/-- A step of the walk to sources, whether it succeeds or fails, only adds
warnings that a scope outputs a name twice, each once. -/
def WarnsOnce (x : Resolve α) : Prop :=
  ∀ σ r σ', x.run.run σ = (r, σ') → WarnedOnce σ.warnings σ'.warnings

namespace WarnsOnce

theorem pure (a : α) : WarnsOnce (Pure.pure a : Resolve α) := by
  intro σ r σ' h
  cases h
  exact .refl _

theorem throw (e : LineageError) : WarnsOnce (MonadExcept.throw e : Resolve α) := by
  intro σ r σ' h
  cases h
  exact .refl _

theorem bind {β : Type} {x : Resolve α} {f : α → Resolve β} (hx : WarnsOnce x)
    (hf : ∀ a, WarnsOnce (f a)) : WarnsOnce (x >>= f) := by
  intro σ r σ' h
  rcases hxσ : x.run.run σ with ⟨_ | a, σ₁⟩
  · rw [run_bind_of_error hxσ] at h
    cases h
    exact hx σ _ _ hxσ
  · rw [run_bind_of_ok hxσ] at h
    exact (hx σ _ _ hxσ).trans (hf a σ₁ r σ' h)

theorem ite_bind {c : Prop} [Decidable c] {y : Resolve Unit} {k : Resolve α}
    (hy : WarnsOnce y) (hk : WarnsOnce k) : WarnsOnce (if c then y >>= fun _ => k else k) := by
  by_cases hc : c
  · simp only [hc, if_true]
    exact hy.bind fun _ => hk
  · simp only [hc, if_false]
    exact hk

theorem get_bind {F : ResolverState → Resolve α} (h : ∀ σ, WarnsOnce (F σ)) :
    WarnsOnce (get >>= F) := by
  intro σ r σ' hrun
  rw [run_bind_of_ok (run_get σ)] at hrun
  exact h σ σ r σ' hrun

end WarnsOnce

/-- Storing the sources found for a name leaves the warnings alone. -/
theorem warnsOnce_store (key : Nat × String × Option Nat) (sources : SourceSet) :
    WarnsOnce (modify fun st : ResolverState => { st with found := (key, sources) :: st.found }) := by
  intro σ r σ' h
  rw [run_modify] at h
  cases h
  exact .refl _

/-- A name output twice is warned of once. -/
theorem warnsOnce_duplicateOutput (column : String) (scope : Nat) :
    WarnsOnce (duplicateOutput column scope) := by
  intro σ r σ' h
  simp only [duplicateOutput, run_modify] at h
  cases h
  split
  · exact .refl _
  · rename_i fresh
    refine ⟨[.duplicateOutput column scope], rfl, by simp, ?_⟩
    intro w hw
    rw [List.mem_singleton.1 hw]
    exact ⟨fun h => fresh (List.contains_iff_mem.2 h), column, scope, rfl⟩

section

variable {arena : ScopeArena} {maxDepth : Nat}

mutual

/-- Reading a field only warns that scopes output names twice, each once. -/
theorem field_warnsOnce (d : Nat) (f : Field) : WarnsOnce (field arena maxDepth d f) := by
  match f with
  | .column n ref p =>
    rcases ho : ref.origin with _ | t | child | labels | _ <;>
      simp only [field, ho]
    case scope => exact named_warnsOnce (d + 1) child ref.column ref.position
    all_goals exact WarnsOnce.pure _
  | .derived n deps p =>
    simp only [field]
    exact fields_warnsOnce d deps
  | .scalar n child p =>
    simp only [field]
    by_cases hlim : maxDepth < d + 1
    · rw [dif_pos hlim]
      exact WarnsOnce.throw _
    · rw [dif_neg hlim]
      cases arena.get? child with
      | none => exact WarnsOnce.throw _
      | some s =>
        simp only [fieldsDeeper]
        exact fields_warnsOnce (d + 1) s.fields
  | .constant n p =>
    simp only [field]
    exact WarnsOnce.pure _
  | .wildcard n t p =>
    simp only [field]
    exact WarnsOnce.pure _
termination_by (maxDepth + 1 - d, sizeOf f, 1)
decreasing_by
  all_goals (simp only [Prod.lex_def, Field.column.sizeOf_spec, Field.derived.sizeOf_spec,
    true_and]; omega)

theorem fields_warnsOnce (d : Nat) (fs : List Field) : WarnsOnce (fields arena maxDepth d fs) := by
  match fs with
  | [] =>
    simp only [fields]
    exact WarnsOnce.pure _
  | f :: rest =>
    simp only [fields]
    exact (field_warnsOnce d f).bind fun a =>
      (fields_warnsOnce d rest).bind fun b => WarnsOnce.pure _
termination_by (maxDepth + 1 - d, sizeOf fs, 1)
decreasing_by all_goals (simp only [Prod.lex_def, List.cons.sizeOf_spec, true_and]; omega)

theorem named_warnsOnce (d id : Nat) (name : String) (position : Option Nat) :
    WarnsOnce (named arena maxDepth d id name position) := by
  simp only [named]
  refine WarnsOnce.get_bind fun σ => ?_
  cases σ.found.lookup (id, name, position) with
  | some sources => exact WarnsOnce.pure _
  | none =>
    by_cases hlim : maxDepth < d
    · rw [dif_pos hlim]
      exact WarnsOnce.throw _
    · rw [dif_neg hlim]
      exact (lookup_warnsOnce d id name position hlim).bind fun sources =>
        (warnsOnce_store _ sources).bind fun _ => WarnsOnce.pure _
termination_by (maxDepth + 2 - d, 0, 1)
decreasing_by all_goals (simp only [Prod.lex_def, true_and]; omega)

theorem lookup_warnsOnce (d id : Nat) (name : String) (position : Option Nat)
    (h : ¬ maxDepth < d) : WarnsOnce (lookup arena maxDepth d id name position h) := by
  simp only [lookup]
  cases arena.get? id with
  | none => exact WarnsOnce.throw _
  | some s =>
    refine WarnsOnce.ite_bind (warnsOnce_duplicateOutput name id) ?_
    cases (chooseField s.fields name position).1 with
    | some f => exact field_warnsOnce d f
    | none =>
      match s.fields.filter Field.isStar with
      | [] => exact WarnsOnce.pure _
      | [star] =>
        match star with
        | .column _ { origin := .scope child, .. } _ =>
          exact named_warnsOnce (d + 1) child name none
        | .column _ { origin := .table _, .. } _ | .column _ { origin := .pending, .. } _
        | .column _ { origin := .ambiguous _, .. } _ | .column _ { origin := .unbound, .. } _
        | .derived .. | .scalar .. | .constant .. | .wildcard .. => exact WarnsOnce.pure _
      | _ :: _ :: _ => exact WarnsOnce.pure _
termination_by (maxDepth + 2 - d, 0, 0)
decreasing_by all_goals (simp only [Prod.lex_def]; omega)

end

end

end Resolve

/-! ### Following the outputs one after another -/

section Outputs

variable {arena : ScopeArena} {maxDepth : Nat}

/-- The outcome of following each of `fs` in turn from the state `σ`, with
one table of found names, a failure on one not stopping the next; and the
state after. -/
def outcomesFrom (arena : ScopeArena) (maxDepth : Nat) :
    List Field → ResolverState → List (Except LineageError SourceSet) × ResolverState
  | [], σ => ([], σ)
  | f :: fs, σ =>
    let step := (sourcesOf arena maxDepth f).run.run σ
    let rest := outcomesFrom arena maxDepth fs step.2
    (step.1 :: rest.1, rest.2)

theorem run_mapM_outcomes (fs : List Field) (σ : ResolverState) :
    (fs.mapM fun f => tryCatch (Except.ok <$> sourcesOf arena maxDepth f)
      (fun e => pure (Except.error e))).run.run σ =
      (.ok (outcomesFrom arena maxDepth fs σ).1, (outcomesFrom arena maxDepth fs σ).2) := by
  induction fs generalizing σ with
  | nil => rfl
  | cons f fs ih =>
    rw [List.mapM_cons, run_bind_of_ok (run_catch _ _), run_bind_of_ok (ih _)]
    rfl

/-- The walk shared by the outputs gives each its outcome, in order. -/
theorem sourcesOfEach_eq (fs : List Field) :
    sourcesOfEach arena maxDepth fs =
      ((outcomesFrom arena maxDepth fs {}).1, (outcomesFrom arena maxDepth fs {}).2.warnings) := by
  simp only [sourcesOfEach, run_mapM_outcomes]

theorem outcomesFrom_warnsOnce (arena : ScopeArena) (maxDepth : Nat) (fs : List Field)
    (σ : ResolverState) :
    WarnedOnce σ.warnings (outcomesFrom arena maxDepth fs σ).2.warnings := by
  induction fs generalizing σ with
  | nil => exact .refl _
  | cons f fs ih =>
    exact (Resolve.field_warnsOnce 0 f σ _ _ rfl).trans (ih _)

/-- What following the outputs `fs`, named `names`, one after another from
the state `σ` gives when it stops at the first failure: an entry for each
output before it, in order, with the sources found for it, its name and its
transformation; the failure met at the next output, if any; and the state
the walk reached there. -/
structure StopsAtFailure (arena : ScopeArena) (maxDepth : Nat) (table : Option TableName)
    (fs : List Field) (names : List String) (σ : ResolverState)
    (L : List TargetLineage) (failure : Option LineageError) (σ' : ResolverState) : Prop where
  length_le : L.length ≤ fs.length
  sources : L.map (fun l => Except.ok l.sources) <+: (outcomesFrom arena maxDepth fs σ).1
  targets : L.map (·.target) = (names.take L.length).map ({ table, field := · })
  processes : L.map (·.transformation) = (fs.take L.length).map (·.process)
  failed : L.length < fs.length → ∃ e,
    (outcomesFrom arena maxDepth fs σ).1[L.length]? = some (.error e) ∧ failure = some e
  finished : L.length = fs.length → failure = none
  state : σ' = (outcomesFrom arena maxDepth (fs.take (L.length + 1)) σ).2

/-- Following named outputs in turn stops at the first that fails, keeping
what the others before it gave. -/
theorem resolveOutputs_stops (arena : ScopeArena) (maxDepth : Nat) (table : Option TableName) :
    ∀ (fs : List Field) (names : List String) (σ : ResolverState), fs.length = names.length →
      ∃ L failure σ', (resolveOutputs arena maxDepth table (fs.zip names)).run.run σ =
        (.ok (L, failure), σ') ∧ StopsAtFailure arena maxDepth table fs names σ L failure σ'
  | [], [], σ, _ =>
    ⟨[], none, σ, rfl, by constructor <;> simp [outcomesFrom]⟩
  | f :: fs, name :: names, σ, hlen => by
    rw [List.zip_cons_cons, run_resolveOutputs_cons]
    rcases hf : (sourcesOf arena maxDepth f).run.run σ with ⟨_ | sources, σ₁⟩
    · -- the walk stops at `f`
      refine ⟨[], some _, σ₁, rfl, ?_⟩
      constructor <;> simp [outcomesFrom, hf]
    · -- `f` gives its sources; the rest goes on from the state it left
      obtain ⟨L, failure, σ', hrest, hL⟩ :=
        resolveOutputs_stops arena maxDepth table fs names σ₁ (by simpa using hlen)
      dsimp only
      rw [hrest]
      refine ⟨_, failure, σ', rfl, ?_⟩
      constructor
      · simpa using hL.length_le
      · simpa [outcomesFrom, hf] using hL.sources
      · simpa using hL.targets
      · simpa using hL.processes
      · intro hlt
        obtain ⟨e, he, hfail⟩ := hL.failed (by simpa using hlt)
        exact ⟨e, by simpa [outcomesFrom, hf] using he, hfail⟩
      · intro heq
        exact hL.finished (by simpa using heq)
      · simpa [outcomesFrom, hf] using hL.state
  | [], _ :: _, _, h | _ :: _, [], _, h => by simp at h

end Outputs

/-! ### A walk that succeeds records its outermost scope -/

/-- The detector has recorded as its outermost scope a scope of its arena. -/
def Detector.Rooted (d : Detector) : Prop := ∃ root, d.root.bind d.arena.get? = some root

/-- Recording the target or the root keeps a detector valid. -/
theorem keeps_record_valid (f : Detector → Detector)
    (hf : ∀ d, (f d).arena = d.arena ∧ (f d).frames = d.frames) :
    Keeps (fun _ => True) (fun _ _ => True) (fun _ _ => True) (modify f) := by
  intro s u s' hv _ hr
  rw [run_modify] at hr
  cases hr
  exact ⟨hv.of_arena (hf s).1 (hf s).2, trivial, trivial⟩

/-- The walk of a statement's query, recorded as its root: once the final
check passes, the root is a scope of the arena, the one the query answered. -/
theorem root_rooted (q : Sql.Query) :
    Keeps (fun _ => True) (fun _ _ => True) (fun _ d => d.Rooted) (do
      let r ← query .query none q
      modify fun d => { d with root := some r }
      if (← get).arena.depth != 0 then throw (.malformed "scopes left open after traversal")) := by
  intro s u s' hv _ h
  obtain ⟨r, s₁, h₁, h⟩ := run_bind_ok h
  obtain ⟨hv₁, -, ⟨hlt, -⟩, -⟩ := query_keeps .query none q s r s₁ hv trivial h₁
  obtain ⟨S, hS⟩ := ScopeArena.exists_get?_of_lt hlt
  obtain ⟨_, s₂, h₂, h⟩ := run_bind_ok h
  rw [run_modify] at h₂
  cases h₂
  rw [run_bind_of_ok (run_get _)] at h
  split at h
  · cases h
  · cases h
    exact ⟨hv₁.of_arena rfl rfl, trivial, S, by simpa using hS⟩

/-- Every kind of statement fails at once, or records what it writes to and
walks its query as the root. -/
theorem statement_rooted (st : Sql.Statement) :
    Keeps (fun _ => True) (fun _ _ => True) (fun _ d => d.Rooted) (Detect.statement st) := by
  have hrecord := fun f hf => keeps_record_valid f hf
  simp only [Detect.statement]
  refine Keeps.get_bind fun _ => ?_
  split
  · exact Keeps.throw_bind _ _
  refine Keeps.bind (fun _ _ => trivial) (hrecord _ fun _ => ⟨rfl, rfl⟩) fun _ => ?_
  split
  · exact root_rooted _
  · split
    · split
      · refine Keeps.bind (fun _ _ => trivial) (Keeps.of_pure _ (fun _ => trivial) fun h => h)
          fun _ => Keeps.bind (fun _ _ => trivial) (hrecord _ fun _ => ⟨rfl, rfl⟩) fun _ =>
            Keeps.bind (fun _ _ => trivial) (hrecord _ fun _ => ⟨rfl, rfl⟩) fun _ => ?_
        split
        · exact Keeps.throw_bind _ _
        · exact root_rooted _
      · exact Keeps.throw_bind _ _
    · exact Keeps.throw_bind _ _
  · split
    · exact Keeps.throw_bind _ _
    · exact Keeps.bind (fun _ _ => trivial) (hrecord _ fun _ => ⟨rfl, rfl⟩) fun _ => root_rooted _
  · exact Keeps.bind (fun _ _ => trivial) (hrecord _ fun _ => ⟨rfl, rfl⟩) fun _ => root_rooted _
  · exact Keeps.throw_bind _ _

/-- A walk over a statement that succeeds from a fresh detector has recorded
its outermost scope. -/
theorem detect_rooted {catalog : Catalog} {maxDepth : Nat} {st : Sql.Statement} {d : Detector}
    (h : (Detector.new catalog maxDepth).detect st = (.ok (), d)) : d.Rooted :=
  (statement_rooted st _ _ _ (Detector.valid_new catalog maxDepth) trivial h).2.2

/-! ### The report -/

/-- The columns a target lists; none without a target. -/
def targetColumns (target : Option Target) : List String := (target.map (·.columns)).getD []

/-- The outputs are named after the target's columns when it lists exactly
one per output, and after themselves otherwise. -/
theorem targetNames_fst (outputs : List Field) (target : Option Target) :
    (targetNames outputs target).1 =
      if targetColumns target ≠ [] ∧ (targetColumns target).length = outputs.length then
        targetColumns target
      else outputs.map (·.name) := by
  rcases target with _ | t
  · simp [targetNames, targetColumns]
  · by_cases he : t.columns = [] <;> by_cases hl : t.columns.length = outputs.length <;>
      simp [targetNames, targetColumns, he, hl]

/-- A target that lists columns, but not one per output, is a mismatch. -/
theorem targetNames_snd (outputs : List Field) (target : Option Target) :
    (targetNames outputs target).2 =
      if targetColumns target ≠ [] ∧ (targetColumns target).length ≠ outputs.length then
        some (.positionalMismatch (targetColumns target).length outputs.length)
      else none := by
  rcases target with _ | t
  · simp [targetNames, targetColumns]
  · by_cases he : t.columns = [] <;> by_cases hl : t.columns.length = outputs.length <;>
      simp [targetNames, targetColumns, he, hl]

/-- What the report `r` of a statement says when its walk succeeded in `d`
with outermost scope `root`. With `T` the columns of the target and `n` the
number of outputs of `root`: the entries are those of the outputs before the
first one the walk to sources fails on, in order, each with the sources found
for it and its transformation, named after the column of `T` at its place
when `T` lists exactly `n` columns and after itself otherwise, and in the
target table unless `T` lists columns but not `n`; the error is that failure,
else the mismatch, if any; the warnings are those of the walk over the
statement, then those the walk to sources raised until it stopped, distinct
and all of names output twice. -/
structure Reports (maxDepth : Nat) (d : Detector) (root : Scope) (r : StatementReport) : Prop where
  length_le : r.lineage.length ≤ root.fields.length
  sources : r.lineage.map (fun l => Except.ok l.sources) <+:
    (sourcesOfEach d.arena maxDepth root.fields).1
  processes : r.lineage.map (·.transformation) = (root.fields.take r.lineage.length).map (·.process)
  names : r.lineage.map (·.target.field) =
    (if targetColumns d.target ≠ [] ∧ (targetColumns d.target).length = root.fields.length then
      targetColumns d.target else root.fields.map (·.name)).take r.lineage.length
  tables : ∀ l ∈ r.lineage, l.target.table =
    if targetColumns d.target ≠ [] ∧ (targetColumns d.target).length ≠ root.fields.length then none
    else d.target.bind (·.table)
  failed : r.lineage.length < root.fields.length → ∃ e,
    (sourcesOfEach d.arena maxDepth root.fields).1[r.lineage.length]? = some (.error e) ∧
      r.error = some e
  finished : r.lineage.length = root.fields.length → r.error =
    if targetColumns d.target ≠ [] ∧ (targetColumns d.target).length ≠ root.fields.length then
      some (.positionalMismatch (targetColumns d.target).length root.fields.length)
    else none
  warnings : r.warnings = d.warnings ++
    (sourcesOfEach d.arena maxDepth (root.fields.take (r.lineage.length + 1))).2
  distinct : (sourcesOfEach d.arena maxDepth (root.fields.take (r.lineage.length + 1))).2.Nodup
  duplicates : ∀ w ∈ (sourcesOfEach d.arena maxDepth (root.fields.take (r.lineage.length + 1))).2,
    ∃ column scope, w = .duplicateOutput column scope

/-- The report of a statement whose walk succeeded. -/
theorem analyzeStatement_reports {catalog : Catalog} {maxDepth index : Nat} {st : Sql.Statement}
    {d : Detector} {root : Scope} (hd : (Detector.new catalog maxDepth).detect st = (.ok (), d))
    (hroot : d.root.bind d.arena.get? = some root) :
    Reports maxDepth d root (analyzeStatement catalog maxDepth index st) := by
  rcases hn : targetNames root.fields d.target with ⟨names, mismatch⟩
  have hnames := targetNames_fst root.fields d.target
  have hmismatch := targetNames_snd root.fields d.target
  rw [hn] at hnames hmismatch
  dsimp only at hnames hmismatch
  have hlen : root.fields.length = names.length := by
    rw [hnames]
    split
    · rename_i h
      exact h.2.symm
    · simp
  obtain ⟨L, failure, σ', hrun, hL⟩ := resolveOutputs_stops d.arena maxDepth
    (if mismatch.isSome then none else d.target.bind (·.table)) root.fields names {} hlen
  have hlineage : (analyzeStatement catalog maxDepth index st).lineage = L := by
    simp [analyzeStatement, hd, hroot, hn, hrun]
  have herror : (analyzeStatement catalog maxDepth index st).error = (failure <|> mismatch) := by
    simp [analyzeStatement, hd, hroot, hn, hrun]
  have hwarnings : (analyzeStatement catalog maxDepth index st).warnings =
      d.warnings ++ σ'.warnings := by
    simp [analyzeStatement, hd, hroot, hn, hrun]
  -- the warnings raised up to the stop, added to none
  have hwarned :=
    (outcomesFrom_warnsOnce d.arena maxDepth (root.fields.take (L.length + 1)) {}).of_nil
  rw [← hL.state] at hwarned
  generalize analyzeStatement catalog maxDepth index st = r at hlineage herror hwarnings
  rcases r with ⟨_, _, lineage, warnings, error, _⟩
  dsimp only at hlineage herror hwarnings
  subst hlineage herror hwarnings
  refine ⟨hL.length_le, ?_, hL.processes, ?_, ?_, ?_, ?_, ?_, ?_, ?_⟩
  · simpa [sourcesOfEach_eq] using hL.sources
  · have := congrArg (List.map (·.field)) hL.targets
    rw [← hnames]
    simpa [Function.comp_def] using this
  · intro l hl
    have hmem : l.target ∈ lineage.map (·.target) := List.mem_map_of_mem hl
    rw [hL.targets] at hmem
    obtain ⟨_, -, hl'⟩ := List.mem_map.1 hmem
    rw [← hl', hmismatch]
    by_cases hc : targetColumns d.target ≠ [] ∧ (targetColumns d.target).length ≠ root.fields.length
    · rw [if_pos hc, if_pos hc]
      rfl
    · rw [if_neg hc, if_neg hc]
      rfl
  · intro hlt
    obtain ⟨e, he, hfail⟩ := hL.failed hlt
    exact ⟨e, by simpa [sourcesOfEach_eq] using he, by simp [hfail]⟩
  · intro heq
    simp [hL.finished heq, hmismatch]
  · simp [sourcesOfEach_eq, hL.state]
  · simpa [sourcesOfEach_eq, hL.state] using hwarned.1
  · simpa [sourcesOfEach_eq, hL.state] using hwarned.2

/-- A report carries the number of its statement and the target table its walk
recorded, whatever happened. -/
theorem analyzeStatement_index_target (catalog : Catalog) (maxDepth index : Nat)
    (st : Sql.Statement) :
    (analyzeStatement catalog maxDepth index st).index = index ∧
      (analyzeStatement catalog maxDepth index st).targetTable =
        ((Detector.new catalog maxDepth).detect st).2.target.bind (·.table) := by
  unfold analyzeStatement
  rcases (Detector.new catalog maxDepth).detect st with ⟨_ | ⟨⟩, d⟩
  · exact ⟨rfl, rfl⟩
  · dsimp only
    split
    · exact ⟨rfl, rfl⟩
    · split
      exact ⟨rfl, rfl⟩

/-- **The report of a statement, on success and on failure.** For every
catalog, limit and statement: the report has the statement's number and the
target table recorded by its walk. When the walk fails, the report carries
that failure, no lineage, and the warnings raised before it. When it
succeeds, the walk has recorded its outermost scope, and the report is as
`Reports` says: the entries before the first output the walk to sources
fails on, named after the target's columns or the outputs, that failure or
else the mismatch of the target's columns, and the warnings of both walks. -/
theorem statement_report (catalog : Catalog) (maxDepth index : Nat) (st : Sql.Statement) :
    let r := analyzeStatement catalog maxDepth index st
    let d := ((Detector.new catalog maxDepth).detect st).2
    r.index = index ∧ r.targetTable = d.target.bind (·.table) ∧
    match ((Detector.new catalog maxDepth).detect st).1 with
    | .error e => r.error = some e ∧ r.lineage = [] ∧ r.warnings = d.warnings
    | .ok () => ∃ root, d.root.bind d.arena.get? = some root ∧ Reports maxDepth d root r := by
  obtain ⟨hindex, htable⟩ := analyzeStatement_index_target catalog maxDepth index st
  refine ⟨hindex, htable, ?_⟩
  rcases hd : (Detector.new catalog maxDepth).detect st with ⟨_ | ⟨⟩, d⟩
  · -- the walk failed: the report is the one it had, with the failure
    simp [analyzeStatement, hd]
  · obtain ⟨root, hroot⟩ := detect_rooted hd
    exact ⟨root, hroot, analyzeStatement_reports hd hroot⟩

end ColumnLineage
