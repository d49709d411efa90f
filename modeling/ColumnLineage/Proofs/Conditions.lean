import ColumnLineage.Proofs.PairedLineage
import ColumnLineage.Proofs.PairedWalk
import ColumnLineage.Proofs.SoundWalk
import ColumnLineage.Proofs.Reports
/-
ColumnLineage/Proofs/Conditions.lean

The conditions of a statement do not change its lineage. A WHERE, HAVING or
ON condition is walked only for the subqueries in it, which open scopes of
their own and close them again; no output reads them. So a statement and the
same statement with its conditions taken out walk into matched detectors
(`detect_paired`), and matched detectors give the same lineage
(`lineage_of_matched`).

Main statement (`lineage_ignores_conditions`): two statements that differ
only in their conditions, both analysed without error, report the same
lineage, which is that of the statement with no conditions at all.

The conditions are those of every query inside the statement: in every
SELECT and join, WITH body, set operand and derived table, and in the
subqueries of the VALUES rows and of the select items with an alias. A select
item without an alias is named by its text: there a changed condition renames
the output (`condition_renames_output`).
-/

namespace ColumnLineage

namespace Sql

/-- The statement with the conditions of its query taken out, when `b`. -/
def Statement.strip (b : Bool) : Statement → Statement
  | .query q => .query (q.strip b)
  | .insert target columns source head tail =>
    .insert target columns (source.map (Query.strip b)) head tail
  | .createTable name columns q => .createTable name columns (q.map (Query.strip b))
  | .createView name columns q => .createView name columns (q.strip b)
  | .other text => .other text

end Sql

open Run Detect

/-- The matching of no scope. -/
def Renaming.empty : Renaming where
  map _ := none
  injective h := by cases h

/-- A detector with no scope open and no WITH name in reach is in step with
itself, matching no scope. -/
theorem Detector.InStep.start {s : Detector} (hv : s.Valid) (hstack : s.arena.stack = [])
    (hframes : ∀ f ∈ s.frames, f = []) : s.InStep Renaming.empty 0 0 s where
  catalog := rfl
  scopes _ _ h := by cases h
  shaped := hv.shaped
  stack := .nil
  depth := Nat.zero_le _
  outerLeft := by rw [hstack]; exact .none
  outerRight := by rw [hstack]; exact .none
  frames := .nil
  frameDepth := Nat.zero_le _
  outerFramesLeft := hframes
  outerFramesRight := hframes
  room := Nat.le_refl _

/-! ### Two walks of a statement -/

section Pairs

variable {α : Type}

/-- Walking `y` from a detector where walking `x` succeeded, with no scope
open and no WITH name in reach, succeeds too, into a matched detector. -/
def Paired (x y : Detect Unit) : Prop :=
  ∀ s d, s.Valid → s.arena.stack = [] → (∀ f ∈ s.frames, f = []) → x.run.run s = (.ok (), d) →
    ∃ ρ d', y.run.run s = (.ok (), d') ∧ d.Matched ρ d'

/-- A first step shared by both walks that changes neither the scopes nor the
frames of WITH names. -/
theorem Paired.bind {x : Detect α} {f g : α → Detect Unit}
    (hx : ∀ s a s', x.run.run s = (.ok a, s') → s'.arena = s.arena ∧ s'.frames = s.frames)
    (h : ∀ a, Paired (f a) (g a)) : Paired (x >>= f) (x >>= g) := by
  intro s d hv hstack hframes hr
  obtain ⟨a, s₁, h₁, h₂⟩ := run_bind_ok hr
  obtain ⟨ha, hf⟩ := hx s a s₁ h₁
  have hv₁ : s₁.Valid := hv.of_arena ha hf
  obtain ⟨ρ, d', h₂', hm⟩ := h a s₁ d hv₁ (ha ▸ hstack) (hf ▸ hframes) h₂
  exact ⟨ρ, d', by rw [run_bind_of_ok h₁]; exact h₂', hm⟩

theorem Paired.get_bind {f g : Detector → Detect Unit} (h : ∀ s, Paired (f s) (g s)) :
    Paired (get >>= f) (get >>= g) := by
  refine Paired.bind (fun s a s' hr => ?_) h
  rw [run_get] at hr
  cases hr
  exact ⟨rfl, rfl⟩

theorem Paired.throw_bind {f : α → Detect Unit} (e : LineageError) (y : Detect Unit) :
    Paired (throw e >>= f) y := by
  intro s d _ _ _ hr
  rw [run_bind_of_error (run_throw e s)] at hr
  cases hr

theorem Paired.ite {c : Prop} [Decidable c] {x x' y y' : Detect Unit} (h₁ : c → Paired x x')
    (h₂ : ¬c → Paired y y') : Paired (if c then x else y) (if c then x' else y') := by
  by_cases hc : c
  · simp only [if_pos hc]
    exact h₁ hc
  · simp only [if_neg hc]
    exact h₂ hc

/-- Recording something of the statement beside its scopes. -/
theorem Paired.modify_bind {f : Detector → Detector} {x y : Detect Unit}
    (hf : ∀ d, (f d).arena = d.arena ∧ (f d).frames = d.frames) (h : Paired x y) :
    Paired (modify f >>= fun _ => x) (modify f >>= fun _ => y) := by
  refine Paired.bind (fun s a s' hr => ?_) fun _ => h
  rw [run_modify] at hr
  cases hr
  exact hf s

theorem Paired.log_bind (e : Log.Event) {x y : Detect Unit} (h : Paired x y) :
    Paired (log e >>= fun _ => x) (log e >>= fun _ => y) := by
  refine Paired.bind (fun s a s' hr => ?_) fun _ => h
  rw [run_log] at hr
  cases hr
  exact ⟨rfl, rfl⟩

end Pairs

/-- The query of a statement, walked with its conditions and without, then
recorded as the root: the walk without the conditions keeps pace with the
walk with them (`query_sim`), and neither walk changes the target. -/
theorem root_paired (b : Bool) (q : Sql.Query) :
    Paired (do
        let r ← query .query none q
        modify fun d => { d with root := some r }
        if (← get).arena.depth != 0 then throw (.malformed "scopes left open after traversal"))
      (do
        let r ← query .query none (q.strip b)
        modify fun d => { d with root := some r }
        if (← get).arena.depth != 0 then throw (.malformed "scopes left open after traversal")) := by
  intro s d hv hstack hframes h
  obtain ⟨r, s₁, h₁, h⟩ := run_bind_ok h
  obtain ⟨_, s₂, h₂, h⟩ := run_bind_ok h
  rw [run_modify] at h₂
  cases h₂
  rw [run_bind_of_ok (run_get _)] at h
  split at h
  · cases h
  cases h
  obtain ⟨ρ, r', w₁, hy, hstep, hr, -⟩ := query_sim b .query .query none none (.inl rfl) q
    Renaming.empty s s hv trivial (.start hv hstack hframes) r s₁ h₁
  -- both walks close every scope they open and keep the target
  obtain ⟨-, hq, -⟩ := query_keeps .query none q s r s₁ hv trivial h₁
  obtain ⟨-, hq', -⟩ := query_keeps .query none (q.strip b) s r' w₁ hv trivial hy
  have hdepth : w₁.arena.depth = 0 := by
    rw [ScopeArena.depth, hq'.1.stack, hstack]
    rfl
  refine ⟨ρ, { w₁ with root := some r' }, ?_, ⟨hstep.inStep.scopes, .some hr, ?_⟩⟩
  · rw [run_bind_of_ok hy, run_bind_of_ok (run_modify _ _), run_bind_of_ok (run_get _)]
    simp only [hdepth, bne_self_eq_false, Bool.false_eq_true, if_false]
    rfl
  · show w₁.target = s₁.target
    rw [hq'.1.target, hq.1.target]

/-- The walk of a statement and the walk of the statement with its conditions
taken out are paired: every kind of statement either fails at once or records
the same target and walks its query. -/
theorem statement_paired (b : Bool) : ∀ st, Paired (statement st) (statement (st.strip b))
  | .query q => by
    simp only [statement, Sql.Statement.strip]
    refine Paired.get_bind fun _ => Paired.ite (fun _ => Paired.throw_bind _ _) fun _ => ?_
    exact Paired.modify_bind (fun _ => ⟨rfl, rfl⟩) (root_paired b q)
  | .insert target columns source head tail => by
    simp only [statement, Sql.Statement.strip]
    refine Paired.get_bind fun _ => Paired.ite (fun _ => Paired.throw_bind _ _) fun _ => ?_
    refine Paired.modify_bind (fun _ => ⟨rfl, rfl⟩) ?_
    -- an INSERT names its table, records it as the target, then walks its source
    cases target with
    | function _ =>
      dsimp only
      exact Paired.throw_bind _ _
    | table name =>
      dsimp only
      split
      · simp only [pure_bind]
        refine Paired.log_bind _ (Paired.modify_bind (fun _ => ⟨rfl, rfl⟩) ?_)
        cases source with
        | none => exact Paired.throw_bind _ _
        | some q => exact root_paired b q
      · exact Paired.throw_bind _ _
  | .createTable name columns q => by
    cases q with
    | none =>
      simp only [statement]
      refine Paired.get_bind fun _ => Paired.ite (fun _ => Paired.throw_bind _ _) fun _ => ?_
      exact Paired.modify_bind (fun _ => ⟨rfl, rfl⟩) (Paired.throw_bind _ _)
    | some q =>
      simp only [statement, Sql.Statement.strip, Option.map]
      refine Paired.get_bind fun _ => Paired.ite (fun _ => Paired.throw_bind _ _) fun _ => ?_
      exact Paired.modify_bind (fun _ => ⟨rfl, rfl⟩)
        (Paired.modify_bind (fun _ => ⟨rfl, rfl⟩) (root_paired b q))
  | .createView name columns q => by
    simp only [statement, Sql.Statement.strip]
    refine Paired.get_bind fun _ => Paired.ite (fun _ => Paired.throw_bind _ _) fun _ => ?_
    exact Paired.modify_bind (fun _ => ⟨rfl, rfl⟩)
      (Paired.modify_bind (fun _ => ⟨rfl, rfl⟩) (root_paired b q))
  | .other text => by
    simp only [statement, Sql.Statement.strip]
    refine Paired.get_bind fun _ => Paired.ite (fun _ => Paired.throw_bind _ _) fun _ => ?_
    exact Paired.modify_bind (fun _ => ⟨rfl, rfl⟩) (Paired.throw_bind _ _)

/-- Walked from a fresh detector, a statement and the statement with its
conditions taken out give matched detectors. -/
theorem detect_paired (b : Bool) {cat : Catalog} {m : Nat} {st : Sql.Statement} {d : Detector}
    (h : (Detector.new cat m).detect st = (.ok (), d)) :
    ∃ ρ d', (Detector.new cat m).detect (st.strip b) = (.ok (), d') ∧ d.Matched ρ d' :=
  statement_paired b st _ d (Detector.valid_new cat m) rfl (fun _ hf => by cases hf) h

/-- Taking the conditions out of a statement analysed without error keeps its
lineage, and the analysis still reports no error. -/
theorem lineage_strip (b : Bool) {cat : Catalog} {m idx : Nat} {st : Sql.Statement}
    (h : (analyzeStatement cat m idx st).error = none) :
    (analyzeStatement cat m idx (st.strip b)).error = none ∧
      (analyzeStatement cat m idx (st.strip b)).lineage = (analyzeStatement cat m idx st).lineage := by
  obtain ⟨d, -, -, -, hd, -⟩ := analyzeStatement_ok h
  obtain ⟨ρ, d', hd', hm⟩ := detect_paired b hd
  exact lineage_of_matched hd hd' hm h

/-- **The conditions of a statement do not change its lineage.** Two
statements that differ only in the WHERE, HAVING and ON conditions of their
queries, those inside select items without an alias apart, both analysed
without error, report the same lineage, entry for entry; it is the lineage of
the statement with no such conditions at all, so no subquery inside one adds
a source. -/
theorem lineage_ignores_conditions {cat : Catalog} {m idx : Nat} {st st' : Sql.Statement}
    (hst : st.strip true = st'.strip true) (h : (analyzeStatement cat m idx st).error = none)
    (h' : (analyzeStatement cat m idx st').error = none) :
    (analyzeStatement cat m idx st').lineage = (analyzeStatement cat m idx st).lineage ∧
      (analyzeStatement cat m idx (st.strip true)).lineage =
        (analyzeStatement cat m idx st).lineage := by
  have hs := (lineage_strip true h).2
  have hs' := (lineage_strip true h').2
  refine ⟨?_, hs⟩
  calc (analyzeStatement cat m idx st').lineage
      = (analyzeStatement cat m idx (st'.strip true)).lineage := hs'.symm
    _ = (analyzeStatement cat m idx (st.strip true)).lineage := by rw [hst]
    _ = (analyzeStatement cat m idx st).lineage := hs

/-- `SELECT item FROM t WHERE cond`. -/
def selectWhere (item : Sql.Expr) (t : String) (cond : Option Sql.Expr) : Sql.Query :=
  .mk none [] (.select (.mk "" [.expr item none] "" [.mk (.table [{ value := t }] "" none "") []] ""
    cond "" none "")) ""

/-- The condition `c = n`. -/
def columnEquals (c n : String) : Sql.Expr :=
  .binary (.identifier { value := c }) "=" (.value (.number n false))

/-- `SELECT a, (SELECT b FROM u WHERE inner) AS s FROM t WHERE outer`: a
condition of the query, and one inside the subquery of an item with an
alias. -/
def aliasedScalarWhere (inner outer : Option Sql.Expr) : Sql.Statement :=
  .query (.mk none [] (.select (.mk ""
    [.expr (.identifier { value := "a" }) none,
      .expr (.subquery (selectWhere (.identifier { value := "b" }) "u" inner)) (some { value := "s" })]
    "" [.mk (.table [{ value := "t" }] "" none "") []] "" outer "" none "")) "")

/-- Both conditions on columns: `... WHERE c = 1) AS s FROM t WHERE b = 1`. -/
def scalarWhereEquals : Sql.Statement :=
  aliasedScalarWhere (some (columnEquals "c" "1")) (some (columnEquals "b" "1"))

/-- A subquery of its own in the inner condition and no outer condition:
`... WHERE EXISTS (SELECT c FROM v)) AS s FROM t`. -/
def scalarWhereExists : Sql.Statement :=
  aliasedScalarWhere (some (.exists (selectWhere (.identifier { value := "c" }) "v" none) false)) none

/-- Conditions on columns and a condition with a subquery of its own, in the
query and in the subquery of an item with an alias, give the same lineage. -/
theorem scalarWhereEquals_scalarWhereExists_lineage :
    scalarWhereEquals.strip true = scalarWhereExists.strip true ∧
      (analyzeStatement {} 3 0 scalarWhereEquals).error = none ∧
      (analyzeStatement {} 3 0 scalarWhereExists).error = none ∧
      (analyzeStatement {} 3 0 scalarWhereExists).lineage =
        (analyzeStatement {} 3 0 scalarWhereEquals).lineage ∧
      (analyzeStatement {} 3 0 (scalarWhereEquals.strip true)).lineage =
        (analyzeStatement {} 3 0 scalarWhereEquals).lineage := by
  have hst : scalarWhereEquals.strip true = scalarWhereExists.strip true := rfl
  have h : (analyzeStatement {} 3 0 scalarWhereEquals).error = none :=
    @Resolve.Bounded.error_eq_none_of_lineageOf 6 _ _ _ (by decide +kernel) 0
  have h' : (analyzeStatement {} 3 0 scalarWhereExists).error = none :=
    @Resolve.Bounded.error_eq_none_of_lineageOf 6 _ _ _ (by decide +kernel) 0
  exact ⟨hst, h, h', lineage_ignores_conditions hst h h'⟩

/-- `SELECT (SELECT b FROM u WHERE cond) FROM t`: the condition stands inside
the expression that names the output. -/
def scalarWhere (cond : Sql.Expr) : Sql.Statement :=
  .query (selectWhere (.subquery (selectWhere (.identifier { value := "b" }) "u" (some cond))) "t"
    none)

/-- A condition inside a select item without an alias is part of the name of
its output. The two statements differ only in the WHERE condition of a
subquery and are both analysed without error, yet their lineages differ. -/
theorem condition_renames_output :
    (analyzeStatement {} 3 0 (scalarWhere (columnEquals "c" "1"))).error = none ∧
      (analyzeStatement {} 3 0 (scalarWhere (columnEquals "c" "2"))).error = none ∧
      (analyzeStatement {} 3 0 (scalarWhere (columnEquals "c" "2"))).lineage ≠
        (analyzeStatement {} 3 0 (scalarWhere (columnEquals "c" "1"))).lineage := by
  have h₁ : Resolve.Bounded.lineageOf 10 {} 3 (scalarWhere (columnEquals "c" "1")) =
      some ([{  target := { table := none, field := "(SELECT b FROM u WHERE c = 1)" }
                sources := [{ table := some { database := none, name := "u" }, field := "b" }]
                transformation := .subquery }], none) := by
    decide +kernel
  have h₂ : Resolve.Bounded.lineageOf 10 {} 3 (scalarWhere (columnEquals "c" "2")) =
      some ([{  target := { table := none, field := "(SELECT b FROM u WHERE c = 2)" }
                sources := [{ table := some { database := none, name := "u" }, field := "b" }]
                transformation := .subquery }], none) := by
    decide +kernel
  obtain ⟨hL₁, he₁⟩ := Resolve.Bounded.lineageOf_eq h₁ 0
  obtain ⟨hL₂, he₂⟩ := Resolve.Bounded.lineageOf_eq h₂ 0
  refine ⟨he₁, he₂, ?_⟩
  rw [hL₁, hL₂]
  decide

end ColumnLineage
