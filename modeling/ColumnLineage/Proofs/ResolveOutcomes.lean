import ColumnLineage.Proofs.Run
import Mathlib.Logic.Relation
/-
ColumnLineage/Proofs/ResolveOutcomes.lean

How the walk to sources ends, over any arena: also over arenas whose scopes
read one another in a circle, which the walk over a statement never builds.
The walk is total as defined: a step into another scope goes one level deeper
and is refused past the limit, and a computed field is read by structural
recursion over its inputs.

`Walks` is the walk with neither depth limit nor table of found names, as a
relation between what is asked (`Call`) and the answer. It holds only of
walks that finish, so a walk that keeps calling itself has no answer at all.
`Calls` says which calls a call makes, in the order the walk makes them; the
walk enters a cycle when it reaches a call that calls itself again
(`EntersCycle`), and then it has no answer (`no_answer_of_entersCycle`).

Main statements. From a table whose entries are answers of the walk without
limit, the walk either stops at the limit or gives that answer, and it keeps
the table so (`field_settles`). Hence the walk from the top (`sourcesOf_ends`)
succeeds, stops at the limit or meets a scope the arena does not hold; and
when it enters a cycle it stops at the limit.
-/

namespace ColumnLineage.Resolve

open Run Relation

/-- What the walk to sources is asked as it calls itself: the sources of a
field, of fields together, or of the output `name` of scope `id`. -/
inductive Call where
  | field (f : Field)
  | fields (fs : List Field)
  | named (id : Nat) (name : String) (position : Option Nat)

variable (arena : ScopeArena)

/-- The answer of the walk to sources with neither depth limit nor table of
found names, one rule for each way it ends or goes on. Only a walk that
finishes has an answer, and it fails only on a scope the arena does not
hold. -/
inductive Walks : Call → Except LineageError SourceSet → Prop where
  | table {n : String} {ref : ColumnRef} {p : Transformation} {t : TableName} :
      ref.origin = .table t →
      Walks (.field (.column n ref p)) (.ok [{ table := some t, field := ref.column }])
  | scope {n : String} {ref : ColumnRef} {p : Transformation} {c : Nat}
      {r : Except LineageError SourceSet} :
      ref.origin = .scope c → Walks (.named c ref.column ref.position) r →
      Walks (.field (.column n ref p)) r
  | ambiguous {n : String} {ref : ColumnRef} {p : Transformation} {labels : List String} :
      ref.origin = .ambiguous labels →
      Walks (.field (.column n ref p))
        (.ok [{ table := ref.qualifier, field := ref.column, kind := .ambiguous }])
  | unbound {n : String} {ref : ColumnRef} {p : Transformation} :
      ref.origin = .unbound →
      Walks (.field (.column n ref p))
        (.ok [{ table := ref.qualifier, field := ref.column, kind := .unresolved }])
  | pending {n : String} {ref : ColumnRef} {p : Transformation} :
      ref.origin = .pending →
      Walks (.field (.column n ref p))
        (.ok [{ table := ref.qualifier, field := ref.column, kind := .unresolved }])
  | derived {n : String} {deps : List Field} {p : Transformation}
      {r : Except LineageError SourceSet} :
      Walks (.fields deps) r → Walks (.field (.derived n deps p)) r
  | scalar {n : String} {c : Nat} {p : Transformation} {S : Scope}
      {r : Except LineageError SourceSet} :
      arena.get? c = some S → Walks (.fields S.fields) r → Walks (.field (.scalar n c p)) r
  | scalarUnknown {n : String} {c : Nat} {p : Transformation} :
      arena.get? c = none →
      Walks (.field (.scalar n c p)) (.error (.malformed ("unknown scope " ++ toString c)))
  | constant {n : String} {p : Transformation} :
      Walks (.field (.constant n p)) (.ok [{ table := none, field := n, kind := .literal }])
  | wildcard {n : String} {t : Option TableName} {p : Transformation} :
      Walks (.field (.wildcard n t p)) (.ok [{ table := t, field := "*", kind := .unresolvedWildcard }])
  | nil : Walks (.fields []) (.ok [])
  | cons {f : Field} {rest : List Field} {a b : SourceSet} :
      Walks (.field f) (.ok a) → Walks (.fields rest) (.ok b) →
      Walks (.fields (f :: rest)) (.ok (SourceSet.union a b))
  | headFails {f : Field} {rest : List Field} {e : LineageError} :
      Walks (.field f) (.error e) → Walks (.fields (f :: rest)) (.error e)
  | restFails {f : Field} {rest : List Field} {a : SourceSet} {e : LineageError} :
      Walks (.field f) (.ok a) → Walks (.fields rest) (.error e) →
      Walks (.fields (f :: rest)) (.error e)
  | unknown {id : Nat} {name : String} {position : Option Nat} :
      arena.get? id = none →
      Walks (.named id name position) (.error (.malformed ("unknown scope " ++ toString id)))
  | chosen {id : Nat} {name : String} {position : Option Nat} {S : Scope} {f : Field}
      {r : Except LineageError SourceSet} :
      arena.get? id = some S → (chooseField S.fields name position).1 = some f →
      Walks (.field f) r → Walks (.named id name position) r
  | link {id : Nat} {name : String} {position : Option Nat} {S : Scope} {n : String}
      {ref : ColumnRef} {p : Transformation} {child : Nat} {r : Except LineageError SourceSet} :
      arena.get? id = some S → (chooseField S.fields name position).1 = none →
      S.fields.filter Field.isStar = [.column n ref p] → ref.origin = .scope child →
      Walks (.named child name none) r → Walks (.named id name position) r
  | star {id : Nat} {name : String} {position : Option Nat} {S : Scope} {star : Field} :
      arena.get? id = some S → (chooseField S.fields name position).1 = none →
      S.fields.filter Field.isStar = [star] →
      (∀ n ref p, star = .column n ref p → ∀ child, ref.origin ≠ .scope child) →
      Walks (.named id name position) (.ok (starSource star name))
  | missing {id : Nat} {name : String} {position : Option Nat} {S : Scope} :
      arena.get? id = some S → (chooseField S.fields name position).1 = none →
      S.fields.filter Field.isStar = [] →
      Walks (.named id name position) (.ok [{ table := none, field := name, kind := .unresolved }])
  | several {id : Nat} {name : String} {position : Option Nat} {S : Scope} :
      arena.get? id = some S → (chooseField S.fields name position).1 = none →
      2 ≤ (S.fields.filter Field.isStar).length →
      Walks (.named id name position) (.ok [{ table := none, field := name, kind := .ambiguous }])

/-- The calls a call of the walk makes, in the order the walk makes them: a
later field of a list is read only once the ones before it gave sources. -/
inductive Calls : Call → Call → Prop where
  | scope {n : String} {ref : ColumnRef} {p : Transformation} {c : Nat} :
      ref.origin = .scope c → Calls (.field (.column n ref p)) (.named c ref.column ref.position)
  | derived {n : String} {deps : List Field} {p : Transformation} :
      Calls (.field (.derived n deps p)) (.fields deps)
  | scalar {n : String} {c : Nat} {p : Transformation} {S : Scope} :
      arena.get? c = some S → Calls (.field (.scalar n c p)) (.fields S.fields)
  | head {f : Field} {rest : List Field} : Calls (.fields (f :: rest)) (.field f)
  | tail {f : Field} {rest : List Field} {a : SourceSet} :
      Walks arena (.field f) (.ok a) → Calls (.fields (f :: rest)) (.fields rest)
  | chosen {id : Nat} {name : String} {position : Option Nat} {S : Scope} {f : Field} :
      arena.get? id = some S → (chooseField S.fields name position).1 = some f →
      Calls (.named id name position) (.field f)
  | link {id : Nat} {name : String} {position : Option Nat} {S : Scope} {n : String}
      {ref : ColumnRef} {p : Transformation} {child : Nat} :
      arena.get? id = some S → (chooseField S.fields name position).1 = none →
      S.fields.filter Field.isStar = [.column n ref p] → ref.origin = .scope child →
      Calls (.named id name position) (.named child name none)

/-- The walk of `q` enters a cycle: it reaches a call that, through the calls
it makes, calls itself again. -/
def EntersCycle (q : Call) : Prop :=
  ∃ q', ReflTransGen (Calls arena) q q' ∧ TransGen (Calls arena) q' q'

variable {arena}

/-! ### The walk without limit -/

/-- The walk without limit has at most one answer. -/
theorem Walks.unique {q : Call} {r r' : Except LineageError SourceSet}
    (h : Walks arena q r) (h' : Walks arena q r') : r = r' := by
  -- two rules for one call read the same scope and choose the same field, so
  -- their answers come from the same calls; rules of other shapes contradict
  -- each other's conditions
  induction h generalizing r' <;> cases h' <;> grind only [List.length_nil, List.length_cons]

/-- The walk without limit succeeds, or meets a scope the arena does not
hold. -/
theorem Walks.outcome {q : Call} {r : Except LineageError SourceSet} (h : Walks arena q r) :
    (∃ s, r = .ok s) ∨
      ∃ id, arena.get? id = none ∧ r = .error (.malformed ("unknown scope " ++ toString id)) := by
  induction h <;> grind only

/-- A walk that has an answer makes no endless chain of calls. -/
theorem Walks.acc {q : Call} {r : Except LineageError SourceSet} (h : Walks arena q r) :
    Acc (Function.swap (Calls arena)) q := by
  -- a later field of a list is called only after an answer that the failure
  -- of an earlier one rules out
  induction h <;> refine Acc.intro _ fun q' hq' => ?_ <;> cases hq' <;> grind only [Walks.unique, List.length_singleton]

/-- A walk that enters a cycle has no answer. -/
theorem no_answer_of_entersCycle {q : Call} (hq : EntersCycle arena q)
    (r : Except LineageError SourceSet) : ¬ Walks arena q r := by
  intro h
  obtain ⟨q', hreach, hcycle⟩ := hq
  -- every call the walk reaches makes only finite chains of calls
  have hreached : ∀ c, ReflTransGen (Calls arena) q c → Acc (Function.swap (Calls arena)) c := by
    intro c hc
    induction hc with
    | refl => exact h.acc
    | tail _ hstep ih => exact ih.inv hstep
  -- and none of them calls itself again
  have hirrefl : ∀ c, Acc (TransGen (Function.swap (Calls arena))) c →
      ¬ TransGen (Function.swap (Calls arena)) c c := by
    intro c hc
    induction hc with
    | intro c _ ih => exact fun hcc => ih c hcc hcc
  exact hirrefl q' (hreached q' hreach).transGen (TransGen.swap q' q' hcycle)

/-! ### The walk with its limit and its table -/

variable (arena) in
/-- Every entry of the table of found names is the answer, without limit, of
the name it is stored for. -/
def Kept (σ : ResolverState) : Prop :=
  ∀ e ∈ σ.found, Walks arena (.named e.1.1 e.1.2.1 e.1.2.2) (.ok e.2)

/-- A new walk starts with a kept table. -/
theorem kept_empty : Kept arena {} := fun _ he => absurd he List.not_mem_nil

variable (arena) (maxDepth : Nat) in
/-- From a kept table, a run of `x` keeps the table kept, and answers as the
walk without limit answers `q`, unless it stops at the limit. -/
def Settles (q : Call) (x : Resolve SourceSet) : Prop :=
  ∀ σ r σ', Kept arena σ → x.run.run σ = (r, σ') →
    Kept arena σ' ∧ (r = .error (.depthExceeded maxDepth) ∨ Walks arena q r)

section Settles

variable {maxDepth : Nat} {q q' : Call} {x : Resolve SourceSet}

theorem Settles.answer {a : SourceSet} (h : Walks arena q (.ok a)) :
    Settles arena maxDepth q (pure a) := by
  intro σ r σ' hσ hr
  cases hr
  exact ⟨hσ, .inr h⟩

theorem Settles.fail {e : LineageError} (h : Walks arena q (.error e)) :
    Settles arena maxDepth q (throw e) := by
  intro σ r σ' hσ hr
  cases hr
  exact ⟨hσ, .inr h⟩

theorem Settles.limit : Settles arena maxDepth q (throw (.depthExceeded maxDepth)) := by
  intro σ r σ' hσ hr
  cases hr
  exact ⟨hσ, .inl rfl⟩

/-- A run settles a call whose answer is that of a call it makes last. -/
theorem Settles.mono (h : Settles arena maxDepth q x)
    (hq : ∀ r, Walks arena q r → Walks arena q' r) : Settles arena maxDepth q' x := by
  intro σ r σ' hσ hr
  obtain ⟨hσ', hend⟩ := h σ r σ' hσ hr
  exact ⟨hσ', hend.imp_right (hq r)⟩

/-- Fields read in turn: the first one, then the rest, their sources
together; the first failure ends the list. -/
theorem Settles.union {f : Field} {rest : List Field} {y : Resolve SourceSet}
    (hx : Settles arena maxDepth (.field f) x) (hy : Settles arena maxDepth (.fields rest) y) :
    Settles arena maxDepth (.fields (f :: rest))
      (do let a ← x; let b ← y; return SourceSet.union a b) := by
  intro σ r σ' hσ hr
  rw [run_bind] at hr
  rcases h₁ : x.run.run σ with ⟨e | a, σ₁⟩ <;> rw [h₁] at hr <;> dsimp only at hr
  · obtain ⟨hσ₁, hend⟩ := hx σ _ σ₁ hσ h₁
    cases hr
    exact ⟨hσ₁, hend.imp_right .headFails⟩
  · obtain ⟨hσ₁, hend⟩ := hx σ _ σ₁ hσ h₁
    have ha : Walks arena (.field f) (.ok a) := hend.resolve_left (by rintro ⟨⟩)
    rw [run_bind] at hr
    rcases h₂ : y.run.run σ₁ with ⟨e | b, σ₂⟩ <;> rw [h₂] at hr <;> dsimp only at hr
    · obtain ⟨hσ₂, hend₂⟩ := hy σ₁ _ σ₂ hσ₁ h₂
      cases hr
      exact ⟨hσ₂, hend₂.imp_right (.restFails ha)⟩
    · obtain ⟨hσ₂, hend₂⟩ := hy σ₁ _ σ₂ hσ₁ h₂
      cases hr
      exact ⟨hσ₂, .inr (.cons ha (hend₂.resolve_left (by rintro ⟨⟩)))⟩

/-- The warning of a duplicate name leaves the table alone. -/
theorem Settles.duplicate_bind {c : Prop} [Decidable c] (column : String) (scope : Nat)
    {k : Resolve SourceSet} (hk : Settles arena maxDepth q k) :
    Settles arena maxDepth q (if c then duplicateOutput column scope >>= fun _ => k else k) := by
  by_cases hc : c
  · intro σ r σ' hσ hr
    simp only [hc, if_true, duplicateOutput] at hr
    rw [run_bind_of_ok (run_modify _ σ)] at hr
    refine hk _ r σ' ?_ hr
    split <;> exact hσ
  · simp only [hc, if_false]
    exact hk

end Settles

section Walk

variable {maxDepth : Nat}

mutual

/-- **The limit and the table only cut the walk short.** From a kept table, a
field read at any depth gives the answer of the walk without limit, unless it
stops at the limit. -/
theorem field_settles (d : Nat) (f : Field) :
    Settles arena maxDepth (.field f) (field arena maxDepth d f) := by
  match f with
  | .column n ref p =>
    rcases ho : ref.origin with _ | t | child | labels | _ <;> simp only [field, ho]
    case pending => exact Settles.answer (.pending ho)
    case table => exact Settles.answer (.table ho)
    case scope =>
      exact (named_settles (d + 1) child ref.column ref.position).mono fun _ => .scope ho
    case ambiguous => exact Settles.answer (.ambiguous ho)
    case unbound => exact Settles.answer (.unbound ho)
  | .derived n deps p =>
    simp only [field]
    exact (fields_settles d deps).mono fun _ => .derived
  | .scalar n child p =>
    simp only [field]
    by_cases hlim : maxDepth < d + 1
    · rw [dif_pos hlim]
      exact Settles.limit
    · rw [dif_neg hlim]
      cases hS : arena.get? child with
      | none => exact Settles.fail (.scalarUnknown hS)
      | some S =>
        simp only [fieldsDeeper]
        exact (fields_settles (d + 1) S.fields).mono fun _ => .scalar hS
  | .constant n p =>
    simp only [field]
    exact Settles.answer .constant
  | .wildcard n t p =>
    simp only [field]
    exact Settles.answer .wildcard
termination_by (maxDepth + 1 - d, sizeOf f, 1)
decreasing_by
  all_goals (simp only [Prod.lex_def, Field.column.sizeOf_spec, Field.derived.sizeOf_spec,
    true_and]; omega)

theorem fields_settles (d : Nat) (fs : List Field) :
    Settles arena maxDepth (.fields fs) (fields arena maxDepth d fs) := by
  match fs with
  | [] =>
    simp only [fields]
    exact Settles.answer .nil
  | f :: rest =>
    simp only [fields]
    exact Settles.union (field_settles d f) (fields_settles d rest)
termination_by (maxDepth + 1 - d, sizeOf fs, 1)
decreasing_by all_goals (simp only [Prod.lex_def, List.cons.sizeOf_spec, true_and]; omega)

theorem named_settles (d id : Nat) (name : String) (position : Option Nat) :
    Settles arena maxDepth (.named id name position) (named arena maxDepth d id name position) := by
  intro σ r σ' hσ hr
  simp only [named] at hr
  rw [run_bind_of_ok (run_get σ)] at hr
  cases hfound : σ.found.lookup (id, name, position) with
  | some sources =>
    -- a hit hands back an answer of the walk without limit
    rw [hfound] at hr
    cases hr
    obtain ⟨l₁, l₂, hl, -⟩ := List.lookup_eq_some_iff.mp hfound
    have hmem : ((id, name, position), sources) ∈ σ.found := by
      rw [hl]
      exact List.mem_append_right _ List.mem_cons_self
    exact ⟨hσ, .inr (hσ _ hmem)⟩
  | none =>
    rw [hfound] at hr
    dsimp only at hr
    by_cases hlim : maxDepth < d
    · rw [dif_pos hlim] at hr
      cases hr
      exact ⟨hσ, .inl rfl⟩
    · rw [dif_neg hlim, run_bind] at hr
      rcases h₁ : (lookup arena maxDepth d id name position hlim).run.run σ with
        ⟨e | sources, σ₁⟩ <;> rw [h₁] at hr <;> dsimp only at hr
      · -- a failed lookup stores nothing
        have hend := lookup_settles d id name position hlim σ _ σ₁ hσ h₁
        cases hr
        exact hend
      · obtain ⟨hσ₁, hend⟩ := lookup_settles d id name position hlim σ _ σ₁ hσ h₁
        have hw : Walks arena (.named id name position) (.ok sources) :=
          hend.resolve_left (by rintro ⟨⟩)
        rw [run_bind_of_ok (run_modify _ σ₁)] at hr
        cases hr
        -- the new entry is the answer the lookup found
        refine ⟨?_, .inr hw⟩
        rintro e (_ | ⟨_, he⟩)
        · exact hw
        · exact hσ₁ e he
termination_by (maxDepth + 2 - d, 0, 1)
decreasing_by all_goals (simp only [Prod.lex_def, true_and]; omega)

theorem lookup_settles (d id : Nat) (name : String) (position : Option Nat)
    (h : ¬ maxDepth < d) :
    Settles arena maxDepth (.named id name position) (lookup arena maxDepth d id name position h) := by
  simp only [lookup]
  cases hS : arena.get? id with
  | none => exact Settles.fail (.unknown hS)
  | some S =>
    refine Settles.duplicate_bind name id ?_
    cases hc : (chooseField S.fields name position).1 with
    | some f => exact (field_settles d f).mono fun _ => .chosen hS hc
    | none =>
      match hstars : S.fields.filter Field.isStar with
      | [] => exact Settles.answer (.missing hS hc hstars)
      | [star] =>
        have hthrough : ∀ (hlink : ∀ n ref p, star = .column n ref p → ∀ child,
            ref.origin ≠ .scope child), Settles arena maxDepth (.named id name position)
              (Pure.pure (starSource star name)) := fun hlink =>
          Settles.answer (.star hS hc hstars hlink)
        match star with
        | .column _ { origin := .scope child, .. } _ =>
          exact (named_settles (d + 1) child name none).mono fun _ => .link hS hc hstars rfl
        | .column _ { origin := .table _, .. } _ | .column _ { origin := .pending, .. } _
        | .column _ { origin := .ambiguous _, .. } _ | .column _ { origin := .unbound, .. } _ =>
          exact hthrough (by rintro _ _ _ ⟨⟩ _ ⟨⟩)
        | .derived .. | .scalar .. | .constant .. | .wildcard .. =>
          exact hthrough (by rintro _ _ _ ⟨⟩)
      | _ :: _ :: _ => exact Settles.answer (.several hS hc (by simp [hstars]))
termination_by (maxDepth + 2 - d, 0, 0)
decreasing_by all_goals (simp only [Prod.lex_def]; omega)

end

end Walk

/-- **How the walk to sources ends, on any arena.** Started from a kept table
(the empty one of a new walk, or one that earlier walks over the same arena
left), the walk from the top of any field keeps the table kept; it succeeds,
stops at the depth limit, or meets a scope the arena does not hold; and when
it enters a cycle of calls, it stops at the depth limit. -/
theorem sourcesOf_ends (arena : ScopeArena) (maxDepth : Nat) (f : Field) {σ : ResolverState}
    (hσ : Kept arena σ) :
    Kept arena ((sourcesOf arena maxDepth f).run.run σ).2 ∧
      ((∃ s, ((sourcesOf arena maxDepth f).run.run σ).1 = .ok s) ∨
        ((sourcesOf arena maxDepth f).run.run σ).1 = .error (.depthExceeded maxDepth) ∨
        ∃ id, arena.get? id = none ∧ ((sourcesOf arena maxDepth f).run.run σ).1 =
          .error (.malformed ("unknown scope " ++ toString id))) ∧
      (EntersCycle arena (.field f) →
        ((sourcesOf arena maxDepth f).run.run σ).1 = .error (.depthExceeded maxDepth)) := by
  obtain ⟨hkept, hend⟩ := field_settles 0 f σ _ _ hσ rfl
  refine ⟨hkept, ?_, fun hcycle => hend.resolve_right (no_answer_of_entersCycle hcycle _)⟩
  rcases hend with hlim | hw
  · exact .inr (.inl hlim)
  · exact hw.outcome.elim .inl fun hunknown => .inr (.inr hunknown)

/-- The column `a` of a scope whose one output is its own column `a`. -/
def selfReadingColumn : Field :=
  .column "a" { qualifier := none, column := "a", origin := .scope 0 } .direct

/-- An arena of one scope that reads its own output. -/
def selfReading : ScopeArena where
  scopes := #[{ id := 0, parent := none, kind := .query, aliasName := none,
                fields := [selfReadingColumn] }]
  maxDepth := 64

/-- The column reads the scope, whose output `a` is the column again. -/
theorem selfReading_stops_at_limit :
    Kept selfReading {} ∧ EntersCycle selfReading (.field selfReadingColumn) ∧
      ((sourcesOf selfReading 5 selfReadingColumn).run.run {}).1 = .error (.depthExceeded 5) := by
  have hcycle : EntersCycle selfReading (.field selfReadingColumn) :=
    ⟨_, .refl, .tail (.single (.scope rfl)) (.chosen rfl (by simp [chooseField, selfReading, selfReadingColumn, Field.name]))⟩
  exact ⟨kept_empty, hcycle, (sourcesOf_ends selfReading 5 selfReadingColumn kept_empty).2.2 hcycle⟩

end ColumnLineage.Resolve
