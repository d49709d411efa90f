import ColumnLineage.Proofs.DetectSteps
/-
ColumnLineage/Proofs/Balance.lean

The walk over a statement is balanced. Every scope it opens it closes again,
so each part of the walk that succeeds leaves the stack of open scopes as it
found it; and every query closes the frame of WITH names it opened, whether
its walk succeeds or fails. A failure of the walk is therefore never the
failure to close a scope that is not open, and a statement walked from a
fresh detector never ends with scopes left open (`walk_balanced`).

The facts are stated as triples (`Triple n P Q x`): from a detector where
`P` holds, `x` either succeeds where `Q` holds or fails with a failure the
walk may raise (`LineageError.Raisable`), leaving `n` frames. A part of the
walk is `Balanced` when it keeps the level it starts at: the same open
scopes and the same number of frames. Opening a scope raises the level by
that scope and closing it lowers it again, so the cases of the walk that
open a scope are triples between two levels, and all the others are
balanced by `Balanced.bind`.
-/

namespace ColumnLineage

open Run Detect

/-- The failures the walk over a statement may raise: any but the failure to
close a scope that is not open, and the complaint that scopes were left open. -/
def LineageError.Raisable (e : LineageError) : Prop :=
  e ≠ .scopeUnderflow ∧ e ≠ .malformed "scopes left open after traversal"

/-- A complaint about the statement's shape is raisable unless it starts like
the complaint about open scopes. -/
theorem LineageError.raisable_malformed {d : String} (h : d.toList.head? ≠ some 's') :
    (LineageError.malformed d).Raisable := by
  refine ⟨nofun, fun he => h ?_⟩
  cases he
  decide

/-- The walk stands with the open scopes `stack` and `n` frames of WITH names. -/
def Detector.At (stack : List Nat) (n : Nat) (d : Detector) : Prop :=
  d.arena.stack = stack ∧ d.frames.length = n

section Triples

variable {α β : Type} {n : Nat} {P : Detector → Prop} {Q R : α → Detector → Prop}

/-- How a run may end, for a walk whose failures leave `n` frames: a success
whose answer and detector `Q` accepts, or a failure the walk may raise. -/
def Ends (n : Nat) (Q : α → Detector → Prop) : Except LineageError α × Detector → Prop
  | (.ok a, s') => Q a s'
  | (.error e, s') => e.Raisable ∧ s'.frames.length = n

/-- Run from a detector where `P` holds, `x` ends as `Ends n Q` says. -/
def Triple (n : Nat) (P : Detector → Prop) (Q : α → Detector → Prop) (x : Detect α) : Prop :=
  ∀ s, P s → Ends n Q (x.run.run s)

theorem Triple.bind {R : β → Detector → Prop} {x : Detect α} {f : α → Detect β}
    (hx : Triple n P Q x) (hf : ∀ a, Triple n (Q a) R (f a)) : Triple n P R (x >>= f) := by
  intro s hs
  have hend := hx s hs
  rw [Run.run_bind]
  rcases h : x.run.run s with ⟨e | a, s₁⟩ <;> rw [h] at hend
  · exact hend
  · exact hf a s₁ hend

theorem Triple.pure (a : α) (h : ∀ s, P s → Q a s) : Triple n P Q (Pure.pure a) :=
  fun s hs => h s hs

theorem Triple.of_throw (e : LineageError) (he : e.Raisable) (h : ∀ s, P s → s.frames.length = n) :
    Triple n P Q (throw e) :=
  fun s hs => ⟨he, h s hs⟩

theorem Triple.throw_bind {R : β → Detector → Prop} {f : α → Detect β} (e : LineageError) (he : e.Raisable)
    (h : ∀ s, P s → s.frames.length = n) : Triple n P R (throw e >>= f) := by
  intro s hs
  rw [run_bind_of_error (run_throw e s)]
  exact ⟨he, h s hs⟩

/-- A step that reads the detector first. -/
theorem Triple.get_bind {f : Detector → Detect α} (h : ∀ s₀, Triple n P Q (f s₀)) :
    Triple n P Q (get >>= f) := by
  intro s hs
  rw [run_bind_of_ok (run_get s)]
  exact h s s hs

theorem Triple.ite {c : Prop} [Decidable c] {x y : Detect α} (hx : c → Triple n P Q x)
    (hy : ¬ c → Triple n P Q y) : Triple n P Q (if c then x else y) := by
  by_cases hc : c
  · simpa only [hc, if_true] using hx hc
  · simpa only [hc, if_false] using hy hc

/-- The body of a query, its failures closing the frame of its WITH names:
a failure that left `n + 1` frames leaves `n`. -/
theorem Triple.catchPop {x : Detect α} (hx : Triple (n + 1) P Q x) :
    Triple n P Q (tryCatch x fun e => do popFrame; throw e) := by
  intro s hs
  have hend := hx s hs
  rw [run_tryCatch]
  rcases h : x.run.run s with ⟨e | a, s₁⟩ <;> rw [h] at hend <;> dsimp only
  · rw [run_popFrame_throw]
    exact ⟨hend.1, by simp [hend.2]⟩
  · exact hend

end Triples

section Balanced

variable {α β : Type}

/-- `x` keeps the level of the walk: run with any open scopes and frames, it
succeeds with the same open scopes and as many frames, or fails with a
raisable failure that leaves as many frames. -/
def Balanced (x : Detect α) : Prop :=
  ∀ stack n, Triple n (Detector.At stack n) (fun _ => Detector.At stack n) x

theorem Balanced.bind {x : Detect α} {f : α → Detect β} (hx : Balanced x)
    (hf : ∀ a, Balanced (f a)) : Balanced (x >>= f) :=
  fun stack n => (hx stack n).bind fun a => hf a stack n

theorem Balanced.pure (a : α) : Balanced (Pure.pure a) :=
  fun _ _ => Triple.pure a fun _ h => h

theorem Balanced.of_throw (e : LineageError) (he : e.Raisable) :
    Balanced (throw e : Detect α) :=
  fun _ _ => Triple.of_throw e he fun _ h => h.2

theorem Balanced.get_bind {f : Detector → Detect α} (h : ∀ s₀, Balanced (f s₀)) :
    Balanced (get >>= f) :=
  fun stack n => Triple.get_bind fun s₀ => h s₀ stack n

/-- A step that changes the detector without failing, keeping the open scopes
and the number of frames. -/
theorem Balanced.of_run {x : Detect α}
    (h : ∀ s, ∃ a s', x.run.run s = (.ok a, s') ∧ s'.arena.stack = s.arena.stack ∧
      s'.frames.length = s.frames.length) : Balanced x := by
  intro stack n s hs
  obtain ⟨a, s', hr, hstack, hframes⟩ := h s
  rw [hr]
  exact ⟨hstack.trans hs.1, hframes.trans hs.2⟩

/-- A step that fails with a raisable failure or changes the detector keeping
the open scopes and the number of frames. -/
theorem Balanced.of_run_or {x : Detect α}
    (h : ∀ s, (∃ e, e.Raisable ∧ x.run.run s = (.error e, s)) ∨
      ∃ a s', x.run.run s = (.ok a, s') ∧ s'.arena.stack = s.arena.stack ∧
        s'.frames.length = s.frames.length) : Balanced x := by
  intro stack n s hs
  rcases h s with ⟨e, he, hr⟩ | ⟨a, s', hr, hstack, hframes⟩ <;> rw [hr]
  · exact ⟨he, hs.2⟩
  · exact ⟨hstack.trans hs.1, hframes.trans hs.2⟩

end Balanced

/-! ### The primitive steps -/

section Primitives

variable {α : Type}

theorem triple_enter (kind : ScopeKind) (aliasName : Option String) (stack : List Nat) (n : Nat) :
    Triple n (Detector.At stack n) (fun id => Detector.At (id :: stack) n)
      (enter kind aliasName) := by
  intro s hs
  rw [run_enter]
  split
  · exact ⟨⟨nofun, nofun⟩, hs.2⟩
  · exact ⟨by simp [hs.1], hs.2⟩

/-- Closing the scope that the level above `stack` holds. -/
theorem triple_exit (id : Nat) (stack : List Nat) (n : Nat) :
    Triple n (Detector.At (id :: stack) n) (fun _ => Detector.At stack n) exit := by
  intro s hs
  rw [run_exit, hs.1]
  exact ⟨rfl, hs.2⟩

theorem triple_pushFrame (stack : List Nat) (n : Nat) :
    Triple n (Detector.At stack n) (fun _ => Detector.At stack (n + 1)) pushFrame := by
  intro s hs
  rw [run_pushFrame]
  exact ⟨hs.1, by simp [hs.2]⟩

theorem triple_popFrame (stack : List Nat) (n : Nat) :
    Triple n (Detector.At stack (n + 1)) (fun _ => Detector.At stack n) popFrame := by
  intro s hs
  rw [run_popFrame]
  exact ⟨hs.1, by simp [hs.2]⟩

theorem balanced_modifyScope (id : Nat) (f : Scope → Scope) : Balanced (modifyScope id f) := by
  refine Balanced.of_run_or fun s => ?_
  rw [run_modifyScope]
  split
  · exact .inl ⟨_, LineageError.raisable_malformed (by simp), rfl⟩
  · exact .inr ⟨(), _, rfl, rfl, rfl⟩

theorem balanced_finalize (id : Nat) : Balanced (finalize id) := by
  refine Balanced.of_run fun s => ⟨(), _, run_finalize id s, ?_, rfl⟩
  unfold Bindings.finalize
  split <;> rfl

theorem balanced_bind (aliasName : Option String) (target : BindingTarget) :
    Balanced (Detect.bind aliasName target) := by
  refine Balanced.of_run_or fun s => ?_
  rw [Detect.run_bind]
  split
  · exact .inr ⟨(), _, rfl, rfl, rfl⟩
  · exact .inl ⟨_, LineageError.raisable_malformed (by simp), rfl⟩

theorem balanced_addUsing (columns : List Sql.ObjectName) : Balanced (addUsing columns) := by
  refine Balanced.of_run_or fun s => ?_
  rw [run_addUsing]
  split
  · exact .inr ⟨(), _, rfl, rfl, rfl⟩
  · exact .inl ⟨_, LineageError.raisable_malformed (by simp), rfl⟩

theorem balanced_addCte (name : String) (id : Nat) : Balanced (addCte name id) := by
  refine Balanced.of_run fun s => ⟨(), _, run_addCte name id s, rfl, ?_⟩
  split <;> simp_all

theorem balanced_lookupCte (t : TableName) : Balanced (lookupCte t) :=
  Balanced.of_run fun s => ⟨_, s, run_lookupCte t s, rfl, rfl⟩

theorem balanced_log (e : Log.Event) : Balanced (log e) :=
  Balanced.of_run fun s => ⟨(), _, run_log e s, rfl, rfl⟩

theorem balanced_modify (f : Detector → Detector)
    (h : ∀ d, (f d).arena.stack = d.arena.stack ∧ (f d).frames.length = d.frames.length) :
    Balanced (modify f) :=
  Balanced.of_run fun s => ⟨(), f s, run_modify f s, h s⟩

theorem balanced_expandWildcard (qualifier : Option TableName) :
    Balanced (expandWildcard qualifier) := by
  refine Balanced.of_run_or fun s => ?_
  rw [run_expandWildcard]
  split
  · exact .inl ⟨_, LineageError.raisable_malformed (by simp), rfl⟩
  · exact .inr ⟨_, _, rfl, rfl, rfl⟩

end Primitives

/-! ### The walk -/

/-- An expression walk from any list of inputs is balanced. -/
def WalkBalanced (x : List Field → Detect (List Field)) : Prop := ∀ acc, Balanced (x acc)

theorem WalkBalanced.pure : WalkBalanced (fun acc => pure acc) := fun acc => Balanced.pure acc

theorem WalkBalanced.comp {x y : List Field → Detect (List Field)} (hx : WalkBalanced x)
    (hy : WalkBalanced y) : WalkBalanced (fun acc => x acc >>= y) :=
  fun acc => (hx acc).bind hy

/-- A subquery walked for its own sake, its answer dropped. -/
theorem WalkBalanced.after {q : Detect Nat} (hq : Balanced q) {x : List Field → Detect (List Field)}
    (hx : WalkBalanced x) : WalkBalanced (fun acc => q >>= fun _ => x acc) :=
  fun acc => hq.bind fun _ => hx acc

mutual

theorem query_balanced (kind : ScopeKind) (aliasName : Option String) :
    ∀ q, Balanced (query kind aliasName q)
  | .mk _ ctes body _ => by
    intro stack n
    simp only [query]
    -- the body runs one frame up; its failures close that frame on the way out
    refine (triple_pushFrame stack n).bind fun _ =>
      (Triple.catchPop (((withClause_balanced ctes).bind fun _ =>
        setExpr_balanced kind aliasName body) stack (n + 1))).bind fun _ => ?_
    exact (triple_popFrame stack n).bind fun _ => Triple.pure _ fun _ h => h

theorem withClause_balanced : ∀ ctes, Balanced (withClause ctes)
  | [] => Balanced.pure ()
  | .mk a q _ _ :: rest => by
    simp only [withClause]
    exact (query_balanced .cte _ q).bind fun id => (balanced_addCte _ id).bind fun _ =>
      withClause_balanced rest

theorem setExpr_balanced (kind : ScopeKind) (aliasName : Option String) :
    ∀ t, Balanced (setExpr kind aliasName t)
  | .select sel => by
    simp only [setExpr]
    exact select_balanced kind aliasName sel
  | .query q => by
    simp only [setExpr]
    exact query_balanced kind aliasName q
  | .setOp l _ _ r => by
    intro stack n
    simp only [setExpr]
    -- both operands and the outputs are made one level up, in the new scope
    refine (triple_enter kind aliasName stack n).bind fun id => ?_
    exact (setExpr_balanced .setOperand none l (id :: stack) n).bind fun _ =>
      (setExpr_balanced .setOperand none r (id :: stack) n).bind fun _ =>
      Triple.get_bind fun _ => (balanced_modifyScope _ _ (id :: stack) n).bind fun _ =>
      (triple_exit id stack n).bind fun _ => Triple.pure _ fun _ h => h
  | .values _ [] => by
    intro stack n
    simp only [setExpr]
    refine (triple_enter _ aliasName stack n).bind fun id => ?_
    exact (Balanced.pure [] (id :: stack) n).bind fun _ =>
      (balanced_modifyScope _ _ (id :: stack) n).bind fun _ =>
      (balanced_finalize id (id :: stack) n).bind fun _ =>
      (triple_exit id stack n).bind fun _ => Triple.pure _ fun _ h => h
  | .values _ (row :: _) => by
    intro stack n
    simp only [setExpr]
    refine (triple_enter _ aliasName stack n).bind fun id => ?_
    exact (rowFields_balanced 1 row (id :: stack) n).bind fun _ =>
      (balanced_modifyScope _ _ (id :: stack) n).bind fun _ =>
      (balanced_finalize id (id :: stack) n).bind fun _ =>
      (triple_exit id stack n).bind fun _ => Triple.pure _ fun _ h => h
  | .insert .. => by
    simp only [setExpr]
    exact Balanced.of_throw _ (LineageError.raisable_malformed (by simp))
  | .other _ => by
    simp only [setExpr]
    exact Balanced.of_throw _ (LineageError.raisable_malformed (by simp))

theorem select_balanced (kind : ScopeKind) (aliasName : Option String) :
    ∀ sel, Balanced (select kind aliasName sel)
  | .mk _ projection _ from_ _ selection _ having _ => by
    intro stack n
    simp only [select]
    -- everything between opening the scope and closing it happens one level up
    refine (triple_enter kind aliasName stack n).bind fun id => ?_
    exact (fromClause_balanced from_ (id :: stack) n).bind fun _ =>
      (selectItems_balanced projection (id :: stack) n).bind fun _ =>
      (balanced_modifyScope _ _ (id :: stack) n).bind fun _ =>
      (walkOpt_balanced .predicate selection [] (id :: stack) n).bind fun _ =>
      (walkOpt_balanced .predicate having [] (id :: stack) n).bind fun _ =>
      (balanced_finalize id (id :: stack) n).bind fun _ =>
      (triple_exit id stack n).bind fun _ => Triple.pure _ fun _ h => h

theorem selectItems_balanced : ∀ items, Balanced (selectItems items)
  | [] => Balanced.pure []
  | item :: rest => by
    simp only [selectItems]
    exact (selectItem_balanced item).bind fun _ => (selectItems_balanced rest).bind fun _ =>
      Balanced.pure _

theorem selectItem_balanced : ∀ item, Balanced (selectItem item)
  | .expr e aliasName => by
    simp only [selectItem]
    split
    · exact Balanced.pure _
    · exact (walk_balanced .value e []).bind fun _ => Balanced.pure _
  | .wildcard none _ => by
    simp only [selectItem]
    exact balanced_expandWildcard none
  | .wildcard (some name) _ => by
    simp only [selectItem]
    split
    · exact balanced_expandWildcard _
    · exact Balanced.of_throw _ (LineageError.raisable_malformed (by simp))

theorem rowFields_balanced (k : Nat) : ∀ row, Balanced (rowFields k row)
  | [] => Balanced.pure []
  | e :: rest => by
    simp only [rowFields]
    exact (walk_balanced .value e []).bind fun _ => (rowFields_balanced (k + 1) rest).bind
      fun _ => Balanced.pure _

theorem fromClause_balanced : ∀ ts, Balanced (fromClause ts)
  | [] => Balanced.pure ()
  | t :: rest => by
    simp only [fromClause]
    exact (tableWithJoins_balanced t).bind fun _ => fromClause_balanced rest

theorem tableWithJoins_balanced : ∀ t, Balanced (tableWithJoins t)
  | .mk relation js => by
    simp only [tableWithJoins]
    exact (factor_balanced relation).bind fun _ => joins_balanced js

theorem joins_balanced : ∀ js, Balanced (joins js)
  | [] => Balanced.pure ()
  | .mk _ kind relation on c :: rest => by
    simp only [joins]
    refine (factor_balanced relation).bind fun _ => ?_
    split
    · split
      · exact (walkOpt_balanced .predicate on []).bind fun _ => joins_balanced rest
      · exact (balanced_addUsing _).bind fun _ => joins_balanced rest
      · exact joins_balanced rest
    · exact joins_balanced rest

theorem factor_balanced : ∀ t, Balanced (factor t)
  | .table name _ aliasName _ => by
    simp only [factor]
    split
    · refine (balanced_lookupCte _).bind fun r => ?_
      -- a WITH name in reach binds its scope, any other name its table
      cases r <;> exact (Balanced.pure _).bind fun target => balanced_bind _ target
    · exact Balanced.of_throw _ (LineageError.raisable_malformed (by simp))
  | .derived _ q aliasName => by
    simp only [factor]
    exact (query_balanced .derived _ q).bind fun child => balanced_bind _ _
  | .nestedJoin inner _ => by
    simp only [factor]
    exact tableWithJoins_balanced inner
  | .other _ => by
    simp only [factor]
    exact balanced_log _

theorem walk_balanced (mode : WalkMode) : ∀ e, WalkBalanced (walk mode e)
  | .identifier i => fun acc => by
    rw [walk_identifier]
    split <;> exact Balanced.pure _
  | .compound parts => fun acc => by
    rw [walk_compound]
    split
    · split <;> exact Balanced.pure _
    · exact Balanced.pure _
  | .isTest e _ => walk_balanced mode e
  | .isDistinctFrom a _ b => (walk_balanced mode a).comp (walk_balanced mode b)
  | .inList e list _ => (walk_balanced mode e).comp (walkList_balanced mode list)
  | .inSubquery e q _ =>
    WalkBalanced.after (query_balanced .predicate none q) (walk_balanced mode e)
  | .inUnnest e arr _ => (walk_balanced mode e).comp (walk_balanced mode arr)
  | .between e _ lo hi =>
    (walk_balanced mode e).comp ((walk_balanced mode lo).comp (walk_balanced mode hi))
  | .binary l _ r => (walk_balanced mode l).comp (walk_balanced mode r)
  | .like _ _ _ e p _ => (walk_balanced mode e).comp (walk_balanced mode p)
  | .rlike _ e p _ => (walk_balanced mode e).comp (walk_balanced mode p)
  | .quantified l _ _ r => (walk_balanced mode l).comp (walk_balanced mode r)
  | .unary _ e => walk_balanced mode e
  | .postOp e _ => walk_balanced mode e
  | .cast _ e _ _ => walk_balanced mode e
  | .atTimeZone t z => (walk_balanced mode t).comp (walk_balanced mode z)
  | .extract _ _ e => walk_balanced mode e
  | .ceilFloor _ e _ _ => walk_balanced mode e
  | .position e i => (walk_balanced mode e).comp (walk_balanced mode i)
  | .substring e f fo _ =>
    (walk_balanced mode e).comp ((walkOpt_balanced mode f).comp (walkOpt_balanced mode fo))
  | .trim e _ what chars =>
    (walk_balanced mode e).comp ((walkOpt_balanced mode what).comp
      (walkList_balanced mode chars))
  | .overlay e w f fo =>
    (walk_balanced mode e).comp ((walk_balanced mode w).comp
      ((walk_balanced mode f).comp (walkOpt_balanced mode fo)))
  | .collate e _ => walk_balanced mode e
  | .nested e => walk_balanced mode e
  | .tuple items => walkList_balanced mode items
  | .array items _ => walkList_balanced mode items
  | .interval v _ => walk_balanced mode v
  | .function _ params args filter _ window withinGroup _ =>
    (walkArgs_balanced mode params).comp ((walkArgs_balanced mode args).comp
      ((walkOpt_balanced mode filter).comp ((walkWindow_balanced mode window).comp
        (walkOrder_balanced mode withinGroup))))
  | .namedArg _ _ e => walk_balanced mode e
  | .exprNamedArg name _ e => (walk_balanced mode name).comp (walk_balanced mode e)
  | .matchAgainst .. => WalkBalanced.pure
  | .case operand conds results otherwise =>
    (walkOpt_balanced mode operand).comp ((walkList_balanced mode conds).comp
      ((walkList_balanced mode results).comp (walkOpt_balanced mode otherwise)))
  | .exists q _ => WalkBalanced.after (query_balanced .predicate none q) WalkBalanced.pure
  | .subquery q => fun acc => by
    cases mode
    · exact (query_balanced .scalar none q).bind fun _ => Balanced.pure _
    · exact WalkBalanced.after (query_balanced .predicate none q) WalkBalanced.pure acc
  | .access root chain => (walk_balanced mode root).comp (walkAccess_balanced mode chain)
  | .pathAccess e path => (walk_balanced mode e).comp (walkPath_balanced mode path)
  | .composite e _ => walk_balanced mode e
  | .wildcard => WalkBalanced.pure
  | .qualifiedWildcard _ => WalkBalanced.pure
  | .introduced .. => WalkBalanced.pure
  | .convert _ e _ _ _ styles => (walk_balanced mode e).comp (walkList_balanced mode styles)
  | .structLiteral _ values => walkList_balanced mode values
  | .named e _ => walk_balanced mode e
  | .dictionary _ values => walkList_balanced mode values
  | .mapLiteral entries => walkEntries_balanced mode entries
  | .prior e => walk_balanced mode e
  | .lambda _ _ body => walk_balanced mode body
  | .outerJoin e => walk_balanced mode e
  | .method e calls => (walk_balanced mode e).comp (walkList_balanced mode calls)
  | .value _ => WalkBalanced.pure
  | .typedString .. => WalkBalanced.pure

theorem walkList_balanced (mode : WalkMode) : ∀ es, WalkBalanced (walkList mode es)
  | [] => WalkBalanced.pure
  | e :: rest => (walk_balanced mode e).comp (walkList_balanced mode rest)

theorem walkAccess_balanced (mode : WalkMode) : ∀ chain, WalkBalanced (walkAccess mode chain)
  | [] => WalkBalanced.pure
  | .field e :: rest => (walk_balanced mode e).comp (walkAccess_balanced mode rest)
  | .index e :: rest => (walk_balanced mode e).comp (walkAccess_balanced mode rest)
  | .slice lower upper stride :: rest =>
    (walkOpt_balanced mode lower).comp ((walkOpt_balanced mode upper).comp
      ((walkOpt_balanced mode stride).comp (walkAccess_balanced mode rest)))

theorem walkClauses_balanced (mode : WalkMode) : ∀ clauses, WalkBalanced (walkClauses mode clauses)
  | [] => WalkBalanced.pure
  | .mk _ e _ :: rest => (walkOpt_balanced mode e).comp (walkClauses_balanced mode rest)

theorem walkEntries_balanced (mode : WalkMode) : ∀ entries, WalkBalanced (walkEntries mode entries)
  | [] => WalkBalanced.pure
  | .mk key v :: rest =>
    (walk_balanced mode key).comp ((walk_balanced mode v).comp
      (walkEntries_balanced mode rest))

theorem walkPath_balanced (mode : WalkMode) : ∀ path, WalkBalanced (walkPath mode path)
  | [] => WalkBalanced.pure
  | .key _ _ :: rest => walkPath_balanced mode rest
  | .bracket e :: rest => (walk_balanced mode e).comp (walkPath_balanced mode rest)

theorem walkOpt_balanced (mode : WalkMode) : ∀ e, WalkBalanced (walkOpt mode e)
  | none => WalkBalanced.pure
  | some e => walk_balanced mode e

theorem walkArgs_balanced (mode : WalkMode) : ∀ args, WalkBalanced (walkArgs mode args)
  | .list _ args _ orderBy limit clauses =>
    (walkList_balanced mode args).comp ((walkOrder_balanced mode orderBy).comp
      ((walkOpt_balanced mode limit).comp (walkClauses_balanced mode clauses)))
  | .none => WalkBalanced.pure
  | .subquery _ => WalkBalanced.pure

theorem walkOrder_balanced (mode : WalkMode) : ∀ items, WalkBalanced (walkOrder mode items)
  | [] => WalkBalanced.pure
  | .mk e _ _ fill :: rest =>
    (walk_balanced mode e).comp ((walkFill_balanced mode fill).comp
      (walkOrder_balanced mode rest))

theorem walkFill_balanced (mode : WalkMode) : ∀ fill, WalkBalanced (walkFill mode fill)
  | some (.mk start stop step) =>
    (walkOpt_balanced mode start).comp ((walkOpt_balanced mode stop).comp
      (walkOpt_balanced mode step))
  | none => WalkBalanced.pure

theorem walkWindow_balanced (mode : WalkMode) : ∀ window, WalkBalanced (walkWindow mode window)
  | some (.spec _ partitionBy orderBy _ _ startExpr _ endExpr) =>
    (walkList_balanced mode partitionBy).comp ((walkOrder_balanced mode orderBy).comp
      ((walkOpt_balanced mode startExpr).comp (walkOpt_balanced mode endExpr)))
  | some (.named _) => WalkBalanced.pure
  | none => WalkBalanced.pure

end

/-! ### Statements -/

/-- Walking a statement's query from a detector with no open scope, recording
its scope and checking that no scope is left open: the check passes, as the
walk closes every scope it opens. -/
theorem triple_root (q : Sql.Query) (n : Nat) :
    Triple n (Detector.At [] n) (fun _ _ => True) (do
      let r ← query .query none q
      modify fun d => { d with root := some r }
      if (← get).arena.depth != 0 then throw (.malformed "scopes left open after traversal")) := by
  refine (query_balanced .query none q [] n).bind fun _ => ?_
  refine (balanced_modify _ (by intro; exact ⟨rfl, rfl⟩) [] n).bind fun _ => ?_
  intro s hs
  have hdepth : s.arena.depth = 0 := by simp [ScopeArena.depth, hs.1]
  rw [run_bind_of_ok (run_get s)]
  simp only [hdepth, bne_self_eq_false, Bool.false_eq_true, if_false]
  exact trivial

/-- The walk over a statement from a detector with no open scope fails only
with a raisable failure. -/
theorem statement_raisable (st : Sql.Statement) (n : Nat) :
    Triple n (Detector.At [] n) (fun _ _ => True) (Detect.statement st) := by
  have hthrow : ∀ {β : Type} {f : β → Detect Unit} (e : LineageError), e.Raisable →
      Triple n (Detector.At [] n) (fun _ _ => True) (throw e >>= f) :=
    fun e he => Triple.throw_bind e he fun _ h => h.2
  have hrecord : ∀ d : Detector → Detector, (∀ d₀, (d d₀).arena = d₀.arena ∧ (d d₀).frames = d₀.frames) →
      Balanced (modify d) :=
    fun d hd => balanced_modify d fun d₀ => ⟨by rw [(hd d₀).1], by rw [(hd d₀).2]⟩
  simp only [Detect.statement]
  refine Triple.get_bind fun _ => ?_
  split
  · exact hthrow _ ⟨nofun, nofun⟩
  refine (hrecord _ (by intro; exact ⟨rfl, rfl⟩) [] n).bind fun _ => ?_
  -- every kind of statement either fails at once or walks its query at the top
  split
  · exact triple_root _ n
  · split
    · split
      · refine (Triple.pure _ fun _ h => h).bind fun _ => (balanced_log _ [] n).bind fun _ =>
          (hrecord _ (by intro; exact ⟨rfl, rfl⟩) [] n).bind fun _ => ?_
        split
        · exact hthrow _ (LineageError.raisable_malformed (by simp))
        · exact triple_root _ n
      · exact hthrow _ (LineageError.raisable_malformed (by simp))
    · exact hthrow _ (LineageError.raisable_malformed (by simp))
  · split
    · exact hthrow _ ⟨nofun, nofun⟩
    · exact (hrecord _ (by intro; exact ⟨rfl, rfl⟩) [] n).bind fun _ => triple_root _ n
  · exact (hrecord _ (by intro; exact ⟨rfl, rfl⟩) [] n).bind fun _ => triple_root _ n
  · exact hthrow _ ⟨nofun, nofun⟩

/-- A run from `s` that kept the level of the walk: a success with the open
scopes of `s` and as many frames of WITH names, or a raisable failure that
leaves as many frames. -/
def Detector.Kept {α : Type} (s : Detector) : Except LineageError α × Detector → Prop :=
  Ends s.frames.length fun _ s' => Detector.At s.arena.stack s.frames.length s'

theorem Balanced.kept {α : Type} {x : Detect α} (h : Balanced x) (s : Detector) :
    s.Kept (x.run.run s) :=
  h s.arena.stack s.frames.length s ⟨rfl, rfl⟩

/-- **The walk closes what it opens.** A query, a query body, a SELECT (and so
a set operation and a VALUES list) and a table reference with its joins, walked
from any detector, either succeed with the open scopes they found, or fail with
a failure other than closing a scope that is not open; a query leaves as many
frames of WITH names as it found either way. So the walk over a statement from
a fresh detector never fails by closing a scope that is not open, and never
finds scopes left open at its end. -/
theorem walk_closes_what_it_opens :
    (∀ kind aliasName q (s : Detector), s.Kept ((query kind aliasName q).run.run s)) ∧
    (∀ kind aliasName t (s : Detector), s.Kept ((setExpr kind aliasName t).run.run s)) ∧
    (∀ kind aliasName sel (s : Detector), s.Kept ((select kind aliasName sel).run.run s)) ∧
    (∀ t (s : Detector), s.Kept ((tableWithJoins t).run.run s)) ∧
    (∀ catalog maxDepth st, ((Detector.new catalog maxDepth).detect st).1 ≠ .error .scopeUnderflow ∧
      ((Detector.new catalog maxDepth).detect st).1 ≠
        .error (.malformed "scopes left open after traversal")) := by
  refine ⟨fun kind aliasName q => (query_balanced kind aliasName q).kept,
    fun kind aliasName t => (setExpr_balanced kind aliasName t).kept,
    fun kind aliasName sel => (select_balanced kind aliasName sel).kept,
    fun t => (tableWithJoins_balanced t).kept, fun catalog maxDepth st => ?_⟩
  have hend := statement_raisable st 0 (Detector.new catalog maxDepth) ⟨rfl, rfl⟩
  simp only [Detector.detect]
  rcases h : (Detect.statement st).run.run (Detector.new catalog maxDepth) with ⟨e | _, d⟩
  · rw [h] at hend
    exact ⟨fun he => hend.1.1 (Except.error.inj he), fun he => hend.1.2 (Except.error.inj he)⟩
  · exact ⟨nofun, nofun⟩

end ColumnLineage
