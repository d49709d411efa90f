import ColumnLineage.Proofs.DetectSteps
/-
ColumnLineage/Proofs/WalkInduction.lean

An induction principle for the walk over a statement. The walk is built from a
few primitive steps (opening, changing and closing a scope, the frames of
WITH names, binding a name, completing a scope, expanding a wildcard, logging)
put together by sequencing, by the handler that closes a query's frame when its
body fails, and by one read of the scopes a set operation combines. A property
of steps that holds of every primitive and is kept by these ways of putting
steps together (`WalkRules`) holds of every part of the walk.

The proof follows the walk's own cases, once; each fact proved of all parts of
the walk then only checks the primitives.

The walk over a whole statement first checks that the detector is not in use:
one in use refuses at once and changes nothing (`statement_of_inUse`); one not
in use marks itself and walks the statement's body (`statement_of_unused`),
which is taken apart once, in the same way, for every property that the rules
of the body (`BodyRules`) carry.
-/

namespace ColumnLineage

open Run Detect

/-- A property of the steps of the walk that the walk's own constructions keep:
it holds of the primitive steps and of failing, and passes from the parts of a
sequence to the sequence. The one read of the detector it must allow is that
of a set operation, which depends on the scopes alone. -/
structure WalkRules (P : ∀ {α : Type}, Detect α → Prop) : Prop where
  pure : ∀ {α : Type} (a : α), P (Pure.pure a : Detect α)
  bind : ∀ {α β : Type} {x : Detect α} {f : α → Detect β}, P x → (∀ a, P (f a)) → P (x >>= f)
  throw : ∀ {α : Type} (e : LineageError), P (throw e : Detect α)
  catchPop : ∀ {α : Type} {x : Detect α}, P x →
    P (tryCatch x fun e => do popFrame; MonadExcept.throw e)
  readScopes : ∀ {α : Type} {g : Detector → Detect α}, (∀ d, P (g d)) →
    (∀ d d', d'.arena.scopes = d.arena.scopes → g d' = g d) → P (get >>= g)
  enter : ∀ kind aliasName, P (enter kind aliasName)
  exit : P exit
  modifyScope : ∀ id f, P (modifyScope id f)
  finalize : ∀ id, P (finalize id)
  pushFrame : P pushFrame
  popFrame : P popFrame
  addCte : ∀ name id, P (addCte name id)
  lookupCte : ∀ t, P (lookupCte t)
  bindName : ∀ aliasName target, P (Detect.bind aliasName target)
  addUsing : ∀ columns, P (addUsing columns)
  expandWildcard : ∀ qualifier, P (expandWildcard qualifier)
  log : ∀ e, P (log e)

/-- The outputs of a set operation depend on the scopes of the arena alone. -/
theorem setOutputs_congr {a a' : ScopeArena} (h : a'.scopes = a.scopes) (operands : List Nat) :
    setOutputs a' operands = setOutputs a operands := by
  have hget : a'.get? = a.get? := funext fun i => by simp only [ScopeArena.get?, h]
  simp only [setOutputs, hget]

namespace WalkRules

variable {P : ∀ {α : Type}, Detect α → Prop}

/-- An expression walk, from any list of inputs, has the property. -/
def Walks (P : ∀ {α : Type}, Detect α → Prop) (x : List Field → Detect (List Field)) : Prop :=
  ∀ acc, P (x acc)

theorem Walks.pure (h : WalkRules P) : Walks P (fun acc => Pure.pure acc) :=
  fun acc => h.pure acc

theorem Walks.comp (h : WalkRules P) {x y : List Field → Detect (List Field)} (hx : Walks P x)
    (hy : Walks P y) : Walks P (fun acc => x acc >>= y) :=
  fun acc => h.bind (hx acc) hy

/-- A subquery walked for its own sake, its answer dropped. -/
theorem Walks.after (h : WalkRules P) {q : Detect Nat} (hq : P q)
    {x : List Field → Detect (List Field)} (hx : Walks P x) :
    Walks P (fun acc => q >>= fun _ => x acc) :=
  fun acc => h.bind hq fun _ => hx acc

mutual

theorem query (h : WalkRules P) (kind : ScopeKind) (aliasName : Option String) :
    ∀ q, P (Detect.query kind aliasName q)
  | .mk _ ctes body _ => by
    simp only [Detect.query]
    exact h.bind h.pushFrame fun _ => h.bind (h.catchPop (h.bind (h.withClause ctes) fun _ =>
      h.setExpr kind aliasName body)) fun id => h.bind h.popFrame fun _ => h.pure id

theorem withClause (h : WalkRules P) : ∀ ctes, P (Detect.withClause ctes)
  | [] => h.pure ()
  | .mk a q _ _ :: rest => by
    simp only [Detect.withClause]
    exact h.bind (h.query .cte _ q) fun id => h.bind (h.addCte _ id) fun _ => h.withClause rest

theorem setExpr (h : WalkRules P) (kind : ScopeKind) (aliasName : Option String) :
    ∀ t, P (Detect.setExpr kind aliasName t)
  | .select sel => by
    simp only [Detect.setExpr]
    exact h.select kind aliasName sel
  | .query q => by
    simp only [Detect.setExpr]
    exact h.query kind aliasName q
  | .setOp l _ _ r => by
    simp only [Detect.setExpr]
    refine h.bind (h.enter kind aliasName) fun id => h.bind (h.setExpr .setOperand none l)
      fun left => h.bind (h.setExpr .setOperand none r) fun right => ?_
    -- the outputs read the operands' scopes, and only those
    refine h.readScopes (fun d => h.bind (h.modifyScope _ _) fun _ =>
      h.bind h.exit fun _ => h.pure id) fun d d' hd => ?_
    simp only [setOutputs_congr hd]
  | .values _ [] => by
    simp only [Detect.setExpr]
    exact h.bind (h.enter _ aliasName) fun id => h.bind (h.pure []) fun _ =>
      h.bind (h.modifyScope _ _) fun _ => h.bind (h.finalize id) fun _ =>
      h.bind h.exit fun _ => h.pure id
  | .values _ (row :: _) => by
    simp only [Detect.setExpr]
    exact h.bind (h.enter _ aliasName) fun id => h.bind (h.rowFields 1 row) fun _ =>
      h.bind (h.modifyScope _ _) fun _ => h.bind (h.finalize id) fun _ =>
      h.bind h.exit fun _ => h.pure id
  | .insert .. => by
    simp only [Detect.setExpr]
    exact h.throw _
  | .other _ => by
    simp only [Detect.setExpr]
    exact h.throw _

theorem select (h : WalkRules P) (kind : ScopeKind) (aliasName : Option String) :
    ∀ sel, P (Detect.select kind aliasName sel)
  | .mk _ projection _ from_ _ selection _ having _ => by
    simp only [Detect.select]
    exact h.bind (h.enter kind aliasName) fun id => h.bind (h.fromClause from_) fun _ =>
      h.bind (h.selectItems projection) fun fields => h.bind (h.modifyScope _ _) fun _ =>
      h.bind (h.walkOpt .predicate selection []) fun _ =>
      h.bind (h.walkOpt .predicate having []) fun _ =>
      h.bind (h.finalize id) fun _ => h.bind h.exit fun _ => h.pure id

theorem selectItems (h : WalkRules P) : ∀ items, P (Detect.selectItems items)
  | [] => h.pure []
  | item :: rest => by
    simp only [Detect.selectItems]
    exact h.bind (h.selectItem item) fun _ => h.bind (h.selectItems rest) fun _ => h.pure _

theorem selectItem (h : WalkRules P) : ∀ item, P (Detect.selectItem item)
  | .expr e aliasName => by
    simp only [Detect.selectItem]
    split
    · exact h.pure _
    · exact h.bind (h.walk .value e []) fun _ => h.pure _
  | .wildcard none _ => by
    simp only [Detect.selectItem]
    exact h.expandWildcard none
  | .wildcard (some name) _ => by
    simp only [Detect.selectItem]
    split
    · exact h.expandWildcard _
    · exact h.throw _

theorem rowFields (h : WalkRules P) (k : Nat) : ∀ row, P (Detect.rowFields k row)
  | [] => h.pure []
  | e :: rest => by
    simp only [Detect.rowFields]
    exact h.bind (h.walk .value e []) fun _ => h.bind (h.rowFields (k + 1) rest) fun _ =>
      h.pure _

theorem fromClause (h : WalkRules P) : ∀ ts, P (Detect.fromClause ts)
  | [] => h.pure ()
  | t :: rest => by
    simp only [Detect.fromClause]
    exact h.bind (h.tableWithJoins t) fun _ => h.fromClause rest

theorem tableWithJoins (h : WalkRules P) : ∀ t, P (Detect.tableWithJoins t)
  | .mk relation js => by
    simp only [Detect.tableWithJoins]
    exact h.bind (h.factor relation) fun _ => h.joins js

theorem joins (h : WalkRules P) : ∀ js, P (Detect.joins js)
  | [] => h.pure ()
  | .mk _ kind relation on c :: rest => by
    simp only [Detect.joins]
    refine h.bind (h.factor relation) fun _ => ?_
    split
    · split
      · exact h.bind (h.walkOpt .predicate on []) fun _ => h.joins rest
      · exact h.bind (h.addUsing _) fun _ => h.joins rest
      · exact h.joins rest
    · exact h.joins rest

theorem factor (h : WalkRules P) : ∀ t, P (Detect.factor t)
  | .table name _ aliasName _ => by
    simp only [Detect.factor]
    split
    · refine h.bind (h.lookupCte _) fun r => ?_
      -- a WITH name in reach binds its scope, any other name its table
      cases r <;> exact h.bind (h.pure _) fun target => h.bindName _ target
    · exact h.throw _
  | .derived _ q aliasName => by
    simp only [Detect.factor]
    exact h.bind (h.query .derived _ q) fun child => h.bindName _ _
  | .nestedJoin inner _ => by
    simp only [Detect.factor]
    exact h.tableWithJoins inner
  | .other _ => by
    simp only [Detect.factor]
    exact h.log _

theorem walk (h : WalkRules P) (mode : WalkMode) : ∀ e, Walks P (Detect.walk mode e)
  | .identifier i => fun acc => by
    rw [Detect.walk_identifier]
    split <;> exact h.pure _
  | .compound parts => fun acc => by
    rw [Detect.walk_compound]
    split
    · split <;> exact h.pure _
    · exact h.pure _
  | .isTest e _ => h.walk mode e
  | .isDistinctFrom a _ b => Walks.comp h (h.walk mode a) (h.walk mode b)
  | .inList e list _ => Walks.comp h (h.walk mode e) (h.walkList mode list)
  | .inSubquery e q _ => Walks.after h (h.query .predicate none q) (h.walk mode e)
  | .inUnnest e arr _ => Walks.comp h (h.walk mode e) (h.walk mode arr)
  | .between e _ lo hi =>
    Walks.comp h (h.walk mode e) (Walks.comp h (h.walk mode lo) (h.walk mode hi))
  | .binary l _ r => Walks.comp h (h.walk mode l) (h.walk mode r)
  | .like _ _ _ e p _ => Walks.comp h (h.walk mode e) (h.walk mode p)
  | .rlike _ e p _ => Walks.comp h (h.walk mode e) (h.walk mode p)
  | .quantified l _ _ r => Walks.comp h (h.walk mode l) (h.walk mode r)
  | .unary _ e => h.walk mode e
  | .postOp e _ => h.walk mode e
  | .cast _ e _ _ => h.walk mode e
  | .atTimeZone t z => Walks.comp h (h.walk mode t) (h.walk mode z)
  | .extract _ _ e => h.walk mode e
  | .ceilFloor _ e _ _ => h.walk mode e
  | .position e i => Walks.comp h (h.walk mode e) (h.walk mode i)
  | .substring e f fo _ =>
    Walks.comp h (h.walk mode e) (Walks.comp h (h.walkOpt mode f) (h.walkOpt mode fo))
  | .trim e _ what chars =>
    Walks.comp h (h.walk mode e) (Walks.comp h (h.walkOpt mode what)
      (h.walkList mode chars))
  | .overlay e w f fo =>
    Walks.comp h (h.walk mode e) (Walks.comp h (h.walk mode w)
      (Walks.comp h (h.walk mode f) (h.walkOpt mode fo)))
  | .collate e _ => h.walk mode e
  | .nested e => h.walk mode e
  | .tuple items => h.walkList mode items
  | .array items _ => h.walkList mode items
  | .interval v _ => h.walk mode v
  | .function _ params args filter _ window withinGroup _ =>
    Walks.comp h (h.walkArgs mode params) (Walks.comp h (h.walkArgs mode args)
      (Walks.comp h (h.walkOpt mode filter) (Walks.comp h (h.walkWindow mode window)
        (h.walkOrder mode withinGroup))))
  | .namedArg _ _ e => h.walk mode e
  | .exprNamedArg name _ e => Walks.comp h (h.walk mode name) (h.walk mode e)
  | .matchAgainst .. => Walks.pure h
  | .case operand conds results otherwise =>
    Walks.comp h (h.walkOpt mode operand) (Walks.comp h (h.walkList mode conds)
      (Walks.comp h (h.walkList mode results) (h.walkOpt mode otherwise)))
  | .exists q _ => Walks.after h (h.query .predicate none q) (Walks.pure h)
  | .subquery q => fun acc => by
    cases mode
    · exact h.bind (h.query .scalar none q) fun _ => h.pure _
    · exact Walks.after h (h.query .predicate none q) (Walks.pure h) acc
  | .access root chain => Walks.comp h (h.walk mode root) (h.walkAccess mode chain)
  | .pathAccess e path => Walks.comp h (h.walk mode e) (h.walkPath mode path)
  | .composite e _ => h.walk mode e
  | .wildcard => Walks.pure h
  | .qualifiedWildcard _ => Walks.pure h
  | .introduced .. => Walks.pure h
  | .convert _ e _ _ _ styles => Walks.comp h (h.walk mode e) (h.walkList mode styles)
  | .structLiteral _ values => h.walkList mode values
  | .named e _ => h.walk mode e
  | .dictionary _ values => h.walkList mode values
  | .mapLiteral entries => h.walkEntries mode entries
  | .prior e => h.walk mode e
  | .lambda _ _ body => h.walk mode body
  | .outerJoin e => h.walk mode e
  | .method e calls => Walks.comp h (h.walk mode e) (h.walkList mode calls)
  | .value _ => Walks.pure h
  | .typedString .. => Walks.pure h

theorem walkList (h : WalkRules P) (mode : WalkMode) : ∀ es, Walks P (Detect.walkList mode es)
  | [] => Walks.pure h
  | e :: rest => Walks.comp h (h.walk mode e) (h.walkList mode rest)

theorem walkAccess (h : WalkRules P) (mode : WalkMode) :
    ∀ chain, Walks P (Detect.walkAccess mode chain)
  | [] => Walks.pure h
  | .field e :: rest => Walks.comp h (h.walk mode e) (h.walkAccess mode rest)
  | .index e :: rest => Walks.comp h (h.walk mode e) (h.walkAccess mode rest)
  | .slice lower upper stride :: rest =>
    Walks.comp h (h.walkOpt mode lower) (Walks.comp h (h.walkOpt mode upper)
      (Walks.comp h (h.walkOpt mode stride) (h.walkAccess mode rest)))

theorem walkClauses (h : WalkRules P) (mode : WalkMode) :
    ∀ clauses, Walks P (Detect.walkClauses mode clauses)
  | [] => Walks.pure h
  | .mk _ e _ :: rest => Walks.comp h (h.walkOpt mode e) (h.walkClauses mode rest)

theorem walkEntries (h : WalkRules P) (mode : WalkMode) :
    ∀ entries, Walks P (Detect.walkEntries mode entries)
  | [] => Walks.pure h
  | .mk key v :: rest =>
    Walks.comp h (h.walk mode key) (Walks.comp h (h.walk mode v) (h.walkEntries mode rest))

theorem walkPath (h : WalkRules P) (mode : WalkMode) : ∀ path, Walks P (Detect.walkPath mode path)
  | [] => Walks.pure h
  | .key _ _ :: rest => h.walkPath mode rest
  | .bracket e :: rest => Walks.comp h (h.walk mode e) (h.walkPath mode rest)

theorem walkOpt (h : WalkRules P) (mode : WalkMode) : ∀ e, Walks P (Detect.walkOpt mode e)
  | none => Walks.pure h
  | some e => h.walk mode e

theorem walkArgs (h : WalkRules P) (mode : WalkMode) : ∀ args, Walks P (Detect.walkArgs mode args)
  | .list _ args _ orderBy limit clauses =>
    Walks.comp h (h.walkList mode args) (Walks.comp h (h.walkOrder mode orderBy)
      (Walks.comp h (h.walkOpt mode limit) (h.walkClauses mode clauses)))
  | .none => Walks.pure h
  | .subquery _ => Walks.pure h

theorem walkOrder (h : WalkRules P) (mode : WalkMode) :
    ∀ items, Walks P (Detect.walkOrder mode items)
  | [] => Walks.pure h
  | .mk e _ _ fill :: rest =>
    Walks.comp h (h.walk mode e) (Walks.comp h (h.walkFill mode fill)
      (h.walkOrder mode rest))

theorem walkFill (h : WalkRules P) (mode : WalkMode) : ∀ fill, Walks P (Detect.walkFill mode fill)
  | some (.mk start stop step) =>
    Walks.comp h (h.walkOpt mode start) (Walks.comp h (h.walkOpt mode stop)
      (h.walkOpt mode step))
  | none => Walks.pure h

theorem walkWindow (h : WalkRules P) (mode : WalkMode) :
    ∀ window, Walks P (Detect.walkWindow mode window)
  | some (.spec _ partitionBy orderBy _ _ startExpr _ endExpr) =>
    Walks.comp h (h.walkList mode partitionBy) (Walks.comp h (h.walkOrder mode orderBy)
      (Walks.comp h (h.walkOpt mode startExpr) (h.walkOpt mode endExpr)))
  | some (.named _) => Walks.pure h
  | none => Walks.pure h

end

end WalkRules

/-! ### The walk over a statement, after its check of use -/

/-- What carries a property of runs from the walk over a query to the body of
the walk over a statement: a failure whatever follows it, recording the root
and the target, and the check of the open scopes at the end. -/
structure BodyRules (P : ∀ {α : Type}, Detect α → Prop) : Prop extends WalkRules P where
  throwBind : ∀ {α β : Type} (e : LineageError) (f : α → Detect β), P (MonadExcept.throw e >>= f)
  setRoot : ∀ r, P (modify fun d => { d with root := some r } : Detect Unit)
  setTarget : ∀ t, P (modify fun d => { d with target := t } : Detect Unit)
  readStack : ∀ {α : Type} {g : Detector → Detect α}, (∀ d, P (g d)) →
    (∀ d d', d'.arena.stack = d.arena.stack → g d' = g d) → P (get >>= g)

namespace BodyRules

variable {P : ∀ {α : Type}, Detect α → Prop}

/-- The walk of a statement's query, recorded as its root, and the check that
no scope is left open. -/
theorem root (h : BodyRules P) (q : Sql.Query) : P (do
    let r ← query .query none q
    modify fun d => { d with root := some r }
    if (← get).arena.depth != 0 then throw (.malformed "scopes left open after traversal")) :=
  h.bind (h.query .query none q) fun r => h.bind (h.setRoot r) fun _ =>
    h.readStack (fun d => by
      split
      · exact h.throw _
      · exact h.pure _) fun d d' hs => by
        unfold ScopeArena.depth
        rw [hs]

end BodyRules

/-- A detector in use refuses to walk a statement, and changes nothing. -/
theorem statement_of_inUse (st : Sql.Statement) {d : Detector} (hu : d.inUse = true) :
    (Detect.statement st).run.run d = (.error .detectorReused, d) := by
  simp only [Detect.statement]
  rw [run_bind_of_ok (run_get d)]
  simp only [hu, ↓reduceIte]
  exact run_bind_of_error (run_throw _ d)

/-- A detector not in use marks itself in use, then walks the body of the
statement: one run for every such detector, with every property the rules of
the body carry. -/
theorem statement_of_unused (st : Sql.Statement) :
    ∃ body : Detect Unit, (∀ P, BodyRules P → P body) ∧
      ∀ d : Detector, d.inUse = false →
        (Detect.statement st).run.run d = body.run.run { d with inUse := true } := by
  refine ⟨?body, ?rules, fun d hu => ?run⟩
  case run =>
    simp only [Detect.statement]
    rw [run_bind_of_ok (run_get d)]
    simp only [hu, Bool.false_eq_true, ↓reduceIte]
    rw [run_bind_of_ok (run_modify _ d)]
  case rules =>
    intro P h
    -- each kind of statement fails at once or records its target and walks its query
    split
    · exact h.root _
    · split
      · split
        · refine h.bind (h.pure _) fun _ => h.bind (h.log _) fun _ => h.bind (h.setTarget _) fun _ => ?_
          split
          · exact h.throwBind _ _
          · exact h.root _
        · exact h.throwBind _ _
      · exact h.throwBind _ _
    · split
      · exact h.throwBind _ _
      · exact h.bind (h.setTarget _) fun _ => h.root _
    · exact h.bind (h.setTarget _) fun _ => h.root _
    · exact h.throwBind _ _

end ColumnLineage
