import ColumnLineage.Proofs.ClosedWalk
import ColumnLineage.Proofs.CatalogHistory
/-
ColumnLineage/Proofs/SubqueryScopes.lean

What an expression walk collects and which scopes it opens. The walk visits
an expression in pre-order: the expression itself, then its parts in order,
never entering a nested query (`Preorder`). At each expression it visits it
does one thing (`visit`): in a value it collects a column name as an input;
at a subquery, an EXISTS or an IN subquery it walks the nested query as a
scope of its own, a scalar subquery in a value becoming an input that reads
that scope. So the walk is a fold of `visit` over the pre-order
(`walk_eq_foldlM`), and its inputs are what the visits add, in pre-order,
each once.

A nested query's walk opens scopes below the scope current where it stands.
Its WITH definitions are walked before its body, while that scope is still
current, so each of them opens a scope of kind `cte` there too; then its body
opens the one scope the walk answers. Every other scope it opens hangs below
one of these (`Detector.Below`, `query_opens`).

Main statement (`expression_walk_scopes`): the inputs of an expression walk
are the columns of its column names and the scalar subqueries it opens, in
pre-order, without repeats; the field of a select item that is not a plain
column, or of an expression of a VALUES row, is a constant exactly when there
are none; and the scopes opened as
children of the current scope are, for each nested query in pre-order, one
scope per WITH definition it walks before its body and then its own scope, a
scalar one for a subquery in a value and a predicate one otherwise.
-/

namespace ColumnLineage

open Sql Run Detect

/-! ### The pre-order of an expression -/

namespace Preorder

mutual

/-- The parts of an expression that an expression walk visits after it, each
followed by its own parts: the sub-expressions outside nested queries, in
pre-order. The walk does not enter a nested query, nor the arguments of a call
given as a query; the scale of `CEIL` and `FLOOR` is a number, not visited. -/
def parts : Expr → List Expr
  | .identifier _ | .compound _ | .value _ | .typedString .. | .wildcard | .qualifiedWildcard _
  | .introduced .. | .matchAgainst .. | .exists .. | .subquery _ => []
  | .isTest e _ | .unary _ e | .postOp e _ | .cast _ e _ _ | .extract _ _ e | .ceilFloor _ e _ _
  | .collate e _ | .nested e | .interval e _ | .namedArg _ _ e | .prior e | .composite e _
  | .lambda _ _ e | .outerJoin e | .named e _ | .inSubquery e _ _ => e :: parts e
  | .isDistinctFrom a _ b | .inUnnest a b _ | .binary a _ b | .like _ _ _ a b _ | .rlike _ a b _
  | .quantified a _ _ b | .atTimeZone a b | .position a b | .exprNamedArg a _ b =>
    (a :: parts a) ++ (b :: parts b)
  | .between e _ lo hi => (e :: parts e) ++ (lo :: parts lo) ++ (hi :: parts hi)
  | .inList e list _ => (e :: parts e) ++ exprs list
  | .substring e f fo _ => (e :: parts e) ++ opt f ++ opt fo
  | .trim e _ what chars => (e :: parts e) ++ opt what ++ exprs chars
  | .overlay e w f fo => (e :: parts e) ++ (w :: parts w) ++ (f :: parts f) ++ opt fo
  | .tuple items | .array items _ | .structLiteral _ items | .dictionary _ items => exprs items
  | .function _ params as filter _ w withinGroup _ =>
    args params ++ args as ++ opt filter ++ window w ++ order withinGroup
  | .case operand conds results otherwise =>
    opt operand ++ exprs conds ++ exprs results ++ opt otherwise
  | .access root chain => (root :: parts root) ++ access chain
  | .pathAccess e steps => (e :: parts e) ++ path steps
  | .convert _ e _ _ _ styles => (e :: parts e) ++ exprs styles
  | .method e calls => (e :: parts e) ++ exprs calls
  | .mapLiteral es => entries es

/-- Each expression of a list with its parts, in order. -/
def exprs : List Expr → List Expr
  | [] => []
  | e :: rest => (e :: parts e) ++ exprs rest

def opt : Option Expr → List Expr
  | none => []
  | some e => e :: parts e

def access : List Access → List Expr
  | [] => []
  | .field e :: rest => (e :: parts e) ++ access rest
  | .index e :: rest => (e :: parts e) ++ access rest
  | .slice lower upper stride :: rest => opt lower ++ opt upper ++ opt stride ++ access rest

def clauses : List ArgClause → List Expr
  | [] => []
  | .mk _ e _ :: rest => opt e ++ clauses rest

def entries : List MapEntry → List Expr
  | [] => []
  | .mk key v :: rest => (key :: parts key) ++ (v :: parts v) ++ entries rest

def path : List PathStep → List Expr
  | [] => []
  | .key _ _ :: rest => path rest
  | .bracket e :: rest => (e :: parts e) ++ path rest

def args : FunctionArgs → List Expr
  | .list _ as _ orderBy limit cs => exprs as ++ order orderBy ++ opt limit ++ clauses cs
  | .none | .subquery _ => []

def order : List OrderItem → List Expr
  | [] => []
  | .mk e _ _ f :: rest => (e :: parts e) ++ fill f ++ order rest

def fill : Option Fill → List Expr
  | some (.mk start stop step) => opt start ++ opt stop ++ opt step
  | none => []

def window : Option Window → List Expr
  | some (.spec _ partitionBy orderBy _ _ startExpr _ endExpr) =>
    exprs partitionBy ++ order orderBy ++ opt startExpr ++ opt endExpr
  | some (.named _) | none => []

end

end Preorder

/-- The expressions an expression walk visits, in pre-order: the expression,
then its parts. -/
def Sql.Expr.preorder (e : Expr) : List Expr := e :: Preorder.parts e

/-- The query nested at an expression, whose scope an expression walk in
`mode` opens there, with the kind of that scope: a scalar one for a subquery
in a value, a predicate one for any other subquery, EXISTS and IN subqueries
included. -/
def Sql.Expr.nestedQuery (mode : WalkMode) : Expr → Option (Query × ScopeKind)
  | .inSubquery _ q _ | .exists q _ => some (q, .predicate)
  | .subquery q => some (q, match mode with
    | .value => .scalar
    | .predicate => .predicate)
  | _ => none

/-- The column of a column name: an identifier, or a compound identifier with
a column part. -/
def Sql.Expr.column? : Expr → Option ColumnRef
  | .identifier i => some { qualifier := none, column := i.value }
  | .compound parts => columnRef (.compound parts)
  | _ => none

/-- The inputs an expression walk in `mode` reads off an expression itself:
the column of a column name, in a value. -/
def Sql.Expr.inputs (mode : WalkMode) (e : Expr) : List Field :=
  if mode = .value then (e.column?.map fun ref => Field.ofColumn ref.column ref).toList else []

/-- Adds inputs in turn, each unless it is already there. -/
def addInputs (fs acc : List Field) : List Field := fs.foldl (fun acc f => addInput f acc) acc

/-- What an expression walk does at one expression it visits, before its
parts: at a nested query it walks the query as a scope of its own, a scalar
subquery becoming an input that reads that scope; elsewhere it adds what it
reads off the expression. -/
def visit (mode : WalkMode) (acc : List Field) (e : Expr) : Detect (List Field) :=
  match e.nestedQuery mode with
  | some (q, kind) => do
    let id ← query kind none q
    return if kind = .scalar then addInput (.scalar ("(" ++ q.render ++ ")") id .subquery) acc
      else acc
  | none => pure (addInputs (e.inputs mode) acc)

/-! ### The walk as a fold over the pre-order -/

section Fold

variable (mode : WalkMode)

/-- The walk `x` does what the fold of `visit` over `l` does, whatever the
inputs it is given. -/
def FoldsOver (x : List Field → Detect (List Field)) (l : List Expr) : Prop :=
  ∀ acc, x acc = l.foldlM (visit mode) acc

variable {mode} {x y : List Field → Detect (List Field)} {l₁ l₂ l₃ : List Expr}

/-- Two walks in turn fold over the two lists one after the other. -/
theorem FoldsOver.append (hx : FoldsOver mode x l₁) (hy : FoldsOver mode y l₂) :
    FoldsOver mode (fun acc => x acc >>= y) (l₁ ++ l₂) := by
  intro acc
  have hy' : y = fun acc => l₂.foldlM (visit mode) acc := funext hy
  show x acc >>= y = _
  rw [List.foldlM_append, hx, hy']

/-- The walks of the parts of an expression run in turn, while its parts are
listed from the left: the two groupings fold alike. -/
theorem FoldsOver.assoc (h : FoldsOver mode x (l₁ ++ (l₂ ++ l₃))) :
    FoldsOver mode x (l₁ ++ l₂ ++ l₃) := by
  rw [List.append_assoc]
  exact h

/-- At an expression that is neither a nested query nor a column name, the
walk does nothing before its parts. -/
theorem visit_eq_pure {e : Expr} (hq : e.nestedQuery mode = none) (hc : e.column? = none)
    (acc : List Field) : visit mode acc e = pure acc := by
  simp [visit, hq, Sql.Expr.inputs, hc, addInputs]

/-- So a walk that folds over the parts of such an expression folds over its
pre-order. -/
theorem FoldsOver.preorder {e : Expr} (hq : e.nestedQuery mode = none) (hc : e.column? = none)
    (h : FoldsOver mode x (Preorder.parts e)) (acc : List Field) :
    x acc = e.preorder.foldlM (visit mode) acc := by
  rw [h, Sql.Expr.preorder, List.foldlM_cons, visit_eq_pure hq hc, pure_bind]

/-- An expression without parts is folded over by its visit alone. -/
theorem foldlM_preorder_of_parts {e : Expr} (h : Preorder.parts e = []) (acc : List Field) :
    e.preorder.foldlM (visit mode) acc = visit mode acc e := by
  rw [Sql.Expr.preorder, List.foldlM_cons, h]
  exact bind_pure _

variable (mode)

mutual

/-- An expression walk visits the expression and its parts in pre-order. -/
theorem walk_eq_foldlM : ∀ e acc, walk mode e acc = e.preorder.foldlM (visit mode) acc
  | .identifier _, acc => by
    rw [foldlM_preorder_of_parts rfl, walk_identifier]
    cases mode <;> rfl
  | .compound parts, acc => by
    rw [foldlM_preorder_of_parts rfl, walk_compound]
    -- the visit reads the same column off the name as the walk does
    show _ = pure (addInputs (if mode = .value then ((columnRef (.compound parts)).map
      fun ref => Field.ofColumn ref.column ref).toList else []) acc)
    cases columnRef (.compound parts) <;> cases mode <;> rfl
  | .value _, acc | .typedString .., acc | .wildcard, acc | .qualifiedWildcard _, acc
  | .introduced .., acc | .matchAgainst .., acc => by
    rw [foldlM_preorder_of_parts rfl, visit_eq_pure rfl rfl]
    rfl
  | .exists .., acc => by
    rw [foldlM_preorder_of_parts rfl]
    rfl
  | .subquery _, acc => by
    rw [foldlM_preorder_of_parts rfl]
    cases mode <;> rfl
  | .inSubquery e q _, acc => by
    -- the nested query is walked first, then the expression tested against it
    rw [Sql.Expr.preorder, List.foldlM_cons]
    show (query .predicate none q >>= fun _ => walk mode e acc) =
      (query .predicate none q >>= fun _ => pure acc) >>= fun acc =>
        e.preorder.foldlM (visit mode) acc
    simp only [bind_assoc, pure_bind, walk_eq_foldlM e]
  | .isTest e _, acc | .unary _ e, acc | .postOp e _, acc | .cast _ e _ _, acc
  | .extract _ _ e, acc | .ceilFloor _ e _ _, acc | .collate e _, acc | .nested e, acc
  | .interval e _, acc | .namedArg _ _ e, acc | .prior e, acc | .composite e _, acc
  | .lambda _ _ e, acc | .outerJoin e, acc | .named e _, acc => by
    refine FoldsOver.preorder rfl rfl ?_ acc
    exact walk_eq_foldlM e
  | .isDistinctFrom a _ b, acc | .inUnnest a b _, acc | .binary a _ b, acc
  | .like _ _ _ a b _, acc | .rlike _ a b _, acc | .quantified a _ _ b, acc
  | .atTimeZone a b, acc | .position a b, acc | .exprNamedArg a _ b, acc =>
    FoldsOver.preorder rfl rfl (FoldsOver.append (walk_eq_foldlM a) (walk_eq_foldlM b)) acc
  | .between e _ lo hi, acc =>
    FoldsOver.preorder rfl rfl (FoldsOver.append (walk_eq_foldlM e)
      (FoldsOver.append (walk_eq_foldlM lo) (walk_eq_foldlM hi))).assoc acc
  | .inList e list _, acc =>
    FoldsOver.preorder rfl rfl (FoldsOver.append (walk_eq_foldlM e) (walkList_eq_foldlM list)) acc
  | .substring e f fo _, acc =>
    FoldsOver.preorder rfl rfl (FoldsOver.append (walk_eq_foldlM e)
      (FoldsOver.append (walkOpt_eq_foldlM f) (walkOpt_eq_foldlM fo))).assoc acc
  | .trim e _ what chars, acc =>
    FoldsOver.preorder rfl rfl (FoldsOver.append (walk_eq_foldlM e)
      (FoldsOver.append (walkOpt_eq_foldlM what) (walkList_eq_foldlM chars))).assoc acc
  | .overlay e w f fo, acc =>
    FoldsOver.preorder rfl rfl (FoldsOver.append (walk_eq_foldlM e)
      (FoldsOver.append (walk_eq_foldlM w)
        (FoldsOver.append (walk_eq_foldlM f) (walkOpt_eq_foldlM fo)))).assoc.assoc acc
  | .tuple items, acc | .array items _, acc | .structLiteral _ items, acc
  | .dictionary _ items, acc => by
    refine FoldsOver.preorder rfl rfl ?_ acc
    exact walkList_eq_foldlM items
  | .function _ params as filter _ w withinGroup _, acc =>
    FoldsOver.preorder rfl rfl (FoldsOver.append (walkArgs_eq_foldlM params)
      (FoldsOver.append (walkArgs_eq_foldlM as)
        (FoldsOver.append (walkOpt_eq_foldlM filter)
          (FoldsOver.append (walkWindow_eq_foldlM w)
            (walkOrder_eq_foldlM withinGroup))))).assoc.assoc.assoc acc
  | .case operand conds results otherwise, acc =>
    FoldsOver.preorder rfl rfl (FoldsOver.append (walkOpt_eq_foldlM operand)
      (FoldsOver.append (walkList_eq_foldlM conds)
        (FoldsOver.append (walkList_eq_foldlM results)
          (walkOpt_eq_foldlM otherwise)))).assoc.assoc acc
  | .access root chain, acc =>
    FoldsOver.preorder rfl rfl
      (FoldsOver.append (walk_eq_foldlM root) (walkAccess_eq_foldlM chain)) acc
  | .pathAccess e steps, acc =>
    FoldsOver.preorder rfl rfl (FoldsOver.append (walk_eq_foldlM e) (walkPath_eq_foldlM steps)) acc
  | .convert _ e _ _ _ styles, acc | .method e styles, acc =>
    FoldsOver.preorder rfl rfl
      (FoldsOver.append (walk_eq_foldlM e) (walkList_eq_foldlM styles)) acc
  | .mapLiteral es, acc => by
    refine FoldsOver.preorder rfl rfl ?_ acc
    exact walkEntries_eq_foldlM es

theorem walkList_eq_foldlM :
    ∀ es acc, walkList mode es acc = (Preorder.exprs es).foldlM (visit mode) acc
  | [], _ => rfl
  | e :: rest, acc => FoldsOver.append (walk_eq_foldlM e) (walkList_eq_foldlM rest) acc

theorem walkOpt_eq_foldlM :
    ∀ e acc, walkOpt mode e acc = (Preorder.opt e).foldlM (visit mode) acc
  | none, _ => rfl
  | some e, acc => walk_eq_foldlM e acc

theorem walkAccess_eq_foldlM :
    ∀ chain acc, walkAccess mode chain acc = (Preorder.access chain).foldlM (visit mode) acc
  | [], _ => rfl
  | .field e :: rest, acc | .index e :: rest, acc =>
    FoldsOver.append (walk_eq_foldlM e) (walkAccess_eq_foldlM rest) acc
  | .slice lower upper stride :: rest, acc =>
    (FoldsOver.append (walkOpt_eq_foldlM lower) (FoldsOver.append (walkOpt_eq_foldlM upper)
      (FoldsOver.append (walkOpt_eq_foldlM stride)
        (walkAccess_eq_foldlM rest)))).assoc.assoc acc

theorem walkClauses_eq_foldlM :
    ∀ cs acc, walkClauses mode cs acc = (Preorder.clauses cs).foldlM (visit mode) acc
  | [], _ => rfl
  | .mk _ e _ :: rest, acc =>
    FoldsOver.append (walkOpt_eq_foldlM e) (walkClauses_eq_foldlM rest) acc

theorem walkEntries_eq_foldlM :
    ∀ es acc, walkEntries mode es acc = (Preorder.entries es).foldlM (visit mode) acc
  | [], _ => rfl
  | .mk key v :: rest, acc =>
    (FoldsOver.append (walk_eq_foldlM key)
      (FoldsOver.append (walk_eq_foldlM v) (walkEntries_eq_foldlM rest))).assoc acc

theorem walkPath_eq_foldlM :
    ∀ steps acc, walkPath mode steps acc = (Preorder.path steps).foldlM (visit mode) acc
  | [], _ => rfl
  | .key _ _ :: rest, acc => walkPath_eq_foldlM rest acc
  | .bracket e :: rest, acc => FoldsOver.append (walk_eq_foldlM e) (walkPath_eq_foldlM rest) acc

theorem walkArgs_eq_foldlM :
    ∀ as acc, walkArgs mode as acc = (Preorder.args as).foldlM (visit mode) acc
  | .list _ as _ orderBy limit cs, acc =>
    (FoldsOver.append (walkList_eq_foldlM as) (FoldsOver.append (walkOrder_eq_foldlM orderBy)
      (FoldsOver.append (walkOpt_eq_foldlM limit) (walkClauses_eq_foldlM cs)))).assoc.assoc acc
  | .none, _ | .subquery _, _ => rfl

theorem walkOrder_eq_foldlM :
    ∀ items acc, walkOrder mode items acc = (Preorder.order items).foldlM (visit mode) acc
  | [], _ => rfl
  | .mk e _ _ f :: rest, acc =>
    (FoldsOver.append (walk_eq_foldlM e)
      (FoldsOver.append (walkFill_eq_foldlM f) (walkOrder_eq_foldlM rest))).assoc acc

theorem walkFill_eq_foldlM :
    ∀ f acc, walkFill mode f acc = (Preorder.fill f).foldlM (visit mode) acc
  | some (.mk start stop step), acc =>
    (FoldsOver.append (walkOpt_eq_foldlM start)
      (FoldsOver.append (walkOpt_eq_foldlM stop) (walkOpt_eq_foldlM step))).assoc acc
  | none, _ => rfl

theorem walkWindow_eq_foldlM :
    ∀ w acc, walkWindow mode w acc = (Preorder.window w).foldlM (visit mode) acc
  | some (.spec _ partitionBy orderBy _ _ startExpr _ endExpr), acc =>
    (FoldsOver.append (walkList_eq_foldlM partitionBy)
      (FoldsOver.append (walkOrder_eq_foldlM orderBy)
        (FoldsOver.append (walkOpt_eq_foldlM startExpr)
          (walkOpt_eq_foldlM endExpr)))).assoc.assoc acc
  | some (.named _), _ | none, _ => rfl

end

end Fold

/-! ### Where the scopes of a walk hang -/

/-- The parent and the kind of a scope, fixed when it is opened. -/
def Scope.shape (S : Scope) : Option Nat × ScopeKind := (S.parent, S.kind)

/-- The scopes of the arena from index `n` on whose parent is `p`, with their
kinds, in the order they were opened. -/
def ScopeArena.childrenFrom (a : ScopeArena) (p n : Nat) : List (Nat × ScopeKind) :=
  (List.range' n (a.size - n)).filterMap fun i =>
    ((a.get? i).map Scope.shape).bind fun (parent, kind) =>
      if parent = some p then some (i, kind) else none

/-- The scopes of `d'` hang below those of `d`: the scopes of `d` keep their
parents and kinds, and every scope opened since is a child of the scope
current in `d` or of a scope opened since. -/
structure Detector.Below (d d' : Detector) : Prop where
  size : d.arena.size ≤ d'.arena.size
  shape : ∀ i < d.arena.size, (d'.arena.get? i).map Scope.shape = (d.arena.get? i).map Scope.shape
  parent : ∀ {i S}, d.arena.size ≤ i → d'.arena.get? i = some S →
    S.parent = d.arena.current ∨ ∃ q, S.parent = some q ∧ d.arena.size ≤ q

namespace Detector

variable {d d₁ d₂ : Detector}

/-- A scope there before keeps its shape. -/
theorem Below.get? (h : d.Below d₁) {i : Nat} {S : Scope} (hi : i < d.arena.size)
    (hS : d₁.arena.get? i = some S) : ∃ S₀, d.arena.get? i = some S₀ ∧ S.shape = S₀.shape := by
  have hsh := h.shape i hi
  rw [hS, Option.map_some] at hsh
  obtain ⟨S₀, hS₀, heq⟩ := Option.map_eq_some_iff.mp hsh.symm
  exact ⟨S₀, hS₀, heq.symm⟩

/-- An arena of as many scopes, each of the same shape. -/
theorem Below.of_shapes (hsize : d₁.arena.size = d.arena.size)
    (hshape : ∀ i, (d₁.arena.get? i).map Scope.shape = (d.arena.get? i).map Scope.shape) :
    d.Below d₁ where
  size := Nat.le_of_eq hsize.symm
  shape i _ := hshape i
  parent hi hS := absurd (ScopeArena.lt_size_of_get? hS) (by omega)

theorem Below.refl (d : Detector) : d.Below d := .of_shapes rfl fun _ => rfl

theorem Below.trans (h₁ : d.Below d₁) (h₂ : d₁.Below d₂)
    (hc : d₁.arena.current = d.arena.current) : d.Below d₂ where
  size := Nat.le_trans h₁.size h₂.size
  shape i hi := (h₂.shape i (Nat.lt_of_lt_of_le hi h₁.size)).trans (h₁.shape i hi)
  parent {i S} hi hS := by
    by_cases hlt : i < d₁.arena.size
    · -- opened before `d₁`: its parent is the one it had there
      obtain ⟨S₁, hS₁, hsh⟩ := h₂.get? hlt hS
      have hpar : S.parent = S₁.parent := congrArg Prod.fst hsh
      rw [hpar]
      exact h₁.parent hi hS₁
    · rcases h₂.parent (Nat.le_of_not_lt hlt) hS with hp | ⟨q, hq, hle⟩
      · exact .inl (hp.trans hc)
      · exact .inr ⟨q, hq, Nat.le_trans h₁.size hle⟩

/-- A detector with the same arena. -/
theorem below_of_arena (ha : d₁.arena = d.arena) : d.Below d₁ ∧ d₁.arena.stack = d.arena.stack :=
  ⟨.of_shapes (by rw [ha]) fun i => by rw [ha], by rw [ha]⟩

end Detector

/-- Changing a scope without touching its parent or its kind keeps the shape
of every scope. -/
theorem ScopeArena.map_shape_modify {a : ScopeArena} {id : Nat} {f : Scope → Scope}
    (hf : ∀ S, (f S).shape = S.shape) (i : Nat) :
    ((a.modify id f).get? i).map Scope.shape = (a.get? i).map Scope.shape := by
  rw [ScopeArena.get?_modify]
  split
  · rw [Option.map_map]
    exact Option.map_congr fun S _ => hf S
  · rfl

/-- A detector whose arena is that of `d` with one scope changed, not in its
parent or its kind. -/
theorem Detector.below_of_modify {d d' : Detector} {id : Nat} {f : Scope → Scope}
    (ha : d'.arena = d.arena.modify id f) (hf : ∀ S, (f S).shape = S.shape) :
    d.Below d' ∧ d'.arena.stack = d.arena.stack :=
  ⟨.of_shapes (by rw [ha, ScopeArena.size_modify]) fun i => by
    rw [ha, ScopeArena.map_shape_modify hf], by rw [ha, ScopeArena.stack_modify]⟩

/-! ### Walks that close what they open -/

section Nests

variable {α β : Type}

/-- Run from any detector, `x` ends, when it succeeds, with the same scopes
open and every scope it opened below the current one. -/
def Nests (x : Detect α) : Prop :=
  ∀ d a d', x.run.run d = (.ok a, d') → d.Below d' ∧ d'.arena.stack = d.arena.stack

/-- Run from any detector, `x` ends, when it succeeds, with the current scope
closed and an answer that `post` accepts; every scope it opened is below the
scope current at the start. -/
def Closes (x : Detect α) (post : α → Prop) : Prop :=
  ∀ d a d', x.run.run d = (.ok a, d') →
    d.Below d' ∧ d'.arena.stack = d.arena.stack.tail ∧ post a

/-- `x` opens one scope of kind `kind` as a child of the current scope,
answers it and closes it again; every other scope it opens is below that one. -/
def Enters (kind : ScopeKind) (x : Detect Nat) : Prop :=
  ∀ d r d', x.run.run d = (.ok r, d') →
    d.Below d' ∧ d'.arena.stack = d.arena.stack ∧ r = d.arena.size ∧
    (d'.arena.get? r).map Scope.shape = some (d.arena.current, kind) ∧
    ∀ {i S}, d.arena.size < i → d'.arena.get? i = some S → ∃ q, S.parent = some q ∧ d.arena.size ≤ q

variable {x : Detect α} {f : α → Detect β} {post : β → Prop}

theorem Nests.pure (a : α) : Nests (Pure.pure a : Detect α) := by
  intro d b d' h
  cases h
  exact ⟨.refl d, rfl⟩

theorem Nests.of_throw (e : LineageError) : Nests (MonadExcept.throw e : Detect α) := by
  intro d a d' h
  cases h

theorem Nests.bind (hx : Nests x) (hf : ∀ a, Nests (f a)) : Nests (x >>= f) := by
  intro d b d' h
  obtain ⟨a, d₁, h₁, h₂⟩ := run_bind_ok h
  obtain ⟨hb₁, hs₁⟩ := hx d a d₁ h₁
  obtain ⟨hb₂, hs₂⟩ := hf a d₁ b d' h₂
  exact ⟨hb₁.trans hb₂ (by simp only [ScopeArena.current, hs₁]), hs₂.trans hs₁⟩

/-- A step that leaves the arena as it is. -/
theorem Nests.of_arena (h : ∀ d a d', x.run.run d = (.ok a, d') → d'.arena = d.arena) :
    Nests x :=
  fun d a d' hx => Detector.below_of_arena (h d a d' hx)

/-- A query's handler closes its frame and fails again. -/
theorem Nests.catchPop (hx : Nests x) :
    Nests (tryCatch x fun e => do popFrame; MonadExcept.throw e) := by
  intro d a d' h
  rw [run_tryCatch] at h
  rcases hrun : x.run.run d with ⟨_ | _, t⟩
  · rw [hrun] at h
    dsimp only at h
    rw [run_popFrame_throw] at h
    cases h
  · rw [hrun] at h
    cases h
    exact hx d _ _ hrun

theorem Nests.get {g : Detector → Detect α} (hg : ∀ d, Nests (g d)) :
    Nests (MonadState.get >>= g) :=
  fun d a d' h => hg d d a d' (by simpa only [Run.run_bind, Run.run_get] using h)

theorem Nests.modifyScope {id : Nat} {f : Scope → Scope} (hf : ∀ S, (f S).shape = S.shape) :
    Nests (modifyScope id f) := by
  intro d u d' h
  rw [run_modifyScope] at h
  split at h
  · cases h
  · cases h
    exact Detector.below_of_modify rfl hf

/-- Completing a scope places its outputs only. -/
theorem Nests.finalize (id : Nat) : Nests (finalize id) := by
  intro d u d' h
  rw [run_finalize] at h
  cases h
  have ha : (Bindings.finalize d.catalog d.arena id).1 = _ := Bindings.finalize_arena id
  rcases hS : d.arena.get? id with _ | S
  · rw [hS] at ha
    exact Detector.below_of_arena ha
  · rw [hS] at ha
    exact Detector.below_of_modify ha fun _ => rfl

theorem Nests.bindName (aliasName : Option String) (target : BindingTarget) :
    Nests (Detect.bind aliasName target) := by
  intro d u d' h
  rw [Detect.run_bind] at h
  split at h
  · cases h
    exact Detector.below_of_modify rfl fun _ => rfl
  · cases h

theorem Nests.addUsing (columns : List ObjectName) : Nests (addUsing columns) := by
  intro d u d' h
  rw [run_addUsing] at h
  split at h
  · cases h
    exact Detector.below_of_modify rfl fun _ => rfl
  · cases h

theorem Nests.expandWildcard (qualifier : Option TableName) : Nests (expandWildcard qualifier) :=
  .of_arena fun d fs d' h => by
    rw [run_expandWildcard] at h
    split at h
    · cases h
    · cases h
      rfl

theorem Closes.bind (hx : Nests x) (hf : ∀ a, Closes (f a) post) : Closes (x >>= f) post := by
  intro d b d' h
  obtain ⟨a, d₁, h₁, h₂⟩ := run_bind_ok h
  obtain ⟨hb₁, hs₁⟩ := hx d a d₁ h₁
  obtain ⟨hb₂, hs₂, hpost⟩ := hf a d₁ b d' h₂
  exact ⟨hb₁.trans hb₂ (by simp only [ScopeArena.current, hs₁]), by rw [hs₂, hs₁], hpost⟩

theorem Closes.get {g : Detector → Detect α} {post : α → Prop} (hg : ∀ d, Closes (g d) post) :
    Closes (MonadState.get >>= g) post :=
  fun d a d' h => hg d d a d' (by simpa only [Run.run_bind, Run.run_get] using h)

/-- Closing the current scope and answering `id`. -/
theorem Closes.exit (id : Nat) : Closes (do let _ ← exit; return id) (· = id) := by
  intro d r d' h
  obtain ⟨u, d₁, h₁, h₂⟩ := run_bind_ok h
  cases h₂
  rw [run_exit] at h₁
  split at h₁
  · cases h₁
  · rename_i top rest hs
    cases h₁
    refine ⟨.of_shapes rfl fun _ => rfl, ?_, rfl⟩
    simp [hs]

/-- Opening a scope, then closing it with the walk of its contents. -/
theorem Enters.of_enter {kind : ScopeKind} {aliasName : Option String} {f : Nat → Detect Nat}
    (hf : ∀ id, Closes (f id) (· = id)) : Enters kind (enter kind aliasName >>= f) := by
  intro d r d' h
  obtain ⟨id, d₁, h₁, h₂⟩ := run_bind_ok h
  obtain ⟨rfl, rfl⟩ := enter_ok h₁
  obtain ⟨hb, hs, rfl⟩ := hf _ _ _ _ h₂
  have hopened : (d'.arena.get? d.arena.size).map Scope.shape = some (d.arena.current, kind) := by
    have := hb.shape d.arena.size (by simp)
    rw [this, ScopeArena.get?_push_self]
    rfl
  refine ⟨⟨?_, ?_, ?_⟩, by simpa using hs, rfl, hopened, ?_⟩
  · exact Nat.le_trans (by simp) hb.size
  · intro i hi
    rw [hb.shape i (by simp; omega), ScopeArena.get?_push_of_lt hi]
  · intro i S hi hS
    rcases Nat.lt_or_eq_of_le hi with hi | rfl
    · rcases hb.parent (by simp only [ScopeArena.size_push]; omega) hS with hp | ⟨q, hq, hle⟩
      · exact .inr ⟨d.arena.size, by simpa [ScopeArena.current] using hp, Nat.le_refl _⟩
      · exact .inr ⟨q, hq, by simp at hle; omega⟩
    · rw [hS, Option.map_some] at hopened
      exact .inl (congrArg Prod.fst (Option.some.inj hopened))
  · intro i S hi hS
    rcases hb.parent (by simp only [ScopeArena.size_push]; omega) hS with hp | ⟨q, hq, hle⟩
    · exact ⟨d.arena.size, by simpa [ScopeArena.current] using hp, Nat.le_refl _⟩
    · exact ⟨q, hq, by simp at hle; omega⟩

theorem Enters.nests {kind : ScopeKind} {x : Detect Nat} (h : Enters kind x) : Nests x :=
  fun d r d' hx => ⟨(h d r d' hx).1, (h d r d' hx).2.1⟩

end Nests

/-! ### The children a walk opens -/

namespace ScopeArena

variable {a : ScopeArena} {p n : Nat}

theorem childrenFrom_of_size_le (h : a.size ≤ n) : a.childrenFrom p n = [] := by
  simp [childrenFrom, Nat.sub_eq_zero_of_le h]

/-- No scope from `n` on is a child of `p`. -/
theorem childrenFrom_eq_nil (h : ∀ {i S}, n ≤ i → a.get? i = some S → S.parent ≠ some p) :
    a.childrenFrom p n = [] := by
  rw [childrenFrom, List.filterMap_eq_nil_iff]
  intro i hi
  rcases hS : a.get? i with _ | S
  · rfl
  · simp [Scope.shape, h (List.mem_range'_1.mp hi).1 hS]

/-- Scope `n` is the one child of `p` from `n` on. -/
theorem childrenFrom_opened {k : ScopeKind} (hn : (a.get? n).map Scope.shape = some (some p, k))
    (hrest : ∀ {i S}, n < i → a.get? i = some S → S.parent ≠ some p) :
    a.childrenFrom p n = [(n, k)] := by
  have hlt : n < a.size := by
    rcases hS : a.get? n with _ | S
    · rw [hS] at hn
      cases hn
    · exact lt_size_of_get? hS
  have htail : a.childrenFrom p (n + 1) = [] := childrenFrom_eq_nil fun hi hS => hrest hi hS
  rw [childrenFrom, show a.size - n = a.size - (n + 1) + 1 by omega, List.range'_succ,
    List.filterMap_cons, hn]
  simp only [Option.bind_some]
  exact congrArg _ htail

end ScopeArena

/-- The children from `n` on after a walk from `d` are those of `d`, then those
the walk opened. -/
theorem Detector.Below.childrenFrom {d d₁ : Detector} (h : d.Below d₁) (p : Nat) {n : Nat}
    (hn : n ≤ d.arena.size) :
    d₁.arena.childrenFrom p n = d.arena.childrenFrom p n ++ d₁.arena.childrenFrom p d.arena.size := by
  have hsplit := @List.range'_append_1 n (d.arena.size - n) (d₁.arena.size - d.arena.size)
  have hsize := h.size
  rw [show n + (d.arena.size - n) = d.arena.size by omega,
    show d.arena.size - n + (d₁.arena.size - d.arena.size) = d₁.arena.size - n by omega] at hsplit
  rw [ScopeArena.childrenFrom, ← hsplit, List.filterMap_append]
  congr 1
  apply List.filterMap_congr
  intro i hi
  rw [h.shape i (by have := List.mem_range'_1.mp hi; omega)]

/-! ### What the walk of a query opens -/

namespace LeadingCtes

mutual

/-- The WITH definitions the walk of a query walks before it opens the scope
of its body: those of its WITH clause, each after those its own query walks
first, then those of a parenthesized body. -/
def query : Query → Nat
  | .mk _ ctes body _ => withClause ctes + setExpr body

def withClause : List Cte → Nat
  | [] => 0
  | .mk _ q _ _ :: rest => query q + 1 + withClause rest

def setExpr : SetExpr → Nat
  | .query q => query q
  | .select _ | .setOp .. | .values .. | .insert .. | .other _ => 0

end

end LeadingCtes

/-- `x` opens, as children of the current scope, `n` scopes of kind `cte` and
then the scope of kind `kind` it answers; every other scope it opens is below
the current one. -/
def Opens (kind : ScopeKind) (n : Nat) (x : Detect Nat) : Prop :=
  Nests x ∧ ∀ d r d' p, x.run.run d = (.ok r, d') → d.arena.current = some p →
    p < d.arena.size → ∃ ctes : List Nat, ctes.length = n ∧
      d'.arena.childrenFrom p d.arena.size = ctes.map (·, ScopeKind.cte) ++ [(r, kind)]

/-- `x` opens, as children of the current scope, `n` scopes of kind `cte`;
every other scope it opens is below the current one. -/
def OpensCtes (n : Nat) (x : Detect Unit) : Prop :=
  Nests x ∧ ∀ d u d' p, x.run.run d = (.ok u, d') → d.arena.current = some p →
    p < d.arena.size → ∃ ctes : List Nat, ctes.length = n ∧
      d'.arena.childrenFrom p d.arena.size = ctes.map (·, ScopeKind.cte)

section Opens

variable {kind : ScopeKind} {n₁ n₂ : Nat}

theorem Nests.pushFrame : Nests pushFrame := .of_arena fun _ _ _ h => by cases h; rfl

theorem Nests.popFrame : Nests popFrame := .of_arena fun _ _ _ h => by cases h; rfl

theorem Nests.addCte (name : String) (id : Nat) : Nests (addCte name id) :=
  .of_arena fun _ _ _ h => by rw [run_addCte] at h; cases h; rfl

theorem Nests.lookupCte (t : TableName) : Nests (lookupCte t) :=
  .of_arena fun _ _ _ h => by rw [run_lookupCte] at h; cases h; rfl

theorem Nests.log (e : Log.Event) : Nests (log e) := .of_arena fun _ _ _ h => by cases h; rfl

theorem Opens.of_throw (e : LineageError) (n : Nat) : Opens kind n (throw e) :=
  ⟨Nests.of_throw e, fun _ _ _ _ h => by cases h⟩

/-- A scope opened and closed again is the one child it opens. -/
theorem Enters.opens {x : Detect Nat} (h : Enters kind x) : Opens kind 0 x := by
  refine ⟨h.nests, fun d r d' p hx hp hlt => ⟨[], rfl, ?_⟩⟩
  obtain ⟨-, -, rfl, hshape, hdeeper⟩ := h d r d' hx
  rw [hp] at hshape
  simp only [List.map_nil, List.nil_append]
  refine ScopeArena.childrenFrom_opened hshape fun hi hS hpar => ?_
  obtain ⟨q, hq, hle⟩ := hdeeper hi hS
  rw [hpar] at hq
  cases hq
  omega

theorem OpensCtes.nil : OpensCtes 0 (pure ()) := by
  refine ⟨Nests.pure (), fun d u d' p h _ _ => ?_⟩
  cases h
  exact ⟨[], rfl, ScopeArena.childrenFrom_of_size_le (Nat.le_refl _)⟩

/-- A WITH definition, then the rest of its clause: the definition's scopes,
its own scope, then those of the rest. -/
theorem OpensCtes.cons {q : Detect Nat} {rest : Detect Unit} (hq : Opens .cte n₁ q)
    (hrest : OpensCtes n₂ rest) (name : String) :
    OpensCtes (n₁ + 1 + n₂) (do let id ← q; addCte name id; rest) := by
  refine ⟨hq.1.bind fun id => (Nests.addCte name id).bind fun _ => hrest.1, ?_⟩
  intro d u d' p h hp hlt
  obtain ⟨id, d₁, h₁, h⟩ := run_bind_ok h
  obtain ⟨_, d₂, h₂, h₃⟩ := run_bind_ok h
  rw [run_addCte] at h₂
  cases h₂
  obtain ⟨hb₁, hs₁⟩ := hq.1 _ _ _ h₁
  obtain ⟨c₁, hc₁, hch₁⟩ := hq.2 _ _ _ p h₁ hp hlt
  have hp₁ : d₁.arena.current = some p := by simp only [ScopeArena.current, hs₁]; exact hp
  obtain ⟨c₂, hc₂, hch₂⟩ := hrest.2 _ _ _ p h₃ hp₁ (Nat.lt_of_lt_of_le hlt hb₁.size)
  refine ⟨c₁ ++ id :: c₂, by simp [hc₁, hc₂]; omega, ?_⟩
  rw [(hrest.1 _ _ _ h₃).1.childrenFrom p hb₁.size, hch₁]
  simp only [List.map_append, List.map_cons, List.append_assoc, List.cons_append,
    List.nil_append] at hch₂ ⊢
  rw [← hch₂]

/-- A query: its frame of WITH names, its WITH clause, then its body. -/
theorem Opens.query {w : Detect Unit} {b : Detect Nat} (hw : OpensCtes n₁ w)
    (hb : Opens kind n₂ b) :
    Opens kind (n₁ + n₂) (do
      pushFrame
      let id ← tryCatch (do w; b) fun e => do popFrame; throw e
      popFrame
      return id) := by
  refine ⟨Nests.pushFrame.bind fun _ => (Nests.catchPop (hw.1.bind fun _ => hb.1)).bind
    fun id => Nests.popFrame.bind fun _ => .pure id, ?_⟩
  intro d r d' p h hp hlt
  obtain ⟨_, d₁, h₁, h⟩ := run_bind_ok h
  cases h₁
  obtain ⟨id, d₃, h₃, h⟩ := run_bind_ok h
  obtain ⟨_, d₂, h₂, h₃⟩ :=
    run_bind_ok (run_tryCatch_ok (fun e t => ⟨e, _, run_popFrame_throw e t⟩) h₃)
  obtain ⟨_, d₄, h₄, h⟩ := run_bind_ok h
  cases h₄
  cases h
  obtain ⟨hb₂, hs₂⟩ := hw.1 _ _ _ h₂
  obtain ⟨c₁, hc₁, hch₁⟩ := hw.2 _ _ _ p h₂ hp hlt
  have hp₂ : d₂.arena.current = some p := by simp only [ScopeArena.current, hs₂]; exact hp
  obtain ⟨c₂, hc₂, hch₂⟩ := hb.2 _ _ _ p h₃ hp₂ (Nat.lt_of_lt_of_le hlt hb₂.size)
  refine ⟨c₁ ++ c₂, by rw [List.length_append, hc₁, hc₂], ?_⟩
  show d₃.arena.childrenFrom p d.arena.size = _
  rw [(hb.1 _ _ _ h₃).1.childrenFrom p hb₂.size]
  simp only [List.map_append, List.append_assoc]
  exact congrArg₂ _ hch₁ hch₂

end Opens

/-! ### The walk -/

/-- An expression walk, from any list of inputs, nests what it opens. -/
def WalkNests (x : List Field → Detect (List Field)) : Prop := ∀ acc, Nests (x acc)

section Walk

/-- A SELECT, a set operation or a VALUES list walked as a scope of kind
`kind` that is not the statement's own query. -/
theorem values_kind {kind : ScopeKind} (hk : kind ≠ .query) :
    (if kind == .query then ScopeKind.values else kind) = kind := by
  simp [hk]

mutual

theorem query_opens (kind : ScopeKind) (hk : kind ≠ .query) (aliasName : Option String) :
    ∀ q, Opens kind (LeadingCtes.query q) (query kind aliasName q)
  | .mk _ ctes body _ => by
    simp only [Detect.query, LeadingCtes.query]
    exact Opens.query (withClause_opens ctes) (setExpr_opens kind hk aliasName body)

theorem withClause_opens : ∀ ctes, OpensCtes (LeadingCtes.withClause ctes) (withClause ctes)
  | [] => OpensCtes.nil
  | .mk a q _ _ :: rest => by
    simp only [Detect.withClause, LeadingCtes.withClause]
    exact OpensCtes.cons (query_opens .cte (by decide) _ q) (withClause_opens rest) _

theorem setExpr_opens (kind : ScopeKind) (hk : kind ≠ .query) (aliasName : Option String) :
    ∀ t, Opens kind (LeadingCtes.setExpr t) (setExpr kind aliasName t)
  | .select sel => by
    simp only [Detect.setExpr, LeadingCtes.setExpr]
    exact (select_enters kind aliasName sel).opens
  | .query q => by
    simp only [Detect.setExpr, LeadingCtes.setExpr]
    exact query_opens kind hk aliasName q
  | .setOp l _ _ r => by
    simp only [Detect.setExpr, LeadingCtes.setExpr]
    refine (Enters.of_enter fun id => ?_).opens
    -- the operands are scopes below the operation's own
    exact Closes.bind (setExpr_opens .setOperand (by decide) none l).1 fun _ =>
      Closes.bind (setExpr_opens .setOperand (by decide) none r).1 fun _ =>
      Closes.get fun _ => Closes.bind (Nests.modifyScope fun _ => rfl) fun _ => Closes.exit id
  | .values _ [] => by
    simp only [Detect.setExpr, LeadingCtes.setExpr]
    rw [values_kind hk]
    refine (Enters.of_enter fun id => ?_).opens
    exact Closes.bind (Nests.pure []) fun _ => Closes.bind (Nests.modifyScope fun _ => rfl) fun _ =>
      Closes.bind (Nests.finalize id) fun _ => Closes.exit id
  | .values _ (row :: _) => by
    simp only [Detect.setExpr, LeadingCtes.setExpr]
    rw [values_kind hk]
    refine (Enters.of_enter fun id => ?_).opens
    exact Closes.bind (rowFields_nests 1 row) fun _ => Closes.bind (Nests.modifyScope fun _ => rfl) fun _ =>
      Closes.bind (Nests.finalize id) fun _ => Closes.exit id
  | .insert .. | .other _ => by
    simp only [Detect.setExpr, LeadingCtes.setExpr]
    exact Opens.of_throw _ 0

theorem select_enters (kind : ScopeKind) (aliasName : Option String) :
    ∀ sel, Enters kind (select kind aliasName sel)
  | .mk _ projection _ from_ _ selection _ having _ => by
    simp only [Detect.select]
    exact Enters.of_enter fun id => Closes.bind (fromClause_nests from_) fun _ =>
      Closes.bind (selectItems_nests projection) fun _ =>
      Closes.bind (Nests.modifyScope fun _ => rfl) fun _ =>
      Closes.bind (walkOpt_nests .predicate selection []) fun _ =>
      Closes.bind (walkOpt_nests .predicate having []) fun _ =>
      Closes.bind (Nests.finalize id) fun _ => Closes.exit id

theorem selectItems_nests : ∀ items, Nests (selectItems items)
  | [] => Nests.pure []
  | item :: rest => by
    simp only [Detect.selectItems]
    exact (selectItem_nests item).bind fun _ => (selectItems_nests rest).bind fun _ => .pure _

theorem selectItem_nests : ∀ item, Nests (selectItem item)
  | .expr e aliasName => by
    simp only [Detect.selectItem]
    split
    · exact Nests.pure _
    · exact (walk_nests .value e []).bind fun _ => .pure _
  | .wildcard none _ => by
    simp only [Detect.selectItem]
    exact Nests.expandWildcard none
  | .wildcard (some name) _ => by
    simp only [Detect.selectItem]
    split
    · exact Nests.expandWildcard _
    · exact Nests.of_throw _

theorem rowFields_nests (k : Nat) : ∀ row, Nests (rowFields k row)
  | [] => Nests.pure []
  | e :: rest => by
    simp only [Detect.rowFields]
    exact (walk_nests .value e []).bind fun _ => (rowFields_nests (k + 1) rest).bind fun _ =>
      .pure _

theorem fromClause_nests : ∀ ts, Nests (fromClause ts)
  | [] => Nests.pure ()
  | t :: rest => by
    simp only [Detect.fromClause]
    exact (tableWithJoins_nests t).bind fun _ => fromClause_nests rest

theorem tableWithJoins_nests : ∀ t, Nests (tableWithJoins t)
  | .mk relation js => by
    simp only [Detect.tableWithJoins]
    exact (factor_nests relation).bind fun _ => joins_nests js

theorem joins_nests : ∀ js, Nests (joins js)
  | [] => Nests.pure ()
  | .mk _ kind relation on c :: rest => by
    simp only [Detect.joins]
    refine (factor_nests relation).bind fun _ => ?_
    split
    · split
      · exact (walkOpt_nests .predicate on []).bind fun _ => joins_nests rest
      · exact (Nests.addUsing _).bind fun _ => joins_nests rest
      · exact joins_nests rest
    · exact joins_nests rest

theorem factor_nests : ∀ t, Nests (factor t)
  | .table name _ aliasName _ => by
    simp only [Detect.factor]
    split
    · refine (Nests.lookupCte _).bind fun r => ?_
      cases r <;> exact (Nests.pure _).bind fun target => Nests.bindName _ target
    · exact Nests.of_throw _
  | .derived _ q aliasName => by
    simp only [Detect.factor]
    exact (query_opens .derived (by decide) _ q).1.bind fun _ => Nests.bindName _ _
  | .nestedJoin inner _ => by
    simp only [Detect.factor]
    exact tableWithJoins_nests inner
  | .other _ => by
    simp only [Detect.factor]
    exact Nests.log _

theorem walk_nests (mode : WalkMode) : ∀ e, WalkNests (walk mode e)
  | .identifier _ => fun acc => by
    rw [Detect.walk_identifier]
    split <;> exact Nests.pure _
  | .compound parts => fun acc => by
    rw [Detect.walk_compound]
    split
    · split <;> exact Nests.pure _
    · exact Nests.pure _
  | .value _ | .typedString .. | .wildcard | .qualifiedWildcard _ | .introduced ..
  | .matchAgainst .. => fun acc => Nests.pure _
  | .isTest e _ | .unary _ e | .postOp e _ | .cast _ e _ _ | .extract _ _ e | .ceilFloor _ e _ _
  | .collate e _ | .nested e | .interval e _ | .namedArg _ _ e | .prior e | .composite e _
  | .lambda _ _ e | .outerJoin e | .named e _ => fun acc => walk_nests mode e acc
  | .isDistinctFrom a _ b | .inUnnest a b _ | .binary a _ b | .like _ _ _ a b _ | .rlike _ a b _
  | .quantified a _ _ b | .atTimeZone a b | .position a b | .exprNamedArg a _ b => fun acc =>
    (walk_nests mode a acc).bind fun _ => walk_nests mode b _
  | .inList e list _ => fun acc => (walk_nests mode e acc).bind fun _ => walkList_nests mode list _
  | .inSubquery e q _ => fun acc =>
    (query_opens .predicate (by decide) none q).1.bind fun _ => walk_nests mode e acc
  | .between e _ lo hi => fun acc =>
    (walk_nests mode e acc).bind fun _ => (walk_nests mode lo _).bind fun _ =>
      walk_nests mode hi _
  | .substring e f fo _ => fun acc =>
    (walk_nests mode e acc).bind fun _ => (walkOpt_nests mode f _).bind fun _ =>
      walkOpt_nests mode fo _
  | .trim e _ what chars => fun acc =>
    (walk_nests mode e acc).bind fun _ => (walkOpt_nests mode what _).bind fun _ =>
      walkList_nests mode chars _
  | .overlay e w f fo => fun acc =>
    (walk_nests mode e acc).bind fun _ => (walk_nests mode w _).bind fun _ =>
      (walk_nests mode f _).bind fun _ => walkOpt_nests mode fo _
  | .tuple items | .array items _ | .structLiteral _ items | .dictionary _ items => fun acc =>
    walkList_nests mode items acc
  | .function _ params args filter _ window withinGroup _ => fun acc =>
    (walkArgs_nests mode params acc).bind fun _ => (walkArgs_nests mode args _).bind fun _ =>
      (walkOpt_nests mode filter _).bind fun _ => (walkWindow_nests mode window _).bind fun _ =>
      walkOrder_nests mode withinGroup _
  | .case operand conds results otherwise => fun acc =>
    (walkOpt_nests mode operand acc).bind fun _ => (walkList_nests mode conds _).bind
      fun _ => (walkList_nests mode results _).bind fun _ => walkOpt_nests mode otherwise _
  | .exists q _ => fun acc =>
    (query_opens .predicate (by decide) none q).1.bind fun _ => Nests.pure acc
  | .subquery q => fun acc => by
    cases mode
    · exact (query_opens .scalar (by decide) none q).1.bind fun _ => Nests.pure _
    · exact (query_opens .predicate (by decide) none q).1.bind fun _ => Nests.pure acc
  | .access root chain => fun acc =>
    (walk_nests mode root acc).bind fun _ => walkAccess_nests mode chain _
  | .pathAccess e steps => fun acc =>
    (walk_nests mode e acc).bind fun _ => walkPath_nests mode steps _
  | .convert _ e _ _ _ styles | .method e styles => fun acc =>
    (walk_nests mode e acc).bind fun _ => walkList_nests mode styles _
  | .mapLiteral entries => fun acc => walkEntries_nests mode entries acc

theorem walkList_nests (mode : WalkMode) : ∀ es, WalkNests (walkList mode es)
  | [] => fun acc => Nests.pure acc
  | e :: rest => fun acc => (walk_nests mode e acc).bind fun _ => walkList_nests mode rest _

theorem walkAccess_nests (mode : WalkMode) : ∀ chain, WalkNests (walkAccess mode chain)
  | [] => fun acc => Nests.pure acc
  | .field e :: rest | .index e :: rest => fun acc =>
    (walk_nests mode e acc).bind fun _ => walkAccess_nests mode rest _
  | .slice lower upper stride :: rest => fun acc =>
    (walkOpt_nests mode lower acc).bind fun _ => (walkOpt_nests mode upper _).bind fun _ =>
      (walkOpt_nests mode stride _).bind fun _ => walkAccess_nests mode rest _

theorem walkClauses_nests (mode : WalkMode) : ∀ clauses, WalkNests (walkClauses mode clauses)
  | [] => fun acc => Nests.pure acc
  | .mk _ e _ :: rest => fun acc =>
    (walkOpt_nests mode e acc).bind fun _ => walkClauses_nests mode rest _

theorem walkEntries_nests (mode : WalkMode) : ∀ entries, WalkNests (walkEntries mode entries)
  | [] => fun acc => Nests.pure acc
  | .mk key v :: rest => fun acc =>
    (walk_nests mode key acc).bind fun _ => (walk_nests mode v _).bind fun _ =>
      walkEntries_nests mode rest _

theorem walkPath_nests (mode : WalkMode) : ∀ steps, WalkNests (walkPath mode steps)
  | [] => fun acc => Nests.pure acc
  | .key _ _ :: rest => fun acc => walkPath_nests mode rest acc
  | .bracket e :: rest => fun acc =>
    (walk_nests mode e acc).bind fun _ => walkPath_nests mode rest _

theorem walkOpt_nests (mode : WalkMode) : ∀ e, WalkNests (walkOpt mode e)
  | none => fun acc => Nests.pure acc
  | some e => fun acc => walk_nests mode e acc

theorem walkArgs_nests (mode : WalkMode) : ∀ args, WalkNests (walkArgs mode args)
  | .list _ args _ orderBy limit clauses => fun acc =>
    (walkList_nests mode args acc).bind fun _ => (walkOrder_nests mode orderBy _).bind
      fun _ => (walkOpt_nests mode limit _).bind fun _ => walkClauses_nests mode clauses _
  | .none | .subquery _ => fun acc => Nests.pure acc

theorem walkOrder_nests (mode : WalkMode) : ∀ items, WalkNests (walkOrder mode items)
  | [] => fun acc => Nests.pure acc
  | .mk e _ _ fill :: rest => fun acc =>
    (walk_nests mode e acc).bind fun _ => (walkFill_nests mode fill _).bind fun _ =>
      walkOrder_nests mode rest _

theorem walkFill_nests (mode : WalkMode) : ∀ fill, WalkNests (walkFill mode fill)
  | some (.mk start stop step) => fun acc =>
    (walkOpt_nests mode start acc).bind fun _ => (walkOpt_nests mode stop _).bind fun _ =>
      walkOpt_nests mode step _
  | none => fun acc => Nests.pure acc

theorem walkWindow_nests (mode : WalkMode) : ∀ window, WalkNests (walkWindow mode window)
  | some (.spec _ partitionBy orderBy _ _ startExpr _ endExpr) => fun acc =>
    (walkList_nests mode partitionBy acc).bind fun _ => (walkOrder_nests mode orderBy _).bind
      fun _ => (walkOpt_nests mode startExpr _).bind fun _ => walkOpt_nests mode endExpr _
  | some (.named _) | none => fun acc => Nests.pure acc

end

end Walk

/-! ### Inputs, each once -/

mutual

theorem Field.beq_iff : ∀ f g : Field, Field.beq f g = true ↔ f = g
  | .column .., g | .scalar .., g | .constant .., g | .wildcard .., g => by
    cases g <;> simp [Field.beq, and_assoc]
  | .derived _ ds _, g => by
    cases g with
    | derived _ ds' _ => simp [Field.beq, Field.beqList_iff ds ds', and_assoc]
    | _ => simp [Field.beq]

theorem Field.beqList_iff : ∀ fs gs : List Field, Field.beqList fs gs = true ↔ fs = gs
  | [], [] => by simp [Field.beqList]
  | f :: fs, g :: gs => by simp [Field.beqList, Field.beq_iff f g, Field.beqList_iff fs gs]
  | [], _ :: _ | _ :: _, [] => by simp [Field.beqList]

end

/-- Two fields are alike, part for part, exactly when they are equal. -/
instance : LawfulBEq Field where
  eq_of_beq h := (Field.beq_iff _ _).mp h
  rfl := (Field.beq_iff _ _).mpr rfl

theorem addInputs_append (fs gs acc : List Field) :
    addInputs (fs ++ gs) acc = addInputs gs (addInputs fs acc) := by
  simp [addInputs, List.foldl_append]

/-- Inputs added one by one to none are the inputs in their order, each once. -/
theorem addInputs_nil (fs : List Field) : addInputs fs [] = fs.eraseDups := by
  induction fs using List.reverseRecOn with
  | nil => rfl
  | append_singleton fs f ih =>
    rw [addInputs_append, ih, eraseDups_concat]
    simp only [addInputs, List.foldl_cons, List.foldl_nil, addInput, List.contains_iff_mem,
      List.mem_eraseDups]

/-! ### What an expression walk collects and opens -/

/-- The queries nested in an expression outside any nested query, in pre-order,
with the kinds of the scopes an expression walk in `mode` opens for them. -/
def Sql.Expr.nestedQueries (mode : WalkMode) (e : Expr) : List (Query × ScopeKind) :=
  e.preorder.filterMap (·.nestedQuery mode)

/-- What an expression walk in `mode` collects at the expressions `es` it
visits, where `ids` are the scopes it opens for the queries nested there, in
order: the column of each column name in a value, and each scalar subquery,
as an input that reads its scope. -/
def collected (mode : WalkMode) : List Expr → List Nat → List Field
  | [], _ => []
  | e :: es, ids =>
    match e.nestedQuery mode, ids with
    | none, ids => e.inputs mode ++ collected mode es ids
    | some (q, kind), id :: ids =>
      (if kind = .scalar then [.scalar ("(" ++ q.render ++ ")") id .subquery] else []) ++
        collected mode es ids
    | some _, [] => []

/-- The inputs of an expression walk in `mode`, given the scopes it opens for
the queries nested in the expression: what its visits collect, in pre-order,
each once. -/
def Sql.Expr.dependencies (mode : WalkMode) (e : Expr) (ids : List Nat) : List Field :=
  (collected mode e.preorder ids).eraseDups

theorem collected_cons (mode : WalkMode) (e : Expr) (es : List Expr) {ids₁ ids₂ : List Nat}
    (hlen : ids₁.length = (e.nestedQuery mode).toList.length) :
    collected mode (e :: es) (ids₁ ++ ids₂) = collected mode [e] ids₁ ++ collected mode es ids₂ := by
  cases hq : e.nestedQuery mode with
  | none =>
    rw [hq] at hlen
    rw [List.length_eq_zero_iff.mp hlen]
    simp [collected, hq]
  | some qk =>
    rw [hq] at hlen
    obtain ⟨id, rfl⟩ := List.length_eq_one_iff.mp hlen
    simp [collected, hq]

/-- The kind of the scope of a nested query is that of a subquery: scalar or
predicate. -/
theorem nestedQuery_kind {mode : WalkMode} {e : Expr} {q : Query} {kind : ScopeKind}
    (h : e.nestedQuery mode = some (q, kind)) : kind = .scalar ∨ kind = .predicate := by
  unfold Sql.Expr.nestedQuery at h
  split at h <;> cases h
  · exact .inr rfl
  · exact .inr rfl
  · cases mode
    · exact .inl rfl
    · exact .inr rfl

/-- The children `L` a walk opens for the nested queries `qs`, whose own scopes
are `ids`: for each query in turn, one scope of kind `cte` for each WITH
definition its walk reaches before its body, then its own scope, of the
query's kind. -/
structure OpenedFor (qs : List (Query × ScopeKind)) (ids : List Nat)
    (L : List (Nat × ScopeKind)) : Prop where
  kinds : L.map Prod.snd = qs.flatMap fun q => List.replicate (LeadingCtes.query q.1) .cte ++ [q.2]
  own : L.filter (·.2 != .cte) = ids.zip (qs.map Prod.snd)

namespace OpenedFor

theorem nil : OpenedFor [] [] [] := ⟨rfl, rfl⟩

theorem query {q : Query} {kind : ScopeKind} (hk : kind ≠ .cte) (id : Nat) {ctes : List Nat}
    (hlen : ctes.length = LeadingCtes.query q) :
    OpenedFor [(q, kind)] [id] (ctes.map (·, ScopeKind.cte) ++ [(id, kind)]) where
  kinds := by
    simp [← hlen, Function.comp_def, List.map_const']
  own := by
    have hnone : (ctes.map (·, ScopeKind.cte)).filter (·.2 != .cte) = [] := by
      simp [List.filter_eq_nil_iff]
    simp [List.filter_append, hnone, hk]

theorem append {qs₁ qs₂ : List (Query × ScopeKind)} {ids₁ ids₂ : List Nat}
    {L₁ L₂ : List (Nat × ScopeKind)} (h₁ : OpenedFor qs₁ ids₁ L₁) (h₂ : OpenedFor qs₂ ids₂ L₂)
    (hlen : ids₁.length = qs₁.length) : OpenedFor (qs₁ ++ qs₂) (ids₁ ++ ids₂) (L₁ ++ L₂) where
  kinds := by rw [List.map_append, h₁.kinds, h₂.kinds, List.flatMap_append]
  own := by
    rw [List.filter_append, h₁.own, h₂.own, List.map_append,
      List.zip_append (by rw [hlen, List.length_map])]

end OpenedFor

section Collect

variable (mode : WalkMode)

/-- One visit: at a nested query, the walk of the query, whose own scope an
input reads when it is scalar; elsewhere nothing opened and the inputs read off
the expression added. -/
theorem visit_opens {acc acc' : List Field} {d d' : Detector} {p : Nat} (e : Expr)
    (h : (visit mode acc e).run.run d = (.ok acc', d')) (hp : d.arena.current = some p)
    (hlt : p < d.arena.size) :
    d.Below d' ∧ d'.arena.stack = d.arena.stack ∧
      ∃ ids, ids.length = (e.nestedQuery mode).toList.length ∧
        acc' = addInputs (collected mode [e] ids) acc ∧
        OpenedFor (e.nestedQuery mode).toList ids (d'.arena.childrenFrom p d.arena.size) := by
  unfold visit at h
  cases hq : e.nestedQuery mode with
  | none =>
    rw [hq] at h
    cases h
    refine ⟨.refl d, rfl, [], by simp, by simp [collected, hq], ?_⟩
    rw [ScopeArena.childrenFrom_of_size_le (Nat.le_refl _)]
    exact .nil
  | some qk =>
    obtain ⟨q, kind⟩ := qk
    rw [hq] at h
    dsimp only at h
    obtain ⟨id, d₁, hrun, hret⟩ := run_bind_ok h
    rw [Run.run_pure] at hret
    cases hret
    have hkind := nestedQuery_kind hq
    have hk : kind ≠ .query := by rcases hkind with rfl | rfl <;> decide
    have hopens := query_opens kind hk none q
    obtain ⟨hb, hs⟩ := hopens.1 _ _ _ hrun
    obtain ⟨ctes, hlen, hch⟩ := hopens.2 _ _ _ p hrun hp hlt
    refine ⟨hb, hs, [id], rfl, ?_, ?_⟩
    · by_cases hsc : kind = .scalar <;> simp [collected, hq, hsc, addInputs]
    · rw [hch]
      exact OpenedFor.query (by rcases hkind with rfl | rfl <;> decide) id hlen

/-- Visits in turn: the inputs of each added, and the children each opens, in
order. -/
theorem foldlM_visit_opens : ∀ (es : List Expr) {acc acc' : List Field} {d d' : Detector} {p : Nat},
    (es.foldlM (visit mode) acc).run.run d = (.ok acc', d') → d.arena.current = some p →
    p < d.arena.size →
    d.Below d' ∧ d'.arena.stack = d.arena.stack ∧
      ∃ ids, ids.length = (es.filterMap (·.nestedQuery mode)).length ∧
        acc' = addInputs (collected mode es ids) acc ∧
        OpenedFor (es.filterMap (·.nestedQuery mode)) ids (d'.arena.childrenFrom p d.arena.size)
  | [], acc, acc', d, d', p, h, _, _ => by
    cases h
    refine ⟨.refl d, rfl, [], rfl, rfl, ?_⟩
    rw [ScopeArena.childrenFrom_of_size_le (Nat.le_refl _)]
    exact .nil
  | e :: es, acc, acc', d, d', p, h, hp, hlt => by
    rw [List.foldlM_cons] at h
    obtain ⟨acc₁, d₁, h₁, h₂⟩ := run_bind_ok h
    obtain ⟨hb₁, hs₁, ids₁, hlen₁, hacc₁, hopen₁⟩ := visit_opens mode e h₁ hp hlt
    have hp₁ : d₁.arena.current = some p := by simp only [ScopeArena.current, hs₁]; exact hp
    obtain ⟨hb₂, hs₂, ids₂, hlen₂, hacc₂, hopen₂⟩ :=
      foldlM_visit_opens es h₂ hp₁ (Nat.lt_of_lt_of_le hlt hb₁.size)
    have hfilter : (e :: es).filterMap (·.nestedQuery mode) =
        (e.nestedQuery mode).toList ++ es.filterMap (·.nestedQuery mode) := by
      cases hq : e.nestedQuery mode <;> simp [hq]
    refine ⟨hb₁.trans hb₂ (by simp only [ScopeArena.current, hs₁]), hs₂.trans hs₁, ids₁ ++ ids₂,
      by rw [hfilter, List.length_append, List.length_append, hlen₁, hlen₂], ?_, ?_⟩
    · rw [collected_cons mode e es hlen₁, addInputs_append, ← hacc₁, hacc₂]
    · rw [hb₂.childrenFrom p hb₁.size, hfilter]
      exact hopen₁.append hopen₂ hlen₁

end Collect

/-- An expression walk, in either mode, from the scope `p` current: its
inputs are what its visits collect, in pre-order and each once, and the
children of `p` it opens are, for each nested query in turn, the scopes of the
WITH definitions the query's walk reaches before its body, then the query's
own scope. Every other scope it opens is below one of those. -/
theorem walk_dependencies (mode : WalkMode) (e : Expr) {d d' : Detector} {inputs : List Field}
    {p : Nat} (hp : d.arena.current = some p) (hlt : p < d.arena.size)
    (h : (walk mode e []).run.run d = (.ok inputs, d')) :
    ∃ ids : List Nat, ids.length = (e.nestedQueries mode).length ∧
      inputs = e.dependencies mode ids ∧
      OpenedFor (e.nestedQueries mode) ids (d'.arena.childrenFrom p d.arena.size) ∧
      ∀ {i S}, d.arena.size ≤ i → d'.arena.get? i = some S →
        S.parent = some p ∨ ∃ q, S.parent = some q ∧ d.arena.size ≤ q := by
  rw [walk_eq_foldlM] at h
  obtain ⟨hb, -, ids, hlen, hacc, hopen⟩ := foldlM_visit_opens mode e.preorder h hp hlt
  refine ⟨ids, hlen, by rw [hacc, addInputs_nil]; rfl, hopen, fun hi hS => ?_⟩
  rw [← hp]
  exact hb.parent hi hS

/-- The field of an expression is a constant exactly when it has no inputs. -/
theorem exprField_constant_iff (name : String) (e : Expr) (inputs : List Field) :
    (∃ n t, exprField name e inputs = .constant n t) ↔ inputs = [] := by
  unfold exprField
  by_cases hempty : inputs = [] <;> simp [hempty]

/-- A select item with an alias, or whose expression is not a column name, is
the field of its expression computed from the walk's inputs. -/
theorem selectItem_walks (e : Expr) (aliasName : Option Ident) {d d' : Detector}
    {fs : List Field} (hnot : aliasName.isSome ∨ columnRef e = none)
    (h : (selectItem (.expr e aliasName)).run.run d = (.ok fs, d')) :
    ∃ inputs, (walk .value e []).run.run d = (.ok inputs, d') ∧
      fs = [exprField ((aliasName.map (·.value)).getD e.render) e inputs] := by
  have hbody : (do
      let inputs ← walk .value e []
      return [exprField ((aliasName.map (·.value)).getD e.render) e inputs] : Detect _).run.run d =
      (.ok fs, d') := by
    cases aliasName with
    | none =>
      have hc : columnRef e = none := by simpa using hnot
      simp only [Detect.selectItem, hc] at h
      exact h
    | some a => exact h
  obtain ⟨inputs, d₁, h₁, h₂⟩ := run_bind_ok hbody
  rw [Run.run_pure] at h₂
  cases h₂
  exact ⟨inputs, h₁, rfl⟩

/-- The fields of a VALUES row, from column `n` on: each the field of its
expression, named by its place, computed from that expression's walk. -/
theorem rowFields_dependencies : ∀ (n : Nat) (es : List Expr) {d d' : Detector} {fs : List Field}
    {p : Nat}, d.arena.current = some p → p < d.arena.size →
    (rowFields n es).run.run d = (.ok fs, d') →
    List.Forall₂ (fun (ei : Expr × Nat) f => ∃ ids : List Nat,
        ids.length = (ei.1.nestedQueries .value).length ∧
        f = exprField ("column" ++ toString ei.2) ei.1 (ei.1.dependencies .value ids))
      (es.zipIdx n) fs
  | n, [], d, d', fs, p, _, _, h => by
    cases h
    exact .nil
  | n, e :: es, d, d', fs, p, hp, hlt, h => by
    simp only [Detect.rowFields] at h
    obtain ⟨inputs, d₁, h₁, h₂⟩ := run_bind_ok h
    obtain ⟨more, d₂, h₃, h₄⟩ := run_bind_ok h₂
    rw [Run.run_pure] at h₄
    cases h₄
    obtain ⟨hb, hs⟩ := walk_nests .value e [] d inputs d₁ h₁
    obtain ⟨ids, hlen, hinputs, -⟩ := walk_dependencies .value e hp hlt h₁
    have hp₁ : d₁.arena.current = some p := by simp only [ScopeArena.current, hs]; exact hp
    rw [List.zipIdx_cons]
    exact .cons ⟨ids, hlen, by rw [hinputs]⟩
      (rowFields_dependencies (n + 1) es hp₁ (Nat.lt_of_lt_of_le hlt hb.size) h₃)

/-- An expression walk, in either mode, from the scope `p` current, and the
fields of select items and VALUES rows.

The walk collects, in pre-order and each once, the column of every column
name outside nested queries, in a value, and every scalar subquery there, as
an input reading the scope opened for it (`Sql.Expr.dependencies`). For each
query nested in the expression outside other nested queries, in pre-order, it
opens as children of `p` one scope of kind `cte` for each WITH definition the
query's walk reaches before its body, then the query's own scope: a scalar one
for a subquery in a value, a predicate one for any other subquery, EXISTS and
IN subqueries included. No other scope it opens is a child of `p`; each is
below one of those.

The field of a select item with an alias, or whose expression is not a column
name, and the field of each expression of a VALUES row, is computed from
those inputs, and is a constant exactly when there are none. -/
theorem expression_walk_scopes :
    (∀ (mode : WalkMode) (e : Expr) {d d' : Detector} {inputs : List Field} {p : Nat},
      d.arena.current = some p → p < d.arena.size →
      (walk mode e []).run.run d = (.ok inputs, d') →
      ∃ ids : List Nat, ids.length = (e.nestedQueries mode).length ∧
        inputs = e.dependencies mode ids ∧
        OpenedFor (e.nestedQueries mode) ids (d'.arena.childrenFrom p d.arena.size) ∧
        ∀ {i S}, d.arena.size ≤ i → d'.arena.get? i = some S →
          S.parent = some p ∨ ∃ q, S.parent = some q ∧ d.arena.size ≤ q) ∧
    (∀ (e : Expr) (aliasName : Option Ident) {d d' : Detector} {fs : List Field} {p : Nat},
      (aliasName.isSome ∨ columnRef e = none) → d.arena.current = some p → p < d.arena.size →
      (selectItem (.expr e aliasName)).run.run d = (.ok fs, d') →
      ∃ ids : List Nat, ids.length = (e.nestedQueries .value).length ∧
        fs = [exprField ((aliasName.map (·.value)).getD e.render) e (e.dependencies .value ids)] ∧
        ((∃ n t, fs = [.constant n t]) ↔ e.dependencies .value ids = [])) ∧
    (∀ (n : Nat) (es : List Expr) {d d' : Detector} {fs : List Field} {p : Nat},
      d.arena.current = some p → p < d.arena.size →
      (rowFields n es).run.run d = (.ok fs, d') →
      List.Forall₂ (fun (ei : Expr × Nat) f => ∃ ids : List Nat,
          ids.length = (ei.1.nestedQueries .value).length ∧
          f = exprField ("column" ++ toString ei.2) ei.1 (ei.1.dependencies .value ids) ∧
          ((∃ m t, f = .constant m t) ↔ ei.1.dependencies .value ids = []))
        (es.zipIdx n) fs) := by
  refine ⟨fun mode e d d' inputs p hp hlt h => walk_dependencies mode e hp hlt h, ?_, ?_⟩
  · intro e aliasName d d' fs p hnot hp hlt h
    obtain ⟨inputs, hwalk, rfl⟩ := selectItem_walks e aliasName hnot h
    obtain ⟨ids, hlen, rfl, -⟩ := walk_dependencies .value e hp hlt hwalk
    refine ⟨ids, hlen, rfl, ?_⟩
    simpa using exprField_constant_iff _ e (e.dependencies .value ids)
  · intro n es d d' fs p hp hlt h
    refine (rowFields_dependencies n es hp hlt h).imp fun {ei f} ⟨ids, hlen, hf⟩ => ?_
    exact ⟨ids, hlen, hf, hf ▸ exprField_constant_iff _ ei.1 (ei.1.dependencies .value ids)⟩

/-! ### A subquery with a WITH clause of its own -/

/-- `SELECT c FROM t`. -/
def readColumn (c t : String) : Sql.SetExpr :=
  .select (.mk "" [.expr (.identifier { value := c }) none] "" [.mk (.table [{ value := t }] "" none "") []]
    "" none "" none "")

/-- `(WITH c AS (SELECT a FROM t) SELECT a FROM c)`. -/
def scalarWithCte : Expr :=
  .subquery (.mk (some false) [.mk { name := { value := "c" } } (.mk none [] (readColumn "a" "t") "")
    none none] (readColumn "a" "c") "")

/-- A detector with the scope of a statement's query open, and nothing else. -/
def oneScope : Detector := ((enter .query none).run.run (Detector.new {} 64)).2

theorem oneScope_current : oneScope.arena.current = some 0 ∧ 0 < oneScope.arena.size := by
  decide +kernel

/-- The walk of `scalarWithCte` in a value succeeds and opens, as children of
the scope open, the scope of `c` and then the subquery's own. -/
theorem scalarWithCte_walk :
    ((walk .value scalarWithCte []).run.run oneScope).1.isOk = true ∧
      ((walk .value scalarWithCte []).run.run oneScope).2.arena.childrenFrom 0 oneScope.arena.size =
        [(1, .cte), (2, .scalar)] := by
  decide +kernel

theorem eq_ok_of_isOk {ε α σ : Type} {r : Except ε α × σ} (h : r.1.isOk = true) :
    ∃ a, r = (.ok a, r.2) := by
  obtain ⟨_ | a, s⟩ := r
  · simp [Except.isOk, Except.toBool] at h
  · exact ⟨a, rfl⟩

/-- A scalar subquery with a WITH clause is one nested query, yet its walk
opens two children of the scope current: the scope of the WITH definition is
one too. -/
theorem subquery_opens_its_ctes_beside :
    (scalarWithCte.nestedQueries .value).length = 1 ∧
      ((walk .value scalarWithCte []).run.run oneScope).1.isOk = true ∧
      (((walk .value scalarWithCte []).run.run oneScope).2.arena.childrenFrom 0
        oneScope.arena.size).length = 2 := by
  refine ⟨by decide +kernel, scalarWithCte_walk.1, ?_⟩
  rw [scalarWithCte_walk.2]
  rfl

/-- The walk of `scalarWithCte` reads the subquery's own scope, the second
child it opens. -/
theorem scalarWithCte_reads_own_scope :
    ∃ ids : List Nat, ((walk .value scalarWithCte []).run.run oneScope).1 =
        .ok (scalarWithCte.dependencies .value ids) ∧
      OpenedFor (scalarWithCte.nestedQueries .value) ids [(1, .cte), (2, .scalar)] := by
  obtain ⟨inputs, hrun⟩ := eq_ok_of_isOk scalarWithCte_walk.1
  obtain ⟨ids, -, hdeps, hopen, -⟩ :=
    expression_walk_scopes.1 .value scalarWithCte oneScope_current.1 oneScope_current.2 hrun
  refine ⟨ids, by rw [hrun, hdeps], ?_⟩
  rw [← scalarWithCte_walk.2]
  exact hopen

end ColumnLineage
