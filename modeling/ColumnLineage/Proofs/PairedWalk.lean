import ColumnLineage.Proofs.PairedSteps
/-
ColumnLineage/Proofs/PairedWalk.lean

The walk over a query keeps pace with itself: walked in two places, or walked
once as written and once with its WHERE, HAVING and ON conditions taken out,
the same query builds matched scopes with agreeing outputs (`query_sim`).

Taking the conditions out (`Sql.Query.strip true`) removes them from every
query inside the given one: its SELECTs and joins, WITH bodies, set operands
and derived tables, and the subqueries of the expressions of its VALUES rows
and of its select items with an alias. A select item without an alias stays as
written, since its text names its output. `Sql.Query.strip false` changes
nothing. A condition is walked only for its subqueries, which open scopes,
close them again and change no scope that was there (`walkOpt_keeps`): so the
walk with the conditions skips them (`Sim.leftQuiet`) and keeps pace with the
walk without.

An expression walk collects inputs: columns not placed yet and scalar
subqueries. Two such lists agree when they agree field for field
(`InputsRel`), where the two scalar subqueries of matched scopes agree
whatever their texts. A column is in one list exactly when it is in the
other. A scalar subquery is of a scope the walk has just opened, in neither
list yet (`query_answers_new`); as the matching sends no two scopes to one,
its match is in neither list either, so it is added on both sides
(`InputsRel.addScalar`).
-/

namespace ColumnLineage

namespace Sql

mutual

/-- The expression with the WHERE, HAVING and ON conditions of every query
inside it taken out, when `b`. -/
def Expr.strip (b : Bool) : Expr → Expr
  | .identifier i => .identifier i
  | .compound parts => .compound parts
  | .value v => .value v
  | .typedString ty v => .typedString ty v
  | .isTest e t => .isTest (Expr.strip b e) t
  | .isDistinctFrom x n y => .isDistinctFrom (Expr.strip b x) n (Expr.strip b y)
  | .inList e list n => .inList (Expr.strip b e) (Expr.stripList b list) n
  | .inSubquery e q n => .inSubquery (Expr.strip b e) (Query.strip b q) n
  | .inUnnest e arr n => .inUnnest (Expr.strip b e) (Expr.strip b arr) n
  | .between e n lo hi => .between (Expr.strip b e) n (Expr.strip b lo) (Expr.strip b hi)
  | .binary l op r => .binary (Expr.strip b l) op (Expr.strip b r)
  | .like op n any e p esc => .like op n any (Expr.strip b e) (Expr.strip b p) esc
  | .rlike n e p re => .rlike n (Expr.strip b e) (Expr.strip b p) re
  | .quantified l op qu r => .quantified (Expr.strip b l) op qu (Expr.strip b r)
  | .unary op e => .unary op (Expr.strip b e)
  | .postOp e op => .postOp (Expr.strip b e) op
  | .cast k e ty fmt => .cast k (Expr.strip b e) ty fmt
  | .atTimeZone t z => .atTimeZone (Expr.strip b t) (Expr.strip b z)
  | .extract f c e => .extract f c (Expr.strip b e)
  | .ceilFloor name e scale field => .ceilFloor name (Expr.strip b e) (Expr.stripOpt b scale) field
  | .position e i => .position (Expr.strip b e) (Expr.strip b i)
  | .substring e f fo sp =>
    .substring (Expr.strip b e) (Expr.stripOpt b f) (Expr.stripOpt b fo) sp
  | .trim e side what chars =>
    .trim (Expr.strip b e) side (Expr.stripOpt b what) (Expr.stripList b chars)
  | .overlay e w f fo =>
    .overlay (Expr.strip b e) (Expr.strip b w) (Expr.strip b f) (Expr.stripOpt b fo)
  | .collate e c => .collate (Expr.strip b e) c
  | .nested e => .nested (Expr.strip b e)
  | .tuple items => .tuple (Expr.stripList b items)
  | .array items n => .array (Expr.stripList b items) n
  | .interval v q => .interval (Expr.strip b v) q
  | .function name params args filter nulls window withinGroup escaped =>
    .function name (FunctionArgs.strip b params) (FunctionArgs.strip b args)
      (Expr.stripOpt b filter) nulls (Window.stripOpt b window) (OrderItem.stripAll b withinGroup)
      escaped
  | .namedArg name op e => .namedArg name op (Expr.strip b e)
  | .exprNamedArg name op e => .exprNamedArg (Expr.strip b name) op (Expr.strip b e)
  | .matchAgainst cols v m => .matchAgainst cols v m
  | .case operand conds results otherwise =>
    .case (Expr.stripOpt b operand) (Expr.stripList b conds) (Expr.stripList b results)
      (Expr.stripOpt b otherwise)
  | .exists q n => .exists (Query.strip b q) n
  | .subquery q => .subquery (Query.strip b q)
  | .access root chain => .access (Expr.strip b root) (Access.stripAll b chain)
  | .pathAccess e path => .pathAccess (Expr.strip b e) (PathStep.stripAll b path)
  | .composite e key => .composite (Expr.strip b e) key
  | .wildcard => .wildcard
  | .qualifiedWildcard name => .qualifiedWildcard name
  | .introduced i v => .introduced i v
  | .convert t e ty cs tf styles => .convert t (Expr.strip b e) ty cs tf (Expr.stripList b styles)
  | .structLiteral ty values => .structLiteral ty (Expr.stripList b values)
  | .named e name => .named (Expr.strip b e) name
  | .dictionary keys values => .dictionary keys (Expr.stripList b values)
  | .mapLiteral entries => .mapLiteral (MapEntry.stripAll b entries)
  | .prior e => .prior (Expr.strip b e)
  | .lambda ps parens body => .lambda ps parens (Expr.strip b body)
  | .outerJoin e => .outerJoin (Expr.strip b e)
  | .method e calls => .method (Expr.strip b e) (Expr.stripList b calls)

def Expr.stripList (b : Bool) : List Expr → List Expr
  | [] => []
  | e :: rest => Expr.strip b e :: Expr.stripList b rest

def Expr.stripOpt (b : Bool) : Option Expr → Option Expr
  | some e => some (Expr.strip b e)
  | none => none

def Expr.stripRows (b : Bool) : List (List Expr) → List (List Expr)
  | [] => []
  | row :: rest => Expr.stripList b row :: Expr.stripRows b rest

def MapEntry.stripAll (b : Bool) : List MapEntry → List MapEntry
  | [] => []
  | .mk key v :: rest => .mk (Expr.strip b key) (Expr.strip b v) :: MapEntry.stripAll b rest

def Access.stripAll (b : Bool) : List Access → List Access
  | [] => []
  | .field e :: rest => .field (Expr.strip b e) :: Access.stripAll b rest
  | .index e :: rest => .index (Expr.strip b e) :: Access.stripAll b rest
  | .slice lower upper stride :: rest =>
    .slice (Expr.stripOpt b lower) (Expr.stripOpt b upper) (Expr.stripOpt b stride) ::
      Access.stripAll b rest

def ArgClause.stripAll (b : Bool) : List ArgClause → List ArgClause
  | [] => []
  | .mk before e after :: rest => .mk before (Expr.stripOpt b e) after :: ArgClause.stripAll b rest

def PathStep.stripAll (b : Bool) : List PathStep → List PathStep
  | [] => []
  | .key name quoted :: rest => .key name quoted :: PathStep.stripAll b rest
  | .bracket e :: rest => .bracket (Expr.strip b e) :: PathStep.stripAll b rest

def FunctionArgs.strip (b : Bool) : FunctionArgs → FunctionArgs
  | .none => .none
  | .subquery q => .subquery (Query.strip b q)
  | .list dup args nulls orderBy limit clauses =>
    .list dup (Expr.stripList b args) nulls (OrderItem.stripAll b orderBy) (Expr.stripOpt b limit)
      (ArgClause.stripAll b clauses)

def OrderItem.stripAll (b : Bool) : List OrderItem → List OrderItem
  | [] => []
  | .mk e asc nulls fill :: rest =>
    .mk (Expr.strip b e) asc nulls (Fill.stripOpt b fill) :: OrderItem.stripAll b rest

def Fill.stripOpt (b : Bool) : Option Fill → Option Fill
  | some (.mk start stop step) =>
    some (.mk (Expr.stripOpt b start) (Expr.stripOpt b stop) (Expr.stripOpt b step))
  | none => none

def Window.stripOpt (b : Bool) : Option Window → Option Window
  | some (.named name) => some (.named name)
  | some (.spec name partitionBy orderBy units start startExpr finish finishExpr) =>
    some (.spec name (Expr.stripList b partitionBy) (OrderItem.stripAll b orderBy) units start
      (Expr.stripOpt b startExpr) finish (Expr.stripOpt b finishExpr))
  | none => none

/-- The query with its WHERE, HAVING and ON conditions taken out, when `b`:
at every place of its structure, and inside the expressions of its VALUES
rows and of its select items with an alias. A select item without an alias
stays as written, since its text names its output. -/
def Query.strip (b : Bool) : Query → Query
  | .mk r ctes body tail => .mk r (Cte.stripAll b ctes) (SetExpr.strip b body) tail

def Cte.stripAll (b : Bool) : List Cte → List Cte
  | [] => []
  | .mk a q m f :: rest => .mk a (Query.strip b q) m f :: Cte.stripAll b rest

def SetExpr.strip (b : Bool) : SetExpr → SetExpr
  | .select s => .select (Select.strip b s)
  | .query q => .query (Query.strip b q)
  | .setOp l op qu r => .setOp (SetExpr.strip b l) op qu (SetExpr.strip b r)
  | .values explicitRow rows => .values explicitRow (Expr.stripRows b rows)
  | e => e

def Select.strip (b : Bool) : Select → Select
  | .mk h p i from_ m sel g hav t =>
    .mk h (SelectItem.stripAll b p) i (TableWithJoins.stripAll b from_) m
      (if b then none else sel) g (if b then none else hav) t

def SelectItem.strip (b : Bool) : SelectItem → SelectItem
  | .expr e (some a) => .expr (Expr.strip b e) (some a)
  | item => item

def SelectItem.stripAll (b : Bool) : List SelectItem → List SelectItem
  | [] => []
  | item :: rest => SelectItem.strip b item :: SelectItem.stripAll b rest

def TableWithJoins.stripAll (b : Bool) : List TableWithJoins → List TableWithJoins
  | [] => []
  | t :: rest => TableWithJoins.strip b t :: TableWithJoins.stripAll b rest

def TableWithJoins.strip (b : Bool) : TableWithJoins → TableWithJoins
  | .mk relation js => .mk (TableFactor.strip b relation) (Join.stripAll b js)

def Join.stripAll (b : Bool) : List Join → List Join
  | [] => []
  | .mk g k relation on c :: rest =>
    .mk g k (TableFactor.strip b relation) (if b then none else on) c :: Join.stripAll b rest

def TableFactor.strip (b : Bool) : TableFactor → TableFactor
  | .derived l q a => .derived l (Query.strip b q) a
  | .nestedJoin inner a => .nestedJoin (TableWithJoins.strip b inner) a
  | t => t

end

mutual

theorem Expr.strip_false : ∀ e : Expr, e.strip false = e
  | .identifier _ | .compound _ | .value _ | .typedString .. | .matchAgainst .. | .wildcard
  | .qualifiedWildcard _ | .introduced .. => rfl
  | .isTest e _ | .unary _ e | .postOp e _ | .cast _ e _ _ | .extract _ _ e | .collate e _
  | .nested e | .interval e _ | .namedArg _ _ e | .composite e _ | .named e _ | .prior e
  | .lambda _ _ e | .outerJoin e => by
    simp only [Expr.strip, Expr.strip_false e]
  | .isDistinctFrom x _ y | .inUnnest x y _ | .binary x _ y | .like _ _ _ x y _ | .rlike _ x y _
  | .quantified x _ _ y | .atTimeZone x y | .position x y | .exprNamedArg x _ y => by
    simp only [Expr.strip, Expr.strip_false x, Expr.strip_false y]
  | .between e _ lo hi => by
    simp only [Expr.strip, Expr.strip_false e, Expr.strip_false lo, Expr.strip_false hi]
  | .inList e list _ | .trim e _ _ list | .convert _ e _ _ _ list | .method e list => by
    simp only [Expr.strip, Expr.strip_false e, Expr.stripList_false list,
      Expr.stripOpt_false]
  | .inSubquery e q _ => by simp only [Expr.strip, Expr.strip_false e, Query.strip_false q]
  | .ceilFloor _ e scale _ => by
    simp only [Expr.strip, Expr.strip_false e, Expr.stripOpt_false scale]
  | .substring e f fo _ => by
    simp only [Expr.strip, Expr.strip_false e, Expr.stripOpt_false f, Expr.stripOpt_false fo]
  | .overlay e w f fo => by
    simp only [Expr.strip, Expr.strip_false e, Expr.strip_false w, Expr.strip_false f,
      Expr.stripOpt_false fo]
  | .tuple items | .array items _ | .structLiteral _ items | .dictionary _ items => by
    simp only [Expr.strip, Expr.stripList_false items]
  | .function _ params args filter _ window withinGroup _ => by
    simp only [Expr.strip, FunctionArgs.strip_false params, FunctionArgs.strip_false args,
      Expr.stripOpt_false filter, Window.stripOpt_false window, OrderItem.stripAll_false withinGroup]
  | .case operand conds results otherwise => by
    simp only [Expr.strip, Expr.stripOpt_false operand, Expr.stripList_false conds,
      Expr.stripList_false results, Expr.stripOpt_false otherwise]
  | .exists q _ | .subquery q => by simp only [Expr.strip, Query.strip_false q]
  | .access root chain => by simp only [Expr.strip, Expr.strip_false root, Access.stripAll_false chain]
  | .pathAccess e path => by simp only [Expr.strip, Expr.strip_false e, PathStep.stripAll_false path]
  | .mapLiteral entries => by simp only [Expr.strip, MapEntry.stripAll_false entries]

theorem Expr.stripList_false : ∀ es : List Expr, Expr.stripList false es = es
  | [] => rfl
  | e :: rest => by simp only [Expr.stripList, Expr.strip_false e, Expr.stripList_false rest]

theorem Expr.stripOpt_false : ∀ e : Option Expr, Expr.stripOpt false e = e
  | some e => by simp only [Expr.stripOpt, Expr.strip_false e]
  | none => rfl

theorem Expr.stripRows_false : ∀ rows : List (List Expr), Expr.stripRows false rows = rows
  | [] => rfl
  | row :: rest => by simp only [Expr.stripRows, Expr.stripList_false row, Expr.stripRows_false rest]

theorem MapEntry.stripAll_false : ∀ entries : List MapEntry, MapEntry.stripAll false entries = entries
  | [] => rfl
  | .mk key v :: rest => by
    simp only [MapEntry.stripAll, Expr.strip_false key, Expr.strip_false v,
      MapEntry.stripAll_false rest]

theorem Access.stripAll_false : ∀ chain : List Access, Access.stripAll false chain = chain
  | [] => rfl
  | .field e :: rest | .index e :: rest => by
    simp only [Access.stripAll, Expr.strip_false e, Access.stripAll_false rest]
  | .slice lower upper stride :: rest => by
    simp only [Access.stripAll, Expr.stripOpt_false lower, Expr.stripOpt_false upper,
      Expr.stripOpt_false stride, Access.stripAll_false rest]

theorem ArgClause.stripAll_false : ∀ clauses : List ArgClause, ArgClause.stripAll false clauses = clauses
  | [] => rfl
  | .mk _ e _ :: rest => by
    simp only [ArgClause.stripAll, Expr.stripOpt_false e, ArgClause.stripAll_false rest]

theorem PathStep.stripAll_false : ∀ path : List PathStep, PathStep.stripAll false path = path
  | [] => rfl
  | .key .. :: rest => by simp only [PathStep.stripAll, PathStep.stripAll_false rest]
  | .bracket e :: rest => by
    simp only [PathStep.stripAll, Expr.strip_false e, PathStep.stripAll_false rest]

theorem FunctionArgs.strip_false : ∀ args : FunctionArgs, args.strip false = args
  | .none => rfl
  | .subquery q => by simp only [FunctionArgs.strip, Query.strip_false q]
  | .list _ args _ orderBy limit clauses => by
    simp only [FunctionArgs.strip, Expr.stripList_false args, OrderItem.stripAll_false orderBy,
      Expr.stripOpt_false limit, ArgClause.stripAll_false clauses]

theorem OrderItem.stripAll_false : ∀ items : List OrderItem, OrderItem.stripAll false items = items
  | [] => rfl
  | .mk e _ _ fill :: rest => by
    simp only [OrderItem.stripAll, Expr.strip_false e, Fill.stripOpt_false fill,
      OrderItem.stripAll_false rest]

theorem Fill.stripOpt_false : ∀ fill : Option Fill, Fill.stripOpt false fill = fill
  | some (.mk start stop step) => by
    simp only [Fill.stripOpt, Expr.stripOpt_false start, Expr.stripOpt_false stop,
      Expr.stripOpt_false step]
  | none => rfl

theorem Window.stripOpt_false : ∀ window : Option Window, Window.stripOpt false window = window
  | some (.named _) => rfl
  | some (.spec _ partitionBy orderBy _ _ startExpr _ finishExpr) => by
    simp only [Window.stripOpt, Expr.stripList_false partitionBy, OrderItem.stripAll_false orderBy,
      Expr.stripOpt_false startExpr, Expr.stripOpt_false finishExpr]
  | none => rfl

theorem Query.strip_false : ∀ q : Query, q.strip false = q
  | .mk r ctes body tail => by
    simp only [Query.strip, Cte.stripAll_false ctes, SetExpr.strip_false body]

theorem Cte.stripAll_false : ∀ ctes : List Cte, Cte.stripAll false ctes = ctes
  | [] => rfl
  | .mk a q m f :: rest => by
    simp only [Cte.stripAll, Query.strip_false q, Cte.stripAll_false rest]

theorem SetExpr.strip_false : ∀ t : SetExpr, t.strip false = t
  | .select s => by simp only [SetExpr.strip, Select.strip_false s]
  | .query q => by simp only [SetExpr.strip, Query.strip_false q]
  | .setOp l op qu r => by simp only [SetExpr.strip, SetExpr.strip_false l, SetExpr.strip_false r]
  | .values _ rows => by simp only [SetExpr.strip, Expr.stripRows_false rows]
  | .insert .. | .other _ => rfl

theorem Select.strip_false : ∀ s : Select, s.strip false = s
  | .mk h p i from_ m sel g hav t => by
    simp only [Select.strip, SelectItem.stripAll_false p, TableWithJoins.stripAll_false from_,
      Bool.false_eq_true, if_false]

theorem SelectItem.strip_false : ∀ item : SelectItem, item.strip false = item
  | .expr e (some _) => by simp only [SelectItem.strip, Expr.strip_false e]
  | .expr _ none | .wildcard .. => rfl

theorem SelectItem.stripAll_false : ∀ items : List SelectItem, SelectItem.stripAll false items = items
  | [] => rfl
  | item :: rest => by
    simp only [SelectItem.stripAll, SelectItem.strip_false item, SelectItem.stripAll_false rest]

theorem TableWithJoins.stripAll_false :
    ∀ ts : List TableWithJoins, TableWithJoins.stripAll false ts = ts
  | [] => rfl
  | t :: rest => by
    simp only [TableWithJoins.stripAll, TableWithJoins.strip_false t,
      TableWithJoins.stripAll_false rest]

theorem TableWithJoins.strip_false : ∀ t : TableWithJoins, t.strip false = t
  | .mk relation js => by
    simp only [TableWithJoins.strip, TableFactor.strip_false relation, Join.stripAll_false js]

theorem Join.stripAll_false : ∀ js : List Join, Join.stripAll false js = js
  | [] => rfl
  | .mk g k relation on c :: rest => by
    simp only [Join.stripAll, TableFactor.strip_false relation, Join.stripAll_false rest,
      Bool.false_eq_true, if_false]

theorem TableFactor.strip_false : ∀ t : TableFactor, t.strip false = t
  | .derived l q a => by simp only [TableFactor.strip, Query.strip_false q]
  | .nestedJoin inner a => by simp only [TableFactor.strip, TableWithJoins.strip_false inner]
  | .table .. | .other _ => rfl

end

/-- Taking conditions out keeps whether a call has a window. -/
theorem Window.isSome_stripOpt (b : Bool) (window : Option Window) :
    (Window.stripOpt b window).isSome = window.isSome := by
  rcases window with _ | _ | _ <;> rfl

/-- Taking conditions out keeps the kind of an expression. -/
theorem Expr.classify_strip (b : Bool) (e : Expr) : classify (e.strip b) = classify e := by
  cases e
  case nested e => exact Expr.classify_strip b e
  case function => simp only [Expr.strip, classify, Window.isSome_stripOpt]
  all_goals rfl

end Sql

open Run Detect

/-! ### Collected inputs -/

/-- A field an expression walk collects as an input: a column not placed
yet, or a scalar subquery. -/
def Field.Collected : Field → Prop
  | .column _ r _ => r.origin = .pending
  | .scalar .. => True
  | _ => False

/-- Two scalar subqueries are the same input when they name the same text,
scope and transformation. -/
theorem Field.scalar_beq (n n' : String) (i i' : Nat) (p p' : Transformation) :
    (Field.scalar n i p == Field.scalar n' i' p') = (n == n' && i == i' && p == p') := rfl

section Inputs

variable {ρ : Renaming}

/-- A collected input agrees with a copy of itself, or is a scalar subquery
agreeing with one of the matched scope. -/
theorem FieldAgree.collected_cases {f f' : Field} (h : FieldAgree ρ false f f')
    (hf : f.Collected) :
    (∃ n r p, f = .column n r p ∧ f' = .column n r p) ∨
      ∃ n n' i j p, f = .scalar n i p ∧ f' = .scalar n' j p ∧ ρ.map i = some j := by
  match f, f', h with
  | .column n r p, .column n' r' p', h =>
    obtain ⟨hn, hr, hp⟩ := h
    exact .inl ⟨n, r, p, rfl, by rw [hn, hr.eq_of_pending hf, hp]⟩
  | .scalar n i p, .scalar n' j p', h =>
    obtain ⟨-, hij, hp⟩ := h
    exact .inr ⟨n, n', i, j, p, rfl, by rw [hp], hij⟩

/-- The inputs collected by two walks agree: collected fields, agreeing in
order. -/
def InputsRel (ρ : Renaming) (acc acc' : List Field) : Prop :=
  List.Forall₂ (fun f f' => f.Collected ∧ FieldAgree ρ false f f') acc acc'

theorem InputsRel.nil : InputsRel ρ [] [] := List.Forall₂.nil

theorem InputsRel.mono {ρ' : Renaming} (hρ : ρ.Extends ρ') {acc acc' : List Field}
    (h : InputsRel ρ acc acc') : InputsRel ρ' acc acc' :=
  h.imp fun _ _ hf => ⟨hf.1, FieldAgree.mono hρ hf.2⟩

theorem InputsRel.fields {acc acc' : List Field} (h : InputsRel ρ acc acc') :
    List.Forall₂ (FieldAgree ρ false) acc acc' :=
  h.imp fun _ _ hf => hf.2

/-- The scalar subqueries collected so far are of matched scopes, so of
scopes there already. -/
theorem InputsRel.scalar_lt {acc acc' : List Field} (h : InputsRel ρ acc acc')
    {A A' : ScopeArena} (hA : ScopesRel ρ A A') {n : String} {i : Nat} {p : Transformation}
    (hi : Field.scalar n i p ∈ acc) : i < A.size := by
  induction h with
  | nil => cases hi
  | cons hg _ ih =>
    rcases List.mem_cons.mp hi with rfl | hi
    · rcases hg.2.collected_cases hg.1 with ⟨_, _, _, he, -⟩ | ⟨_, _, _, _, _, he, -, hij⟩
      · cases he
      · cases he
        obtain ⟨S, -, hS, -⟩ := hA hij
        exact ScopeArena.lt_size_of_get? hS
    · exact ih hi

/-- A column not placed yet is in one list of collected inputs exactly when
it is in the other. -/
theorem InputsRel.contains_column {acc acc' : List Field} (h : InputsRel ρ acc acc')
    (n : String) (r : ColumnRef) (p : Transformation) :
    acc'.contains (.column n r p) = acc.contains (.column n r p) := by
  induction h with
  | nil => rfl
  | cons hg _ ih =>
    rw [List.contains_cons, List.contains_cons, ih]
    rcases hg.2.collected_cases hg.1 with ⟨_, _, _, rfl, rfl⟩ | ⟨_, _, _, _, _, rfl, rfl, -⟩ <;> rfl

/-- A column read by name, before it is placed, is an input of its own. -/
theorem InputsRel.addColumn {acc acc' : List Field} (h : InputsRel ρ acc acc') (name : String)
    {ref : ColumnRef} (href : ref.origin = .pending) :
    InputsRel ρ (ColumnLineage.addInput (Field.ofColumn name ref) acc)
      (ColumnLineage.addInput (Field.ofColumn name ref) acc') := by
  unfold ColumnLineage.addInput Field.ofColumn
  rw [h.contains_column]
  split
  · exact h
  · exact List.rel_append h (.cons ⟨href, rfl, ⟨rfl, rfl, rfl, by rw [href]; rfl⟩, rfl⟩ .nil)

/-- A scalar subquery of a scope that no collected input reads is in
neither list, on either side. -/
theorem InputsRel.contains_scalar {acc acc' : List Field} (h : InputsRel ρ acc acc') {r r' : Nat}
    (hr : ρ.map r = some r') (hfresh : ∀ {n i p}, Field.scalar n i p ∈ acc → i ≠ r)
    (n n' : String) (p : Transformation) :
    acc.contains (.scalar n r p) = false ∧ acc'.contains (.scalar n' r' p) = false := by
  induction h with
  | nil => exact ⟨rfl, rfl⟩
  | cons hg _ ih =>
    obtain ⟨ih, ih'⟩ := ih fun hi => hfresh (List.mem_cons_of_mem _ hi)
    rw [List.contains_cons, List.contains_cons, ih, ih', Bool.or_false, Bool.or_false]
    rcases hg.2.collected_cases hg.1 with ⟨_, _, _, rfl, rfl⟩ | ⟨_, _, i, j, _, rfl, rfl, hij⟩
    · exact ⟨rfl, rfl⟩
    · -- the matching sends no two scopes to one, so the match of `r` is new too
      have hi : i ≠ r := hfresh (List.mem_cons_self ..)
      have hj : j ≠ r' := fun hj => hi (ρ.injective hij (hj ▸ hr))
      simp only [Field.scalar_beq, beq_eq_false_iff_ne.mpr hi.symm, beq_eq_false_iff_ne.mpr hj.symm,
        Bool.and_false, Bool.false_and, and_self]

/-- The scalar subqueries of matched scopes that no collected input reads
are inputs of their own, whatever their texts. -/
theorem InputsRel.addScalar {acc acc' : List Field} (h : InputsRel ρ acc acc') {r r' : Nat}
    (hr : ρ.map r = some r') (hfresh : ∀ {n i p}, Field.scalar n i p ∈ acc → i ≠ r)
    (n n' : String) (p : Transformation) :
    InputsRel ρ (ColumnLineage.addInput (.scalar n r p) acc)
      (ColumnLineage.addInput (.scalar n' r' p) acc') := by
  obtain ⟨hleft, hright⟩ := h.contains_scalar hr hfresh n n' p
  unfold ColumnLineage.addInput
  rw [hleft, hright]
  exact List.rel_append h (.cons ⟨trivial, fun hf => absurd hf Bool.false_ne_true, hr, rfl⟩ .nil)

/-- The field of an expression over agreeing inputs agrees with that of an
expression of the same kind. -/
theorem InputsRel.exprField {acc acc' : List Field} (h : InputsRel ρ acc acc') (name : String)
    {e e' : Sql.Expr} (he : classify e' = classify e) :
    FieldRel ρ (exprField name e acc) (exprField name e' acc') := by
  unfold ColumnLineage.exprField
  rw [he]
  have hlen := h.length_eq
  by_cases hem : acc.isEmpty
  · have hem' : acc'.isEmpty := by
      rw [List.isEmpty_iff_length_eq_zero] at hem ⊢
      omega
    simp only [hem, hem', if_true]
    rfl
  · have hem' : acc'.isEmpty = false := by
      rw [Bool.eq_false_iff, ne_eq, List.isEmpty_iff_length_eq_zero]
      rw [Bool.not_eq_true, List.isEmpty_eq_false_iff_exists_mem] at hem
      obtain ⟨x, hx⟩ := hem
      have := List.length_pos_of_mem hx
      omega
    simp only [hem, hem', Bool.false_eq_true, if_false]
    exact ⟨rfl, fieldsRel_iff.mpr h.fields, rfl⟩

end Inputs

/-! ### Expression walks in step -/

section Steps

variable {n m : Nat} {P : Renaming → Detector → Prop}

/-- The expression walk `y` keeps pace with the expression walk `x` from
agreeing inputs, and ends with agreeing inputs. -/
def WalkSim (n m : Nat) (x y : List Field → Detect (List Field)) : Prop :=
  ∀ acc acc', Sim (fun ρ _ => InputsRel ρ acc acc') n m n m (x acc) (y acc')
    (fun ρ a a' _ => InputsRel ρ a a')

theorem WalkSim.pure : WalkSim n m (fun acc => pure acc) (fun acc => pure acc) :=
  fun acc acc' => Sim.pure acc acc' fun h => h

theorem WalkSim.comp {x x' y y' : List Field → Detect (List Field)} (hx : WalkSim n m x x')
    (hy : WalkSim n m y y') : WalkSim n m (fun acc => x acc >>= y) (fun acc => x' acc >>= y') :=
  fun acc acc' => Sim.bind (hx acc acc') fun a a' => hy a a'

/-- Walks in step started from no inputs, whatever is assumed of the start. -/
theorem WalkSim.fresh {x y : List Field → Detect (List Field)} (h : WalkSim n m x y) :
    Sim P n m n m (x []) (y []) (fun ρ a a' _ => InputsRel ρ a a') :=
  (h [] []).mono (fun _ => InputsRel.nil) (fun h => h)

/-- A subquery walked for its own sake before the rest of the walk. -/
theorem WalkSim.after {q q' : Detect Nat} {R : Renaming → Nat → Nat → Detector → Prop}
    (hq : Sim (fun _ _ => True) n m n m q q' R) {x x' : List Field → Detect (List Field)}
    (hx : WalkSim n m x x') :
    WalkSim n m (fun acc => q >>= fun _ => x acc) (fun acc => q' >>= fun _ => x' acc) :=
  fun acc acc' =>
    Sim.bind ((hq.frame (Q := fun ρ => InputsRel ρ acc acc') fun hρ h => h.mono hρ).mono
      (fun h => ⟨trivial, h⟩) (fun h => h)) fun _ _ => (hx acc acc').mono (fun h => h.2) (fun h => h)

/-- A condition, walked on one side, and on the other only when `b` is false. -/
theorem Sim.predicate (b : Bool) {e : Option Sql.Expr}
    (h : WalkSim n m (walkOpt .predicate e) (walkOpt .predicate (Sql.Expr.stripOpt false e))) :
    Sim P n m n m (walkOpt .predicate e []) (walkOpt .predicate (if b then none else e) [])
      (fun _ _ _ _ => True) := by
  cases b with
  | false =>
    rw [Sql.Expr.stripOpt_false] at h
    simp only [Bool.false_eq_true, if_false]
    exact h.fresh.mono (fun h => h) (fun _ => trivial)
  | true =>
    simp only [if_true, walkOpt]
    exact Sim.leftQuiet (walkOpt_keeps .predicate e []) (fun _ => Detector.ReadsDone.nil _) []

/-- An item with an alias is named by it, whatever it reads. -/
theorem selectItem_of_alias (e : Sql.Expr) (a : Sql.Ident) :
    selectItem (.expr e (some a)) = (do
      let inputs ← walk .value e []
      return [exprField a.value e inputs]) := rfl

theorem ScopeKind.seesEnclosing_values (κ : ScopeKind) :
    (if κ == .query then ScopeKind.values else κ).seesEnclosing = κ.seesEnclosing := by
  cases κ <;> rfl

/-- A VALUES list in step: matched scopes with agreeing outputs, the fields
of its first row. -/
theorem sim_values {κ κ' : ScopeKind} (α α' : Option String)
    (hκ : κ'.seesEnclosing = κ.seesEnclosing ∨ n = 0) {first first' : Detect (List Field)}
    (hfirst : Sim (fun _ _ => True) (n + 1) m (n + 1) m first first'
      (fun ρ fs fs' s => List.Forall₂ (FieldRel ρ) fs fs' ∧ s.ReadsDone fs)) :
    Sim (fun _ _ => True) n m n m
      (do
        let id ← enter (if κ == .query then .values else κ) α
        let fields ← first
        modifyScope id fun s => { s with fields }
        finalize id
        let _ ← exit
        return id)
      (do
        let id ← enter (if κ' == .query then .values else κ') α'
        let fields ← first'
        modifyScope id fun s => { s with fields }
        finalize id
        let _ ← exit
        return id)
      (fun ρ r r' _ => ρ.map r = some r') := by
  have hκ' : (if κ' == .query then ScopeKind.values else κ').seesEnclosing =
      (if κ == .query then ScopeKind.values else κ).seesEnclosing ∨ n = 0 := by
    rw [ScopeKind.seesEnclosing_values, ScopeKind.seesEnclosing_values]
    exact hκ
  intro ρ s w hv _ hst
  refine (sim_enter α α' hκ' ρ s w hv trivial hst).bind fun ρ₁ id id' s₁ w₁ _ hs₁ hid => ?_
  refine (hfirst ρ₁ s₁ w₁ hs₁.valid trivial hs₁.inStep).bind fun ρ₂ fs fs' s₂ w₂ _ hs₂ hfs => ?_
  refine (sim_setFields ρ₂ s₂ w₂ hs₂.valid ⟨hs₂.adds.grows hid, hfs⟩ hs₂.inStep).bind
    fun ρ₃ _ _ s₃ w₃ _ hs₃ _ => ?_
  have hid₃ := (hs₂.trans hs₃).adds.grows hid
  refine (sim_finalize ρ₃ s₃ w₃ hs₃.valid hid₃ hs₃.inStep).bind fun ρ₄ _ _ s₄ w₄ _ hs₄ _ => ?_
  refine (sim_exit ρ₄ s₄ w₄ hs₄.valid trivial hs₄.inStep).bind fun ρ₅ _ _ s₅ w₅ _ hs₅ _ => ?_
  exact SimFrom.pure id id' hs₅.valid hs₅.inStep ((hs₄.trans hs₅).adds.grows hid₃)

end Steps

/-! ### The walk in step -/

mutual

/-- **A query walked in two places keeps pace with itself.** Walked as a
scope of kind `κ` from one detector and of kind `κ'` from a detector in step
with it, with its conditions taken out on the second side when `b`, the two
walks answer matched scopes, the first one done and read by no output. -/
theorem query_sim {n m : Nat} (b : Bool) (κ κ' : ScopeKind) (α α' : Option String)
    (hκ : κ'.seesEnclosing = κ.seesEnclosing ∨ n = 0) :
    ∀ q, Sim (fun _ _ => True) n m n m (query κ α q) (query κ' α' (q.strip b))
      (fun ρ r r' s => ρ.map r = some r' ∧ s.Answered r)
  | .mk _ ctes body _ => by
    refine Sim.withKeeps ?_ (query_keeps κ α _) fun _ => trivial
    simp only [query, Sql.Query.strip]
    refine Sim.bind sim_pushFrame fun _ _ => Sim.bind (Sim.tryCatch
      (Sim.bind (withClause_sim b ctes) fun _ _ => setExpr_sim b κ κ' α α' hκ body)
      fun e t => ⟨e, _, run_popFrame_throw e t⟩) fun r r' => ?_
    exact Sim.bind ((sim_popFrame.frame (Q := fun ρ => ρ.map r = some r') fun hρ h => hρ h).mono
      (fun h => ⟨trivial, h.1⟩) (fun h => h)) fun _ _ => Sim.pure r r' fun h => h.2

theorem withClause_sim {n m : Nat} (b : Bool) :
    ∀ ctes, Sim (fun _ _ => True) n (m + 1) n (m + 1) (withClause ctes)
      (withClause (Sql.Cte.stripAll b ctes)) (fun _ _ _ _ => True)
  | [] => Sim.pure () () fun _ => trivial
  | .mk a q _ _ :: rest => by
    simp only [withClause, Sql.Cte.stripAll]
    exact Sim.bind (query_sim b .cte .cte _ _ (.inl rfl) q) fun _ _ =>
      Sim.bind ((sim_addCte _).mono (fun h => ⟨h.1, h.2.1⟩) (fun h => h)) fun _ _ =>
        withClause_sim b rest

theorem setExpr_sim {n m : Nat} (b : Bool) (κ κ' : ScopeKind) (α α' : Option String)
    (hκ : κ'.seesEnclosing = κ.seesEnclosing ∨ n = 0) :
    ∀ t, Sim (fun _ _ => True) n m n m (setExpr κ α t) (setExpr κ' α' (t.strip b))
      (fun ρ r r' s => ρ.map r = some r' ∧ s.Answered r)
  | .select sel => by
    simp only [setExpr, Sql.SetExpr.strip]
    exact select_sim b κ κ' α α' hκ sel
  | .query q => by
    simp only [setExpr, Sql.SetExpr.strip]
    exact query_sim b κ κ' α α' hκ q
  | .setOp l _ _ r => by
    refine Sim.withKeeps ?_ (setExpr_keeps κ α _) fun _ => trivial
    simp only [setExpr, Sql.SetExpr.strip]
    intro ρ s w hv _ hst
    refine (sim_enter α α' hκ ρ s w hv trivial hst).bind fun ρ₁ id id' s₁ w₁ _ hs₁ hid => ?_
    refine (setExpr_sim b .setOperand .setOperand none none (.inl rfl) l ρ₁ s₁ w₁ hs₁.valid
      trivial hs₁.inStep).bind fun ρ₂ left left' s₂ w₂ _ hs₂ hleft => ?_
    refine (setExpr_sim b .setOperand .setOperand none none (.inl rfl) r ρ₂ s₂ w₂ hs₂.valid
      trivial hs₂.inStep).bind fun ρ₃ right right' s₃ w₃ hx₃ hs₃ hright => ?_
    -- the left operand stays done while the right one is walked
    have hdone : s₃.arena.Done left :=
      (setExpr_keeps .setOperand none r s₂ right s₃ hs₂.valid trivial hx₃).2.1.1.done hleft.2.1
    have hops : ∀ {k}, k ∈ [left, right] → s₃.arena.Done k := by
      intro k hk
      rcases List.mem_pair.mp hk with rfl | rfl
      · exact hdone
      · exact hright.2.1
    refine SimFrom.get_bind ?_
    refine (sim_setOperands ρ₃ s₃ w₃ hs₃.valid ⟨(hs₂.trans hs₃).adds.grows hid,
      hs₃.adds.grows hleft.1, hright.1,
      setOutputs_rel hs₃.inStep.scopes (hs₃.adds.grows hleft.1) hright.1,
      fun _ hk => hops (setOutputs_reads hk), hdone, hright.2.1⟩ hs₃.inStep).bind
        fun ρ₄ _ _ s₄ w₄ _ hs₄ _ => ?_
    refine (sim_exit ρ₄ s₄ w₄ hs₄.valid trivial hs₄.inStep).bind fun ρ₅ _ _ s₅ w₅ _ hs₅ _ => ?_
    exact SimFrom.pure id id' hs₅.valid hs₅.inStep ((hs₂.trans (hs₃.trans (hs₄.trans hs₅))).adds.grows hid)
  | .values _ [] => by
    refine Sim.withKeeps ?_ (setExpr_keeps κ α _) fun _ => trivial
    simp only [setExpr, Sql.SetExpr.strip, Sql.Expr.stripRows]
    exact sim_values α α' hκ (Sim.pure [] [] fun _ => ⟨.nil, Detector.ReadsDone.nil _⟩)
  | .values _ (row :: _) => by
    refine Sim.withKeeps ?_ (setExpr_keeps κ α _) fun _ => trivial
    simp only [setExpr, Sql.SetExpr.strip, Sql.Expr.stripRows]
    exact sim_values α α' hκ
      ((rowFields_sim b 1 row).withKeeps (rowFields_keeps 1 row) fun _ => trivial)
  | .insert .. => by
    simp only [setExpr, Sql.SetExpr.strip]
    exact Sim.throw _
  | .other _ => by
    simp only [setExpr, Sql.SetExpr.strip]
    exact Sim.throw _

theorem select_sim {n m : Nat} (b : Bool) (κ κ' : ScopeKind) (α α' : Option String)
    (hκ : κ'.seesEnclosing = κ.seesEnclosing ∨ n = 0) :
    ∀ sel, Sim (fun _ _ => True) n m n m (select κ α sel) (select κ' α' (sel.strip b))
      (fun ρ r r' s => ρ.map r = some r' ∧ s.Answered r)
  | .mk _ projection _ from_ _ selection _ having _ => by
    refine Sim.withKeeps ?_ (select_keeps κ α _) fun _ => trivial
    simp only [select, Sql.Select.strip]
    intro ρ s w hv _ hst
    refine (sim_enter α α' hκ ρ s w hv trivial hst).bind fun ρ₁ id id' s₁ w₁ _ hs₁ hid => ?_
    refine (fromClause_sim b from_ ρ₁ s₁ w₁ hs₁.valid trivial hs₁.inStep).bind
      fun ρ₂ _ _ s₂ w₂ _ hs₂ _ => ?_
    refine ((selectItems_sim b projection).withKeeps (selectItems_keeps projection) fun _ => trivial)
      ρ₂ s₂ w₂ hs₂.valid trivial hs₂.inStep |>.bind fun ρ₃ fs fs' s₃ w₃ _ hs₃ hfs => ?_
    have hid₃ := (hs₂.trans hs₃).adds.grows hid
    refine (sim_setFields ρ₃ s₃ w₃ hs₃.valid ⟨hid₃, hfs⟩ hs₃.inStep).bind
      fun ρ₄ _ _ s₄ w₄ _ hs₄ _ => ?_
    refine (Sim.predicate (P := fun _ _ => True) b (walkOpt_sim false .predicate selection) ρ₄ s₄ w₄
      hs₄.valid trivial hs₄.inStep).bind fun ρ₅ _ _ s₅ w₅ _ hs₅ _ => ?_
    refine (Sim.predicate (P := fun _ _ => True) b (walkOpt_sim false .predicate having) ρ₅ s₅ w₅
      hs₅.valid trivial hs₅.inStep).bind fun ρ₆ _ _ s₆ w₆ _ hs₆ _ => ?_
    have hid₆ := (hs₄.trans (hs₅.trans hs₆)).adds.grows hid₃
    refine (sim_finalize ρ₆ s₆ w₆ hs₆.valid hid₆ hs₆.inStep).bind fun ρ₇ _ _ s₇ w₇ _ hs₇ _ => ?_
    refine (sim_exit ρ₇ s₇ w₇ hs₇.valid trivial hs₇.inStep).bind fun ρ₈ _ _ s₈ w₈ _ hs₈ _ => ?_
    exact SimFrom.pure id id' hs₈.valid hs₈.inStep ((hs₇.trans hs₈).adds.grows hid₆)

theorem selectItems_sim {n m : Nat} (b : Bool) :
    ∀ items, Sim (fun _ _ => True) (n + 1) m (n + 1) m (selectItems items)
      (selectItems (Sql.SelectItem.stripAll b items)) (fun ρ fs fs' _ => List.Forall₂ (FieldRel ρ) fs fs')
  | [] => Sim.pure [] [] fun _ => .nil
  | item :: rest => by
    simp only [selectItems, Sql.SelectItem.stripAll]
    exact Sim.bind (selectItem_sim b item) fun fs fs' =>
      Sim.bind (((selectItems_sim b rest).frame (Q := fun ρ => List.Forall₂ (FieldRel ρ) fs fs')
        fun hρ h => h.imp fun _ _ hf => hf.mono hρ).mono (fun h => ⟨trivial, h⟩) (fun h => h))
        fun _ _ => Sim.pure _ _ fun h => List.rel_append h.2 h.1

theorem selectItem_sim {n m : Nat} (b : Bool) :
    ∀ item, Sim (fun _ _ => True) (n + 1) m (n + 1) m (selectItem item)
      (selectItem (item.strip b)) (fun ρ fs fs' _ => List.Forall₂ (FieldRel ρ) fs fs')
  | .expr e none => by
    -- an item without an alias stays as written: its text names its output
    show Sim _ _ _ _ _ (selectItem (.expr e none)) (selectItem (.expr e none)) _
    simp only [selectItem]
    split
    · rename_i ref href
      exact Sim.pure _ _ fun _ =>
        .cons ⟨rfl, ⟨rfl, rfl, rfl, by rw [columnRef_origin href]; rfl⟩, rfl⟩ .nil
    · have hw := walk_sim (n := n + 1) (m := m) false .value e
      rw [Sql.Expr.strip_false] at hw
      exact Sim.bind hw.fresh fun _ _ => Sim.pure _ _ fun h => .cons (h.exprField _ rfl) .nil
  | .expr e (some a) => by
    simp only [Sql.SelectItem.strip, selectItem_of_alias]
    exact Sim.bind (walk_sim b .value e).fresh
      fun _ _ => Sim.pure _ _ fun h => .cons (h.exprField _ (Sql.Expr.classify_strip b e)) .nil
  | .wildcard none _ => by
    show Sim _ _ _ _ _ (selectItem (.wildcard none _)) (selectItem (.wildcard none _)) _
    simp only [selectItem]
    exact (sim_expandWildcard none).mono (fun _ => trivial) (fun h => h.1)
  | .wildcard (some name) _ => by
    show Sim _ _ _ _ _ (selectItem (.wildcard (some name) _)) (selectItem (.wildcard (some name) _)) _
    simp only [selectItem]
    split
    · exact (sim_expandWildcard _).mono (fun _ => trivial) (fun h => h.1)
    · exact Sim.throw _

theorem rowFields_sim {n m : Nat} (b : Bool) (k : Nat) :
    ∀ row, Sim (fun _ _ => True) n m n m (rowFields k row) (rowFields k (Sql.Expr.stripList b row))
      (fun ρ fs fs' _ => List.Forall₂ (FieldRel ρ) fs fs')
  | [] => Sim.pure [] [] fun _ => .nil
  | e :: rest => by
    simp only [rowFields, Sql.Expr.stripList]
    refine Sim.bind (walk_sim b .value e).fresh fun inputs inputs' => ?_
    exact Sim.bind (((rowFields_sim b (k + 1) rest).frame
      (Q := fun ρ => FieldRel ρ (exprField ("column" ++ toString k) e inputs)
        (exprField ("column" ++ toString k) (e.strip b) inputs')) fun hρ h => h.mono hρ).mono
      (fun h => ⟨trivial, h.exprField _ (Sql.Expr.classify_strip b e)⟩) (fun h => h))
      fun _ _ => Sim.pure _ _ fun h => .cons h.2 h.1

theorem fromClause_sim {n m : Nat} (b : Bool) :
    ∀ ts, Sim (fun _ _ => True) (n + 1) m (n + 1) m (fromClause ts)
      (fromClause (Sql.TableWithJoins.stripAll b ts)) (fun _ _ _ _ => True)
  | [] => Sim.pure () () fun _ => trivial
  | t :: rest => by
    simp only [fromClause, Sql.TableWithJoins.stripAll]
    exact Sim.bind (tableWithJoins_sim b t) fun _ _ => fromClause_sim b rest

theorem tableWithJoins_sim {n m : Nat} (b : Bool) :
    ∀ t, Sim (fun _ _ => True) (n + 1) m (n + 1) m (tableWithJoins t)
      (tableWithJoins (t.strip b)) (fun _ _ _ _ => True)
  | .mk relation js => by
    simp only [tableWithJoins, Sql.TableWithJoins.strip]
    exact Sim.bind (factor_sim b relation) fun _ _ => joins_sim b js

theorem joins_sim {n m : Nat} (b : Bool) :
    ∀ js, Sim (fun _ _ => True) (n + 1) m (n + 1) m (joins js) (joins (Sql.Join.stripAll b js))
      (fun _ _ _ _ => True)
  | [] => Sim.pure () () fun _ => trivial
  | .mk _ kind relation on c :: rest => by
    simp only [joins, Sql.Join.stripAll]
    refine Sim.bind (factor_sim b relation) fun _ _ => ?_
    -- the condition of an inner or outer join, or its USING columns
    split
    · split
      · exact Sim.bind (Sim.predicate b (walkOpt_sim false .predicate on)) fun _ _ =>
          joins_sim b rest
      · exact Sim.bind (sim_addUsing _) fun _ _ => joins_sim b rest
      · exact joins_sim b rest
    · exact joins_sim b rest

theorem factor_sim {n m : Nat} (b : Bool) :
    ∀ t, Sim (fun _ _ => True) (n + 1) m (n + 1) m (factor t) (factor (t.strip b))
      (fun _ _ _ _ => True)
  | .table name _ aliasName _ => by
    simp only [factor, Sql.TableFactor.strip]
    split
    · rename_i t _
      refine Sim.bind (sim_lookupCte t) fun r r' => ?_
      -- a WITH name in reach on one side is in reach on the other
      intro ρ s w hv hP hst
      obtain ⟨hrel, hdone⟩ := hP
      cases hrel with
      | none =>
        simp only [pure_bind]
        exact sim_bindTarget _ ρ s w hv ⟨rfl, fun hk => by cases hk⟩ hst
      | some hk =>
        simp only [pure_bind]
        exact sim_bindTarget _ ρ s w hv ⟨hk, fun he => by cases he; exact hdone rfl⟩ hst
    · exact Sim.throw _
  | .derived _ q aliasName => by
    simp only [factor, Sql.TableFactor.strip]
    exact Sim.bind (query_sim b .derived .derived _ _ (.inl rfl) q) fun _ _ =>
      (sim_bindTarget _).mono (fun h => ⟨h.1, fun hk => by cases hk; exact h.2.1⟩) (fun h => h)
  | .nestedJoin inner _ => by
    simp only [factor, Sql.TableFactor.strip]
    exact tableWithJoins_sim b inner
  | .other _ => by
    simp only [factor, Sql.TableFactor.strip]
    exact sim_log _ _

theorem walk_sim {n m : Nat} (b : Bool) (mode : WalkMode) :
    ∀ e, WalkSim n m (walk mode e) (walk mode (e.strip b))
  | .identifier i => fun acc acc' => by
    simp only [Sql.Expr.strip, walk_identifier]
    split
    · exact Sim.pure _ _ fun h => h.addColumn _ rfl
    · exact Sim.pure _ _ fun h => h
  | .compound parts => fun acc acc' => by
    simp only [Sql.Expr.strip, walk_compound]
    split
    · split
      · rename_i ref href
        exact Sim.pure _ _ fun h => h.addColumn _ (columnRef_origin href)
      · exact Sim.pure _ _ fun h => h
    · exact Sim.pure _ _ fun h => h
  | .isTest e _ => walk_sim b mode e
  | .isDistinctFrom x _ y => (walk_sim b mode x).comp (walk_sim b mode y)
  | .inList e list _ => (walk_sim b mode e).comp (walkList_sim b mode list)
  | .inSubquery e q _ =>
    WalkSim.after (query_sim b .predicate .predicate none none (.inl rfl) q) (walk_sim b mode e)
  | .inUnnest e arr _ => (walk_sim b mode e).comp (walk_sim b mode arr)
  | .between e _ lo hi => (walk_sim b mode e).comp ((walk_sim b mode lo).comp (walk_sim b mode hi))
  | .binary l _ r => (walk_sim b mode l).comp (walk_sim b mode r)
  | .like _ _ _ e p _ => (walk_sim b mode e).comp (walk_sim b mode p)
  | .rlike _ e p _ => (walk_sim b mode e).comp (walk_sim b mode p)
  | .quantified l _ _ r => (walk_sim b mode l).comp (walk_sim b mode r)
  | .unary _ e => walk_sim b mode e
  | .postOp e _ => walk_sim b mode e
  | .cast _ e _ _ => walk_sim b mode e
  | .atTimeZone t z => (walk_sim b mode t).comp (walk_sim b mode z)
  | .extract _ _ e => walk_sim b mode e
  | .ceilFloor _ e _ _ => walk_sim b mode e
  | .position e i => (walk_sim b mode e).comp (walk_sim b mode i)
  | .substring e f fo _ =>
    (walk_sim b mode e).comp ((walkOpt_sim b mode f).comp (walkOpt_sim b mode fo))
  | .trim e _ what chars =>
    (walk_sim b mode e).comp ((walkOpt_sim b mode what).comp (walkList_sim b mode chars))
  | .overlay e w f fo =>
    (walk_sim b mode e).comp ((walk_sim b mode w).comp
      ((walk_sim b mode f).comp (walkOpt_sim b mode fo)))
  | .collate e _ => walk_sim b mode e
  | .nested e => walk_sim b mode e
  | .tuple items => walkList_sim b mode items
  | .array items _ => walkList_sim b mode items
  | .interval v _ => walk_sim b mode v
  | .function _ params args filter _ window withinGroup _ =>
    (walkArgs_sim b mode params).comp ((walkArgs_sim b mode args).comp
      ((walkOpt_sim b mode filter).comp ((walkWindow_sim b mode window).comp
        (walkOrder_sim b mode withinGroup))))
  | .namedArg _ _ e => walk_sim b mode e
  | .exprNamedArg name _ e => (walk_sim b mode name).comp (walk_sim b mode e)
  | .matchAgainst .. => WalkSim.pure
  | .case operand conds results otherwise =>
    (walkOpt_sim b mode operand).comp ((walkList_sim b mode conds).comp
      ((walkList_sim b mode results).comp (walkOpt_sim b mode otherwise)))
  | .exists q _ => WalkSim.after (query_sim b .predicate .predicate none none (.inl rfl) q) WalkSim.pure
  | .subquery q => fun acc acc' => by
    cases mode
    · -- a scalar subquery is an input: the scope it answers is new, so it is
      -- added on both sides, whatever the texts of the two subqueries
      intro ρ s w hv hacc hst
      refine (query_sim b .scalar .scalar none none (.inl rfl) q ρ s w hv trivial hst).bind
        fun ρ₁ r r' s₁ w₁ hx hs₁ hr => ?_
      have hfresh : ∀ {n i p}, Field.scalar n i p ∈ acc → i ≠ r := fun hi =>
        Nat.ne_of_lt (Nat.lt_of_lt_of_le (hacc.scalar_lt hst.scopes hi)
          (query_answers_new .scalar none q hv hx))
      exact SimFrom.pure _ _ hs₁.valid hs₁.inStep
        ((hacc.mono hs₁.adds.grows).addScalar hr.1 hfresh _ _ _)
    · exact WalkSim.after (query_sim b .predicate .predicate none none (.inl rfl) q) WalkSim.pure
        acc acc'
  | .access root chain => (walk_sim b mode root).comp (walkAccess_sim b mode chain)
  | .pathAccess e path => (walk_sim b mode e).comp (walkPath_sim b mode path)
  | .composite e _ => walk_sim b mode e
  | .wildcard => WalkSim.pure
  | .qualifiedWildcard _ => WalkSim.pure
  | .introduced .. => WalkSim.pure
  | .convert _ e _ _ _ styles => (walk_sim b mode e).comp (walkList_sim b mode styles)
  | .structLiteral _ values => walkList_sim b mode values
  | .named e _ => walk_sim b mode e
  | .dictionary _ values => walkList_sim b mode values
  | .mapLiteral entries => walkEntries_sim b mode entries
  | .prior e => walk_sim b mode e
  | .lambda _ _ body => walk_sim b mode body
  | .outerJoin e => walk_sim b mode e
  | .method e calls => (walk_sim b mode e).comp (walkList_sim b mode calls)
  | .value _ => WalkSim.pure
  | .typedString .. => WalkSim.pure

theorem walkList_sim {n m : Nat} (b : Bool) (mode : WalkMode) :
    ∀ es, WalkSim n m (walkList mode es) (walkList mode (Sql.Expr.stripList b es))
  | [] => WalkSim.pure
  | e :: rest => (walk_sim b mode e).comp (walkList_sim b mode rest)

theorem walkAccess_sim {n m : Nat} (b : Bool) (mode : WalkMode) :
    ∀ chain, WalkSim n m (walkAccess mode chain) (walkAccess mode (Sql.Access.stripAll b chain))
  | [] => WalkSim.pure
  | .field e :: rest => (walk_sim b mode e).comp (walkAccess_sim b mode rest)
  | .index e :: rest => (walk_sim b mode e).comp (walkAccess_sim b mode rest)
  | .slice lower upper stride :: rest =>
    (walkOpt_sim b mode lower).comp ((walkOpt_sim b mode upper).comp
      ((walkOpt_sim b mode stride).comp (walkAccess_sim b mode rest)))

theorem walkClauses_sim {n m : Nat} (b : Bool) (mode : WalkMode) :
    ∀ clauses, WalkSim n m (walkClauses mode clauses)
      (walkClauses mode (Sql.ArgClause.stripAll b clauses))
  | [] => WalkSim.pure
  | .mk _ e _ :: rest => (walkOpt_sim b mode e).comp (walkClauses_sim b mode rest)

theorem walkEntries_sim {n m : Nat} (b : Bool) (mode : WalkMode) :
    ∀ entries, WalkSim n m (walkEntries mode entries)
      (walkEntries mode (Sql.MapEntry.stripAll b entries))
  | [] => WalkSim.pure
  | .mk key v :: rest =>
    (walk_sim b mode key).comp ((walk_sim b mode v).comp (walkEntries_sim b mode rest))

theorem walkPath_sim {n m : Nat} (b : Bool) (mode : WalkMode) :
    ∀ path, WalkSim n m (walkPath mode path) (walkPath mode (Sql.PathStep.stripAll b path))
  | [] => WalkSim.pure
  | .key _ _ :: rest => walkPath_sim b mode rest
  | .bracket e :: rest => (walk_sim b mode e).comp (walkPath_sim b mode rest)

theorem walkOpt_sim {n m : Nat} (b : Bool) (mode : WalkMode) :
    ∀ e, WalkSim n m (walkOpt mode e) (walkOpt mode (Sql.Expr.stripOpt b e))
  | none => WalkSim.pure
  | some e => walk_sim b mode e

theorem walkArgs_sim {n m : Nat} (b : Bool) (mode : WalkMode) :
    ∀ args, WalkSim n m (walkArgs mode args) (walkArgs mode (args.strip b))
  | .list _ args _ orderBy limit clauses =>
    (walkList_sim b mode args).comp ((walkOrder_sim b mode orderBy).comp
      ((walkOpt_sim b mode limit).comp (walkClauses_sim b mode clauses)))
  | .none => WalkSim.pure
  | .subquery _ => WalkSim.pure

theorem walkOrder_sim {n m : Nat} (b : Bool) (mode : WalkMode) :
    ∀ items, WalkSim n m (walkOrder mode items) (walkOrder mode (Sql.OrderItem.stripAll b items))
  | [] => WalkSim.pure
  | .mk e _ _ fill :: rest =>
    (walk_sim b mode e).comp ((walkFill_sim b mode fill).comp (walkOrder_sim b mode rest))

theorem walkFill_sim {n m : Nat} (b : Bool) (mode : WalkMode) :
    ∀ fill, WalkSim n m (walkFill mode fill) (walkFill mode (Sql.Fill.stripOpt b fill))
  | some (.mk start stop step) =>
    (walkOpt_sim b mode start).comp ((walkOpt_sim b mode stop).comp (walkOpt_sim b mode step))
  | none => WalkSim.pure

theorem walkWindow_sim {n m : Nat} (b : Bool) (mode : WalkMode) :
    ∀ window, WalkSim n m (walkWindow mode window) (walkWindow mode (Sql.Window.stripOpt b window))
  | some (.spec _ partitionBy orderBy _ _ startExpr _ endExpr) =>
    (walkList_sim b mode partitionBy).comp ((walkOrder_sim b mode orderBy).comp
      ((walkOpt_sim b mode startExpr).comp (walkOpt_sim b mode endExpr)))
  | some (.named _) => WalkSim.pure
  | none => WalkSim.pure

end

end ColumnLineage
