import ColumnLineage.Proofs.Wrapping
/-
ColumnLineage/Proofs/TableWildcard.lean

`SELECT *` over named tables. A FROM clause made only of named tables, joined
by conditions without subqueries (`Sql.PlainFrom`), binds each table in turn
in the scope of the SELECT and does nothing else: a condition without a
subquery is walked for its subqueries only, so its walk changes nothing
(`walk_pure`), and a USING list only records its columns. The wildcard then
expands binding by binding: a table the catalog knows gives one column per
column it lists, read from the table; one it does not know stays a wildcard,
with a warning. Those columns are placed already, so completing the scope
keeps them, and each is followed to its sources in one step, without
touching the table of found names.

Main statement (`star_over_tables_lineage`): for every catalog, every limit
of at least one and every such FROM clause, `SELECT * FROM ...` is analysed
without error, its lineage is, table after table in the order of the FROM
clause, the columns of each known table read from that table and one
unexpanded wildcard for each unknown table, and its warnings are one per
unknown table, in the same order.
-/

namespace ColumnLineage

open Run Detect Resolve

namespace Sql

/-! ### Expressions without subqueries -/

namespace NoSubquery

mutual

/-- Whether an expression holds no subquery: no scalar, `EXISTS` or `IN`
subquery, and no query as the arguments of a call. -/
def expr : Expr → Bool
  | .identifier _ | .compound _ | .value _ | .typedString _ _ | .wildcard | .qualifiedWildcard _
  | .introduced _ _ | .matchAgainst _ _ _ => true
  | .isTest e _ | .unary _ e | .postOp e _ | .cast _ e _ _ | .extract _ _ e | .collate e _
  | .nested e | .interval e _ | .namedArg _ _ e | .prior e | .composite e _ | .lambda _ _ e
  | .outerJoin e | .named e _ => expr e
  | .isDistinctFrom a _ b | .inUnnest a b _ | .binary a _ b | .like _ _ _ a b _ | .rlike _ a b _
  | .quantified a _ _ b | .atTimeZone a b | .position a b | .exprNamedArg a _ b =>
    expr a && expr b
  | .inList e list _ => expr e && exprs list
  | .inSubquery _ _ _ | .exists _ _ | .subquery _ => false
  | .between e _ lo hi => expr e && expr lo && expr hi
  | .ceilFloor _ e scale _ => expr e && opt scale
  | .substring e f fo _ => expr e && opt f && opt fo
  | .trim e _ what chars => expr e && opt what && exprs chars
  | .overlay e w f fo => expr e && expr w && expr f && opt fo
  | .tuple items | .array items _ | .structLiteral _ items | .dictionary _ items => exprs items
  | .function _ params args filter _ window withinGroup _ =>
    callArgs params && callArgs args && opt filter && windowSpec window && order withinGroup
  | .case operand conds results otherwise =>
    opt operand && exprs conds && exprs results && opt otherwise
  | .access root chain => expr root && access chain
  | .pathAccess e path => expr e && pathSteps path
  | .convert _ e _ _ _ styles => expr e && exprs styles
  | .mapLiteral entries => mapEntries entries
  | .method e calls => expr e && exprs calls

def exprs : List Expr → Bool
  | [] => true
  | e :: rest => expr e && exprs rest

def access : List Access → Bool
  | [] => true
  | .field e :: rest | .index e :: rest => expr e && access rest
  | .slice lower upper stride :: rest => opt lower && opt upper && opt stride && access rest

def clauses : List ArgClause → Bool
  | [] => true
  | .mk _ e _ :: rest => opt e && clauses rest

def mapEntries : List MapEntry → Bool
  | [] => true
  | .mk key v :: rest => expr key && expr v && mapEntries rest

def pathSteps : List PathStep → Bool
  | [] => true
  | .key _ _ :: rest => pathSteps rest
  | .bracket e :: rest => expr e && pathSteps rest

def opt : Option Expr → Bool
  | some e => expr e
  | none => true

def callArgs : FunctionArgs → Bool
  | .none => true
  | .subquery _ => false
  | .list _ args _ orderBy limit cls => exprs args && order orderBy && opt limit && clauses cls

def order : List OrderItem → Bool
  | [] => true
  | .mk e _ _ fill :: rest => expr e && withFill fill && order rest

def withFill : Option Fill → Bool
  | some (.mk start stop step) => opt start && opt stop && opt step
  | none => true

def windowSpec : Option Window → Bool
  | some (.spec _ partitionBy orderBy _ _ startExpr _ endExpr) =>
    exprs partitionBy && order orderBy && opt startExpr && opt endExpr
  | some (.named _) | none => true

end

end NoSubquery

end Sql

/-! ### Conditions without subqueries change nothing -/

/-- An expression walk that answers the inputs it is given and changes
nothing. -/
def WalkPure (x : List Field → Detect (List Field)) : Prop :=
  ∀ acc d, (x acc).run.run d = (.ok acc, d)

theorem WalkPure.pure : WalkPure (fun acc => pure acc) := fun _ _ => rfl

theorem WalkPure.comp {x y : List Field → Detect (List Field)} (hx : WalkPure x)
    (hy : WalkPure y) : WalkPure (fun acc => x acc >>= y) := fun acc d => by
  rw [run_bind_of_ok (hx acc d)]
  exact hy acc d

open Sql.NoSubquery in
mutual

/-- A condition without subqueries is walked for nothing: it opens no scope
and collects no input. -/
theorem walk_pure : ∀ e, expr e = true → WalkPure (walk .predicate e)
  | .identifier _, _ => fun _ _ => rfl
  | .compound _, _ => fun _ _ => rfl
  | .value _, _ => WalkPure.pure
  | .typedString .., _ => WalkPure.pure
  | .wildcard, _ => WalkPure.pure
  | .qualifiedWildcard _, _ => WalkPure.pure
  | .introduced .., _ => WalkPure.pure
  | .matchAgainst .., _ => WalkPure.pure
  | .isTest e _, h => walk_pure e h
  | .unary _ e, h => walk_pure e h
  | .postOp e _, h => walk_pure e h
  | .cast _ e _ _, h => walk_pure e h
  | .extract _ _ e, h => walk_pure e h
  | .collate e _, h => walk_pure e h
  | .nested e, h => walk_pure e h
  | .interval e _, h => walk_pure e h
  | .namedArg _ _ e, h => walk_pure e h
  | .prior e, h => walk_pure e h
  | .composite e _, h => walk_pure e h
  | .lambda _ _ e, h => walk_pure e h
  | .outerJoin e, h => walk_pure e h
  | .named e _, h => walk_pure e h
  | .ceilFloor _ e _ _, h => by
    -- the test of a compound expression is read off `h` by unfolding it in place:
    -- rewriting with the equations of `expr` would first prove them all
    change (_ && _) = true at h
    simp only [Bool.and_eq_true] at h
    exact walk_pure e h.1
  | .isDistinctFrom a _ b, h => by
    change (_ && _) = true at h
    simp only [Bool.and_eq_true] at h
    exact (walk_pure a h.1).comp (walk_pure b h.2)
  | .inUnnest a b _, h => by
    change (_ && _) = true at h
    simp only [Bool.and_eq_true] at h
    exact (walk_pure a h.1).comp (walk_pure b h.2)
  | .binary a _ b, h => by
    change (_ && _) = true at h
    simp only [Bool.and_eq_true] at h
    exact (walk_pure a h.1).comp (walk_pure b h.2)
  | .like _ _ _ a b _, h => by
    change (_ && _) = true at h
    simp only [Bool.and_eq_true] at h
    exact (walk_pure a h.1).comp (walk_pure b h.2)
  | .rlike _ a b _, h => by
    change (_ && _) = true at h
    simp only [Bool.and_eq_true] at h
    exact (walk_pure a h.1).comp (walk_pure b h.2)
  | .quantified a _ _ b, h => by
    change (_ && _) = true at h
    simp only [Bool.and_eq_true] at h
    exact (walk_pure a h.1).comp (walk_pure b h.2)
  | .atTimeZone a b, h => by
    change (_ && _) = true at h
    simp only [Bool.and_eq_true] at h
    exact (walk_pure a h.1).comp (walk_pure b h.2)
  | .position a b, h => by
    change (_ && _) = true at h
    simp only [Bool.and_eq_true] at h
    exact (walk_pure a h.1).comp (walk_pure b h.2)
  | .exprNamedArg a _ b, h => by
    change (_ && _) = true at h
    simp only [Bool.and_eq_true] at h
    exact (walk_pure a h.1).comp (walk_pure b h.2)
  | .inList e list _, h => by
    change (_ && _) = true at h
    simp only [Bool.and_eq_true] at h
    exact (walk_pure e h.1).comp (walkList_pure list h.2)
  | .inSubquery .., h | .exists .., h | .subquery _, h => by cases h
  | .between e _ lo hi, h => by
    change (_ && _) = true at h
    simp only [Bool.and_eq_true] at h
    exact (walk_pure e h.1.1).comp ((walk_pure lo h.1.2).comp (walk_pure hi h.2))
  | .substring e f fo _, h => by
    change (_ && _) = true at h
    simp only [Bool.and_eq_true] at h
    exact (walk_pure e h.1.1).comp ((walkOpt_pure f h.1.2).comp (walkOpt_pure fo h.2))
  | .trim e _ what chars, h => by
    change (_ && _) = true at h
    simp only [Bool.and_eq_true] at h
    exact (walk_pure e h.1.1).comp ((walkOpt_pure what h.1.2).comp (walkList_pure chars h.2))
  | .overlay e w f fo, h => by
    change (_ && _) = true at h
    simp only [Bool.and_eq_true] at h
    exact (walk_pure e h.1.1.1).comp ((walk_pure w h.1.1.2).comp
      ((walk_pure f h.1.2).comp (walkOpt_pure fo h.2)))
  | .tuple items, h => walkList_pure items h
  | .array items _, h => walkList_pure items h
  | .structLiteral _ items, h => walkList_pure items h
  | .dictionary _ items, h => walkList_pure items h
  | .function _ params args filter _ window withinGroup _, h => by
    change (_ && _) = true at h
    simp only [Bool.and_eq_true] at h
    exact (walkArgs_pure params h.1.1.1.1).comp ((walkArgs_pure args h.1.1.1.2).comp
      ((walkOpt_pure filter h.1.1.2).comp ((walkWindow_pure window h.1.2).comp
        (walkOrder_pure withinGroup h.2))))
  | .case operand conds results otherwise, h => by
    change (_ && _) = true at h
    simp only [Bool.and_eq_true] at h
    exact (walkOpt_pure operand h.1.1.1).comp ((walkList_pure conds h.1.1.2).comp
      ((walkList_pure results h.1.2).comp (walkOpt_pure otherwise h.2)))
  | .access root chain, h => by
    change (_ && _) = true at h
    simp only [Bool.and_eq_true] at h
    exact (walk_pure root h.1).comp (walkAccess_pure chain h.2)
  | .pathAccess e path, h => by
    change (_ && _) = true at h
    simp only [Bool.and_eq_true] at h
    exact (walk_pure e h.1).comp (walkPath_pure path h.2)
  | .convert _ e _ _ _ styles, h => by
    change (_ && _) = true at h
    simp only [Bool.and_eq_true] at h
    exact (walk_pure e h.1).comp (walkList_pure styles h.2)
  | .mapLiteral entries, h => by
    exact walkEntries_pure entries h
  | .method e calls, h => by
    change (_ && _) = true at h
    simp only [Bool.and_eq_true] at h
    exact (walk_pure e h.1).comp (walkList_pure calls h.2)

theorem walkList_pure : ∀ es, exprs es = true → WalkPure (walkList .predicate es)
  | [], _ => WalkPure.pure
  | e :: rest, h => by
    change (_ && _) = true at h
    simp only [Bool.and_eq_true] at h
    exact (walk_pure e h.1).comp (walkList_pure rest h.2)

theorem walkAccess_pure : ∀ chain, access chain = true → WalkPure (walkAccess .predicate chain)
  | [], _ => WalkPure.pure
  | .field e :: rest, h => by
    change (_ && _) = true at h
    simp only [Bool.and_eq_true] at h
    exact (walk_pure e h.1).comp (walkAccess_pure rest h.2)
  | .index e :: rest, h => by
    change (_ && _) = true at h
    simp only [Bool.and_eq_true] at h
    exact (walk_pure e h.1).comp (walkAccess_pure rest h.2)
  | .slice lower upper stride :: rest, h => by
    change (_ && _) = true at h
    simp only [Bool.and_eq_true] at h
    exact (walkOpt_pure lower h.1.1.1).comp ((walkOpt_pure upper h.1.1.2).comp
      ((walkOpt_pure stride h.1.2).comp (walkAccess_pure rest h.2)))

theorem walkClauses_pure : ∀ cls, clauses cls = true → WalkPure (walkClauses .predicate cls)
  | [], _ => WalkPure.pure
  | .mk _ e _ :: rest, h => by
    change (_ && _) = true at h
    simp only [Bool.and_eq_true] at h
    exact (walkOpt_pure e h.1).comp (walkClauses_pure rest h.2)

theorem walkEntries_pure : ∀ entries, mapEntries entries = true →
    WalkPure (walkEntries .predicate entries)
  | [], _ => WalkPure.pure
  | .mk key v :: rest, h => by
    change (_ && _) = true at h
    simp only [Bool.and_eq_true] at h
    exact (walk_pure key h.1.1).comp ((walk_pure v h.1.2).comp (walkEntries_pure rest h.2))

theorem walkPath_pure : ∀ path, pathSteps path = true → WalkPure (walkPath .predicate path)
  | [], _ => WalkPure.pure
  | .key _ _ :: rest, h => by
    exact walkPath_pure rest h
  | .bracket e :: rest, h => by
    change (_ && _) = true at h
    simp only [Bool.and_eq_true] at h
    exact (walk_pure e h.1).comp (walkPath_pure rest h.2)

theorem walkOpt_pure : ∀ e, opt e = true → WalkPure (walkOpt .predicate e)
  | none, _ => WalkPure.pure
  | some e, h => walk_pure e h

theorem walkArgs_pure : ∀ args, callArgs args = true → WalkPure (walkArgs .predicate args)
  | .list _ args _ orderBy limit cls, h => by
    change (_ && _) = true at h
    simp only [Bool.and_eq_true] at h
    exact (walkList_pure args h.1.1.1).comp ((walkOrder_pure orderBy h.1.1.2).comp
      ((walkOpt_pure limit h.1.2).comp (walkClauses_pure cls h.2)))
  | .none, _ => WalkPure.pure
  | .subquery _, h => by cases h

theorem walkOrder_pure : ∀ items, order items = true → WalkPure (walkOrder .predicate items)
  | [], _ => WalkPure.pure
  | .mk e _ _ fill :: rest, h => by
    change (_ && _) = true at h
    simp only [Bool.and_eq_true] at h
    exact (walk_pure e h.1.1).comp ((walkFill_pure fill h.1.2).comp (walkOrder_pure rest h.2))

theorem walkFill_pure : ∀ fill, withFill fill = true → WalkPure (walkFill .predicate fill)
  | some (.mk start stop step), h => by
    change (_ && _) = true at h
    simp only [Bool.and_eq_true] at h
    exact (walkOpt_pure start h.1.1).comp ((walkOpt_pure stop h.1.2).comp (walkOpt_pure step h.2))
  | none, _ => WalkPure.pure

theorem walkWindow_pure : ∀ window, windowSpec window = true →
    WalkPure (walkWindow .predicate window)
  | some (.spec _ partitionBy orderBy _ _ startExpr _ endExpr), h => by
    change (_ && _) = true at h
    simp only [Bool.and_eq_true] at h
    exact (walkList_pure partitionBy h.1.1.1).comp ((walkOrder_pure orderBy h.1.1.2).comp
      ((walkOpt_pure startExpr h.1.2).comp (walkOpt_pure endExpr h.2)))
  | some (.named _), _ => WalkPure.pure
  | none, _ => WalkPure.pure

end

/-! ### FROM clauses of named tables -/

namespace Sql

/-- Joins of named tables whose ON conditions hold no subquery, and the
tables they name, in order. -/
inductive PlainJoins : List Join → List TableName → Prop
  | nil : PlainJoins [] []
  | cons {g : Bool} {kind : JoinKind} {name : ObjectName} {before after : String}
      {aliasName : Option TableAlias} {on : Option Expr} {c : Constraint} {rest : List Join}
      {t : TableName} {ts : List TableName} :
      TableName.ofParts name = some t → NoSubquery.opt on = true → PlainJoins rest ts →
      PlainJoins (.mk g kind (.table name before aliasName after) on c :: rest) (t :: ts)

/-- A FROM clause made only of named tables, joined by conditions without
subqueries, and the tables it names, in order. -/
inductive PlainFrom : List TableWithJoins → List TableName → Prop
  | nil : PlainFrom [] []
  | cons {name : ObjectName} {before after : String} {aliasName : Option TableAlias}
      {js : List Join} {rest : List TableWithJoins} {t : TableName} {ts us : List TableName} :
      TableName.ofParts name = some t → PlainJoins js ts → PlainFrom rest us →
      PlainFrom (.mk (.table name before aliasName after) js :: rest) ((t :: ts) ++ us)

/-- A FROM clause that is not empty names at least one table. -/
theorem PlainFrom.ne_nil {from_ : List TableWithJoins} {ts : List TableName}
    (h : PlainFrom from_ ts) (hne : from_ ≠ []) : ts ≠ [] := by
  cases h with
  | nil => exact absurd rfl hne
  | cons => simp

end Sql

/-- `g` adds the bindings `bs` after those of a scope and may change its
USING records; it changes nothing else. -/
def AddsBindings (bs : List Binding) (g : Scope → Scope) : Prop :=
  ∃ u : Scope → List UsingColumn, ∀ s, g s = { s with bindings := s.bindings ++ bs, usingColumns := u s }

theorem AddsBindings.comp {bs₁ bs₂ : List Binding} {g₁ g₂ : Scope → Scope}
    (h₁ : AddsBindings bs₁ g₁) (h₂ : AddsBindings bs₂ g₂) : AddsBindings (bs₁ ++ bs₂) (g₂ ∘ g₁) := by
  obtain ⟨u₁, h₁⟩ := h₁
  obtain ⟨u₂, h₂⟩ := h₂
  exact ⟨fun s => u₂ (g₁ s), fun s => by simp [h₂, h₁, List.append_assoc]⟩

/-- `d'` is `d` with scope `id` given the bindings `bs` after its own, its USING
records perhaps changed, and nothing else changed. -/
def Detector.Binds (id : Nat) (bs : List Binding) (d d' : Detector) : Prop :=
  ∃ g, AddsBindings bs g ∧ d' = { d with arena := d.arena.modify id g }

/-- `d'` is `d` with the tables `ts` bound in scope `id`, in order, under
whatever names: what a FROM clause of named tables does. -/
def Detector.BindsTables (id : Nat) (ts : List TableName) (d d' : Detector) : Prop :=
  ∃ bs : List Binding, bs.map (·.target) = ts.map .table ∧ d.Binds id bs d'

namespace Detector

variable {id : Nat} {d d₁ d₂ : Detector} {bs bs₁ bs₂ : List Binding} {ts ts₁ ts₂ : List TableName}

theorem Binds.refl (id : Nat) (d : Detector) : d.Binds id [] d :=
  ⟨fun s => s, ⟨(·.usingColumns), fun s => by simp⟩, by rw [ScopeArena.modify_self]⟩

theorem Binds.trans (h₁ : d.Binds id bs₁ d₁) (h₂ : d₁.Binds id bs₂ d₂) : d.Binds id (bs₁ ++ bs₂) d₂ := by
  obtain ⟨g₁, hg₁, rfl⟩ := h₁
  obtain ⟨g₂, hg₂, rfl⟩ := h₂
  exact ⟨g₂ ∘ g₁, hg₁.comp hg₂, by simp [ScopeArena.modify_modify]⟩

theorem BindsTables.refl (id : Nat) (d : Detector) : d.BindsTables id [] d :=
  ⟨[], rfl, .refl id d⟩

theorem BindsTables.trans (h₁ : d.BindsTables id ts₁ d₁) (h₂ : d₁.BindsTables id ts₂ d₂) :
    d.BindsTables id (ts₁ ++ ts₂) d₂ := by
  obtain ⟨bs₁, hbs₁, h₁⟩ := h₁
  obtain ⟨bs₂, hbs₂, h₂⟩ := h₂
  exact ⟨bs₁ ++ bs₂, by simp [hbs₁, hbs₂], h₁.trans h₂⟩

theorem BindsTables.current (h : d.BindsTables id ts d₁) : d₁.arena.current = d.arena.current := by
  obtain ⟨-, -, g, -, rfl⟩ := h
  rfl

theorem BindsTables.frames (h : d.BindsTables id ts d₁) : d₁.frames = d.frames := by
  obtain ⟨-, -, g, -, rfl⟩ := h
  rfl

end Detector

/-- A WITH name is never in reach where every frame is empty. -/
theorem findSome?_lookup_of_empty {frames : List (List (String × Nat))} (h : ∀ f ∈ frames, f = [])
    (name : String) : frames.findSome? (fun f => f.lookup name) = none := by
  rw [List.findSome?_eq_none_iff]
  intro f hf
  rw [h f hf]
  rfl

section FromClause

variable {d : Detector} {id : Nat}

/-- A named table binds its name, or its alias, to the table, where no WITH
name is in reach. -/
theorem runs_factor_table {name : Sql.ObjectName} {before after : String}
    {aliasName : Option Sql.TableAlias} {t : TableName} (hname : TableName.ofParts name = some t)
    (hcur : d.arena.current = some id) (hframes : ∀ f ∈ d.frames, f = []) :
    Runs (factor (.table name before aliasName after)) d fun _ d' => d.BindsTables id [t] d' := by
  simp only [factor, hname]
  refine Runs.bind (Detect.runs_lookupCte ?_)
  rw [findSome?_lookup_of_empty hframes, ite_self]
  exact Runs.bind (Runs.pure (Detect.runs_bind hcur ⟨_, rfl, _, ⟨(·.usingColumns), fun s => rfl⟩, rfl⟩))

/-- Joins of named tables, with ON conditions without subqueries, bind their
tables in turn. -/
theorem runs_plainJoins {js : List Sql.Join} {ts : List TableName} (h : Sql.PlainJoins js ts) :
    ∀ {d : Detector}, d.arena.current = some id → (∀ f ∈ d.frames, f = []) →
      Runs (joins js) d fun _ d' => d.BindsTables id ts d' := by
  induction h with
  | nil => exact fun _ _ => Runs.pure (.refl id _)
  | @cons g kind name before after aliasName on c rest t ts hname hon _ ih =>
    intro d hcur hframes
    simp only [joins]
    refine Runs.bind ((runs_factor_table hname hcur hframes).mono fun _ d₁ hb₁ => ?_)
    have hcur₁ : d₁.arena.current = some id := hb₁.current.trans hcur
    have hframes₁ : ∀ f ∈ d₁.frames, f = [] := by rw [hb₁.frames]; exact hframes
    -- the condition changes nothing, a USING list only records its columns
    have hrest : ∀ d₂, d₁.BindsTables id [] d₂ → Runs (joins rest) d₂ fun _ d' =>
        d.BindsTables id (t :: ts) d' := by
      intro d₂ hb₂
      refine (ih (hb₂.current.trans hcur₁) (by rw [hb₂.frames]; exact hframes₁)).mono ?_
      exact fun _ d' hb' => (hb₁.trans hb₂).trans hb'
    split
    · split
      · exact Runs.bind (Runs.of_run (walkOpt_pure on hon [] d₁) (hrest d₁ (.refl id d₁)))
      · rename_i cols
        refine Runs.bind (Runs.of_run (by rw [run_addUsing, hcur₁]) (hrest _ ⟨[], rfl, _, ⟨fun s =>
          usingColumnsAfter cols s.bindings.length s.usingColumns, fun s => ?_⟩, rfl⟩))
        simp only [List.append_nil]
      · exact hrest d₁ (.refl id d₁)
    · exact hrest d₁ (.refl id d₁)

/-- A FROM clause of named tables binds its tables in turn, in the order it
names them. -/
theorem runs_plainFrom {from_ : List Sql.TableWithJoins} {ts : List TableName}
    (h : Sql.PlainFrom from_ ts) :
    ∀ {d : Detector}, d.arena.current = some id → (∀ f ∈ d.frames, f = []) →
      Runs (fromClause from_) d fun _ d' => d.BindsTables id ts d' := by
  induction h with
  | nil => exact fun _ _ => Runs.pure (.refl id _)
  | cons hname hjs _ ih =>
    intro d hcur hframes
    simp only [fromClause, tableWithJoins]
    refine Runs.bind (Runs.bind ((runs_factor_table hname hcur hframes).mono fun _ d₁ hb₁ => ?_))
    have hcur₁ : d₁.arena.current = some id := hb₁.current.trans hcur
    have hframes₁ : ∀ f ∈ d₁.frames, f = [] := by rw [hb₁.frames]; exact hframes
    refine (runs_plainJoins hjs hcur₁ hframes₁).mono fun _ d₂ hb₂ => ?_
    refine (ih (hb₂.current.trans hcur₁) (by rw [hb₂.frames]; exact hframes₁)).mono ?_
    exact fun _ d' hb' => (hb₁.trans hb₂).trans hb'

end FromClause

/-! ### Outputs read straight from tables -/

namespace Field

/-- The sources of an output that needs no scope followed: a column read
from a table, or a wildcard left unexpanded. -/
def tableSources : Field → Option SourceSet
  | .column _ ref _ =>
    match ref.origin with
    | .table t => some [{ table := some t, field := ref.column }]
    | _ => none
  | .wildcard _ t _ => some [{ table := t, field := "*", kind := .unresolvedWildcard }]
  | _ => none

/-- The lineage entry of such an output of a statement without a target: it
is named after itself. -/
def tableEntry (f : Field) : Option TargetLineage :=
  f.tableSources.map fun sources =>
    { target := { table := none, field := f.name }, sources, transformation := f.process }

end Field

section Settled

variable {cat : Catalog} {A : ScopeArena} {id : Nat} {f : Field} {ss : SourceSet}

/-- An output read straight from a table is placed already. -/
theorem placeField_of_tableSources (h : f.tableSources = some ss) :
    Bindings.placeField cat A id f = (f, [], []) := by
  cases f with
  | column n ref p =>
    rcases horigin : ref.origin with _ | t | _ | _ | _ <;>
      simp only [Field.tableSources, horigin, reduceCtorEq] at h
    simp [Bindings.placeField, Bindings.usingSides, horigin]
  | wildcard => rfl
  | derived | scalar | constant => simp [Field.tableSources] at h

/-- An output read straight from a table is followed to its sources in one
step, leaving the table of found names alone. -/
theorem run_field_of_tableSources (m depth : Nat) (σ : ResolverState) (h : f.tableSources = some ss) :
    (Resolve.field A m depth f).run.run σ = (.ok ss, σ) := by
  cases f with
  | column n ref p =>
    rcases horigin : ref.origin with _ | t | _ | _ | _ <;>
      simp only [Field.tableSources, horigin, reduceCtorEq, Option.some.injEq] at h
    subst h
    simp only [Resolve.field, horigin]
    rfl
  | wildcard n t p =>
    simp only [Field.tableSources, Option.some.injEq] at h
    subst h
    simp only [Resolve.field]
    rfl
  | derived | scalar | constant => simp [Field.tableSources] at h

/-- Outputs read straight from tables are all placed already. -/
theorem placeFields_of_tableEntries {fs : List Field} {L : List TargetLineage}
    (h : List.Forall₂ (fun f e => f.tableEntry = some e) fs L) :
    Bindings.placeFields cat A id fs = (fs, [], []) := by
  induction h with
  | nil => rfl
  | cons hf _ ih =>
    obtain ⟨ss, hss, -⟩ := Option.map_eq_some_iff.mp hf
    simp only [Bindings.placeFields, placeField_of_tableSources hss, ih, List.append_nil]

/-- Outputs read straight from tables give their lineage entries, in order,
without error and without a warning. -/
theorem run_resolveOutputs_tableEntries (m : Nat) (σ : ResolverState) {fs : List Field}
    {L : List TargetLineage} (h : List.Forall₂ (fun f e => f.tableEntry = some e) fs L) :
    (resolveOutputs A m none (fs.zip (fs.map Field.name))).run.run σ = (.ok (L, none), σ) := by
  induction h with
  | nil => rfl
  | cons hf _ ih =>
    obtain ⟨ss, hss, rfl⟩ := Option.map_eq_some_iff.mp hf
    rw [List.map_cons, List.zip_cons_cons, run_resolveOutputs_cons, sourcesOf,
      run_field_of_tableSources m 0 σ hss]
    dsimp only
    rw [ih]

end Settled

/-! ### The expansion of `*` over named tables -/

/-- What `SELECT *` gives for one table: one entry per column the catalog
lists for it, in the catalog's order, read from the table; for a table the
catalog does not know, one wildcard left unexpanded. -/
def tableStarLineage (cat : Catalog) (t : TableName) : List TargetLineage :=
  match cat.columns? t with
  | some cols => cols.map fun c =>
    { target := { table := none, field := c }, sources := [{ table := some t, field := c }],
      transformation := .wildcard }
  | none =>
    [{ target := { table := none, field := "*" },
       sources := [{ table := some t, field := "*", kind := .unresolvedWildcard }],
       transformation := .wildcard }]

/-- The warnings `SELECT *` raises for one table: one if the catalog does not
know it. -/
def tableStarWarnings (cat : Catalog) (t : TableName) : List LineageError :=
  match cat.columns? t with
  | some _ => []
  | none => [.unresolvedWildcard (t.render ++ ".*")]

namespace Detect

variable (cat : Catalog) (A : ScopeArena)

/-- A binding adds its columns after those expanded before it. -/
theorem expandBinding_append (q : Option TableName) (acc : List Field × List String) (b : Binding) :
    expandBinding cat A q acc b = (acc.1 ++ (expandBinding cat A q ([], []) b).1,
      acc.2 ++ (expandBinding cat A q ([], []) b).2) := by
  unfold expandBinding
  split
  · split <;> simp
  · split <;> simp

theorem foldl_expandBinding (q : Option TableName) :
    ∀ (bs : List Binding) (acc : List Field × List String), bs.foldl (expandBinding cat A q) acc =
      (acc.1 ++ bs.flatMap fun b => (expandBinding cat A q ([], []) b).1,
        acc.2 ++ bs.flatMap fun b => (expandBinding cat A q ([], []) b).2)
  | [], acc => by simp
  | b :: bs, acc => by
    rw [List.foldl_cons, foldl_expandBinding q bs, expandBinding_append]
    simp

/-- Under `*`, a binding to a table gives that table's entries and warnings. -/
theorem expandBinding_table {b : Binding} {t : TableName} (hb : b.target = .table t) :
    List.Forall₂ (fun f e => f.tableEntry = some e) (expandBinding cat A none ([], []) b).1
        (tableStarLineage cat t) ∧
      (expandBinding cat A none ([], []) b).2.map .unresolvedWildcard = tableStarWarnings cat t := by
  simp only [expandBinding, hb, tableStarLineage, tableStarWarnings]
  cases cat.columns? t with
  | some cols =>
    simp [List.forall₂_map_left_iff, List.forall₂_map_right_iff, List.forall₂_same, Field.tableEntry,
      Field.tableSources, Field.name, Field.process]
  | none =>
    cases b.aliasName <;> simp [Field.tableEntry, Field.tableSources, Field.name, Field.process]

/-- Under `*`, bindings to tables give the entries and warnings of their
tables, in turn. -/
theorem expand_tables :
    ∀ {bs : List Binding} {ts : List TableName}, bs.map (·.target) = ts.map .table →
      List.Forall₂ (fun f e => f.tableEntry = some e)
          (bs.flatMap fun b => (expandBinding cat A none ([], []) b).1) (ts.flatMap (tableStarLineage cat)) ∧
        (bs.flatMap fun b => (expandBinding cat A none ([], []) b).2).map .unresolvedWildcard =
          ts.flatMap (tableStarWarnings cat)
  | [], [], _ => ⟨.nil, rfl⟩
  | b :: bs, t :: ts, h => by
    simp only [List.map_cons, List.cons.injEq] at h
    obtain ⟨hb, hbs⟩ := expandBinding_table cat A h.1
    obtain ⟨ihb, ihbs⟩ := expand_tables h.2
    exact ⟨List.rel_append hb ihb, by simp only [List.flatMap_cons, List.map_append, hbs, ihbs]⟩
  | [], _ :: _, h => by simp at h
  | _ :: _, [], h => by simp at h

/-- `*` in a scope whose bindings are the tables `ts` gives, table after
table, the entries and warnings of each. -/
theorem wildcardFields_tables {S : Scope} {ts : List TableName}
    (hbs : S.bindings.map (·.target) = ts.map .table) (hne : ts ≠ []) :
    List.Forall₂ (fun f e => f.tableEntry = some e) (wildcardFields cat A S none).1
        (ts.flatMap (tableStarLineage cat)) ∧
      (wildcardFields cat A S none).2.map .unresolvedWildcard = ts.flatMap (tableStarWarnings cat) := by
  have hbind : S.bindings.isEmpty = false := by
    cases hS : S.bindings with
    | nil => rw [hS, List.map_nil, eq_comm, List.map_eq_nil_iff] at hbs; exact absurd hbs hne
    | cons => rfl
  simp only [wildcardFields, wildcardBindings, wildcardStart, hbind, Bool.false_eq_true, if_false,
    foldl_expandBinding, List.nil_append]
  exact expand_tables cat A hbs

end Detect

/-- Completing a scope whose outputs are placed already keeps them, and warns
of nothing. -/
theorem Bindings.finalize_of_placed {cat : Catalog} {A : ScopeArena} {id : Nat} {S : Scope}
    (hS : A.get? id = some S) (hplace : ∀ A', placeFields cat A' id S.fields = (S.fields, [], [])) :
    (finalize cat A id).2.1 = [] ∧ ∃ S', (finalize cat A id).1.get? id = some S' ∧ S'.fields = S.fields := by
  refine ⟨by simp only [finalize, hS, hplace], ?_⟩
  rw [finalize_arena, hS]
  exact ⟨_, by rw [ScopeArena.get?_modify_self, hS]; rfl, by simp only [hplace]⟩

/-- **`SELECT *` over named tables, walked.** Run from `u`, with room for
one more scope and no WITH name in reach, `SELECT * FROM from_` over a FROM
clause of named tables `ts` succeeds: it leaves the open scopes, the frames
and the target as they were, its scope outputs the entries of each table in
turn, and it adds the warnings of each table in turn. -/
theorem select_star_tables_runs {u : Detector} {from_ : List Sql.TableWithJoins} {ts : List TableName}
    (hfrom : Sql.PlainFrom from_ ts) (hne : ts ≠ []) (hroom : u.arena.stack.length < u.arena.maxDepth)
    (hframes : ∀ f ∈ u.frames, f = []) :
    Runs (select .query none (.star from_)) u fun id w =>
      w.arena.stack = u.arena.stack ∧ w.frames = u.frames ∧ w.target = u.target ∧
      (∃ S, w.arena.get? id = some S ∧
        List.Forall₂ (fun f e => f.tableEntry = some e) S.fields (ts.flatMap (tableStarLineage u.catalog))) ∧
      w.warnings = u.warnings ++ ts.flatMap (tableStarWarnings u.catalog) := by
  simp only [select, Sql.Select.star, selectItems, selectItem, walkOpt]
  refine Runs.bind (Detect.runs_enter hroom (Runs.bind
    ((runs_plainFrom (d := { u with arena := u.arena.push (u.arena.opened .query none) }) hfrom rfl
      hframes).mono ?_)))
  rintro _ v ⟨bs, hbs, g, hg, rfl⟩
  -- the scope of the SELECT, as its FROM clause left it
  have hbind : (g (u.arena.opened .query none)).bindings.map (·.target) = ts.map .table := by
    obtain ⟨w, hw⟩ := hg
    rw [hw]
    exact hbs
  have hS₀ : ((u.arena.push (u.arena.opened .query none)).modify u.arena.size g).get? u.arena.size =
      some (g (u.arena.opened .query none)) := by
    rw [ScopeArena.get?_modify_self, ScopeArena.get?_push_self]
    rfl
  have hstack : ((u.arena.push (u.arena.opened .query none)).modify u.arena.size g).stack =
      u.arena.size :: u.arena.stack := rfl
  generalize (u.arena.push (u.arena.opened .query none)).modify u.arena.size g = A₁ at hS₀ hstack ⊢
  generalize g (u.arena.opened .query none) = S₀ at hS₀ hbind
  obtain ⟨hfields, hwarn⟩ := Detect.wildcardFields_tables u.catalog A₁ hbind hne
  have hcur : A₁.current.bind A₁.get? = some S₀ := by
    simp [ScopeArena.current, hstack, hS₀]
  refine Runs.bind (Runs.bind (Detect.runs_expandWildcard hcur (Runs.bind (Runs.pure (Runs.pure ?_)))))
  refine Runs.bind (Detect.runs_modifyScope hS₀ ?_)
  refine Runs.bind (Runs.pure (Runs.bind (Runs.pure (Runs.bind (Detect.runs_finalize ?_)))))
  dsimp only
  rw [List.append_nil]
  generalize wildcardFields u.catalog A₁ S₀ none = F at hfields hwarn ⊢
  -- completing the scope keeps the expanded columns and warns of nothing
  have hS₁ : (A₁.modify u.arena.size fun s => { s with fields := F.1 }).get? u.arena.size =
      some { S₀ with fields := F.1 } := by
    rw [ScopeArena.get?_modify_self, hS₀]
    rfl
  obtain ⟨hnone, S₁, hS₁', hS₁f⟩ :=
    Bindings.finalize_of_placed hS₁ (fun _ => placeFields_of_tableEntries hfields)
  refine Runs.bind (Detect.runs_exit u.arena.size u.arena.stack ?_
    (Runs.pure ⟨rfl, rfl, rfl, ⟨S₁, hS₁', hS₁f ▸ hfields⟩, ?_⟩))
  · rw [Bindings.finalize_stack, ScopeArena.stack_modify, hstack]
  · rw [hnone, List.append_nil, ← hwarn]

/-- The warnings of a statement analysed without error: those of its walk,
then those raised following its outputs. -/
theorem analyzeStatement_warnings_of_ok {cat : Catalog} {m idx : Nat} {st : Sql.Statement} {d : Detector}
    {root : Scope} {names : List String} {σ : ResolverState} {L : List TargetLineage}
    (hd : (Detector.new cat m).detect st = (.ok (), d)) (hr : d.root.bind d.arena.get? = some root)
    (hn : targetNames root.fields d.target = (names, none))
    (hres : (resolveOutputs d.arena m (d.target.bind (·.table)) (root.fields.zip names)).run.run {} =
      (.ok (L, none), σ)) :
    (analyzeStatement cat m idx st).warnings = d.warnings ++ σ.warnings := by
  unfold analyzeStatement
  simp [hd, hr, hn, hres]

/-- **`SELECT *` over named tables.** For every catalog, every limit of at
least one and every FROM clause of named tables joined by conditions without
subqueries, `SELECT * FROM ...` is analysed without error; its lineage is,
table after table in the order of the FROM clause, one entry per column the
catalog lists for the table, read from it, or one unexpanded wildcard for a
table the catalog does not know; and it warns once of each unknown table, in
the same order. -/
theorem star_over_tables_lineage (cat : Catalog) {m : Nat} (hm : 0 < m) (idx : Nat)
    {from_ : List Sql.TableWithJoins} {ts : List TableName} (hfrom : Sql.PlainFrom from_ ts)
    (hne : from_ ≠ []) :
    (analyzeStatement cat m idx (.query (.mk none [] (.select (.star from_)) ""))).error = none ∧
      (analyzeStatement cat m idx (.query (.mk none [] (.select (.star from_)) ""))).lineage =
        ts.flatMap (tableStarLineage cat) ∧
      (analyzeStatement cat m idx (.query (.mk none [] (.select (.star from_)) ""))).warnings =
        ts.flatMap (tableStarWarnings cat) := by
  -- the walk: one scope, outputting the entries of each table in turn
  obtain ⟨d, hd, S, hroot, hfields, htarget, hwarn⟩ :=
    @detect_of_runs cat m (.mk none [] (.select (.star from_)) "") (fun d => ∃ S,
      d.root.bind d.arena.get? = some S ∧
      List.Forall₂ (fun f e => f.tableEntry = some e) S.fields (ts.flatMap (tableStarLineage cat)) ∧
      d.target = none ∧ d.warnings = ts.flatMap (tableStarWarnings cat)) <| by
    refine query_runs (Runs.pure ?_)
    simp only [setExpr]
    refine (select_star_tables_runs hfrom (hfrom.ne_nil hne) (by exact hm) (by simp [Detector.new])).mono ?_
    rintro id w ⟨hstack, -, htarget, ⟨S, hS, hfields⟩, hwarn⟩
    exact ⟨hstack, S, hS, hfields, htarget, hwarn⟩
  -- following the outputs: each is read straight from its table
  have hn : targetNames S.fields d.target = (S.fields.map Field.name, none) := by
    rw [htarget]
    rfl
  have hres : (resolveOutputs d.arena m (d.target.bind (·.table)) (S.fields.zip (S.fields.map Field.name))).run.run {} =
      (.ok (ts.flatMap (tableStarLineage cat), none), {}) := by
    rw [htarget]
    exact run_resolveOutputs_tableEntries m {} hfields
  obtain ⟨herr, hL⟩ := @analyzeStatement_of_ok _ _ idx _ _ _ _ _ _ hd hroot hn hres
  refine ⟨herr, hL, ?_⟩
  rw [analyzeStatement_warnings_of_ok hd hroot hn hres, hwarn]
  exact List.append_nil _

/-- `orders AS o JOIN customers ON o.id = customers.id`. -/
def ordersJoinCustomers : List Sql.TableWithJoins :=
  [.mk (.table [{ value := "orders" }] "" (some { name := { value := "o" } }) "")
    [.mk false .inner (.table [{ value := "customers" }] "" none "")
      (some (.binary (.compound [{ value := "o" }, { value := "id" }]) "="
        (.compound [{ value := "customers" }, { value := "id" }]))) .on]]

/-- A catalog that knows `orders (id, amount)` and nothing else. -/
def ordersCatalog : Catalog :=
  { schemas := [{ table := { database := none, name := "orders" }, columns := ["id", "amount"] }] }

/-- `SELECT * FROM orders AS o JOIN customers ON o.id = customers.id` over a
catalog that knows only `orders`: the two columns of `orders`, read from it,
then `customers` left as a wildcard, with one warning. -/
theorem ordersJoinCustomers_star :
    (analyzeStatement ordersCatalog 1 0
        (.query (.mk none [] (.select (.star ordersJoinCustomers)) ""))).error = none ∧
      ((analyzeStatement ordersCatalog 1 0
          (.query (.mk none [] (.select (.star ordersJoinCustomers)) ""))).lineage.map
          fun e => (e.target.field, e.sources)) =
        [("id", [{ table := some { database := none, name := "orders" }, field := "id" }]),
         ("amount", [{ table := some { database := none, name := "orders" }, field := "amount" }]),
         ("*", [{ table := some { database := none, name := "customers" }, field := "*"
                  kind := .unresolvedWildcard }])] ∧
      (analyzeStatement ordersCatalog 1 0
          (.query (.mk none [] (.select (.star ordersJoinCustomers)) ""))).warnings =
        [.unresolvedWildcard "customers.*"] := by
  have hfrom : Sql.PlainFrom ordersJoinCustomers
      [{ database := none, name := "orders" }, { database := none, name := "customers" }] :=
    .cons rfl (.cons rfl rfl .nil) .nil
  obtain ⟨herr, hL, hW⟩ := star_over_tables_lineage ordersCatalog Nat.one_pos 0 hfrom (by simp [ordersJoinCustomers])
  refine ⟨herr, ?_, ?_⟩
  · rw [hL]
    rfl
  · rw [hW]
    rfl

end ColumnLineage
