import ColumnLineage.Proofs.UnreadOutputs
import ColumnLineage.Proofs.SoundWalk
import ColumnLineage.Proofs.PairedLineage
import ColumnLineage.Proofs.Derivation
import ColumnLineage.Proofs.Wrapping
import ColumnLineage.Proofs.SetOperationLineage
/-
ColumnLineage/Proofs/AliasLineage.lean

Naming a select item. In a query whose body is one SELECT, the item `e` (or
`e AS m`) becomes `e AS n`. Its output changes and nothing else does: the
walk reads the item exactly as before, the outputs of the SELECT are set
aside while its conditions are walked (`Proofs/UnreadOutputs`), and placing
and following the renamed output do what they did for the old one.

What changes is the output itself (`Aliased`). A column named without an
alias is an output read straight from the column; named, it is computed from
that column, with the transformation `aliased`. Any other item is computed
from the inputs its walk collects, or is a constant when it collects none
(`Sql.ReadsInputs`), and only its name changes, so a constant's one literal
source takes the new name.

Main statement (`aliased_item_lineage`): for every catalog, limit, statement
index and such query, the analysis with the item named `n` has the same
warnings and the same error, and its lineage is that of the original with
one entry changed (`renamedEntry`), an entry that exists when there is no
error (`RenamedReport`). The two walks are compared step by step
(`EndsAlike`): they end alike, the second with the outputs of the SELECT's
scope replaced.
-/

namespace ColumnLineage

open Run Detect

namespace Sql

/-! ### Expressions that collect inputs -/

namespace ReadsInputs

mutual

/-- Whether walking the expression for the inputs of an output collects one:
a column named outside nested queries, or a scalar subquery. Columns of a
`MATCH ... AGAINST` and of `EXISTS` and `IN` subqueries are not collected. -/
def expr : Expr → Bool
  | .identifier _ => true
  | .compound parts => (columnRef (.compound parts)).isSome
  | .subquery _ => true
  | .value _ | .typedString _ _ | .wildcard | .qualifiedWildcard _ | .introduced _ _
  | .matchAgainst _ _ _ | .exists _ _ => false
  | .isTest e _ | .unary _ e | .postOp e _ | .cast _ e _ _ | .extract _ _ e | .ceilFloor _ e _ _
  | .collate e _ | .nested e | .interval e _ | .namedArg _ _ e | .prior e | .composite e _
  | .lambda _ _ e | .outerJoin e | .named e _ | .inSubquery e _ _ => expr e
  | .isDistinctFrom a _ b | .inUnnest a b _ | .binary a _ b | .like _ _ _ a b _ | .rlike _ a b _
  | .quantified a _ _ b | .atTimeZone a b | .position a b | .exprNamedArg a _ b => expr a || expr b
  | .inList e list _ => expr e || exprs list
  | .between e _ lo hi => expr e || (expr lo || expr hi)
  | .substring e f fo _ => expr e || (opt f || opt fo)
  | .trim e _ what chars => expr e || (opt what || exprs chars)
  | .overlay e w f fo => expr e || (expr w || (expr f || opt fo))
  | .tuple items | .array items _ | .structLiteral _ items | .dictionary _ items => exprs items
  | .function _ params args filter _ window withinGroup _ =>
    callArgs params || (callArgs args || (opt filter || (windowSpec window || order withinGroup)))
  | .case operand conds results otherwise =>
    opt operand || (exprs conds || (exprs results || opt otherwise))
  | .access root chain => expr root || access chain
  | .pathAccess e path => expr e || pathSteps path
  | .convert _ e _ _ _ styles => expr e || exprs styles
  | .mapLiteral entries => mapEntries entries
  | .method e calls => expr e || exprs calls

def exprs : List Expr → Bool
  | [] => false
  | e :: rest => expr e || exprs rest

def access : List Access → Bool
  | [] => false
  | .field e :: rest | .index e :: rest => expr e || access rest
  | .slice lower upper stride :: rest => opt lower || (opt upper || (opt stride || access rest))

def clauses : List ArgClause → Bool
  | [] => false
  | .mk _ e _ :: rest => opt e || clauses rest

def mapEntries : List MapEntry → Bool
  | [] => false
  | .mk key v :: rest => expr key || (expr v || mapEntries rest)

def pathSteps : List PathStep → Bool
  | [] => false
  | .key _ _ :: rest => pathSteps rest
  | .bracket e :: rest => expr e || pathSteps rest

def opt : Option Expr → Bool
  | some e => expr e
  | none => false

def callArgs : FunctionArgs → Bool
  | .none | .subquery _ => false
  | .list _ args _ orderBy limit cls => exprs args || (order orderBy || (opt limit || clauses cls))

def order : List OrderItem → Bool
  | [] => false
  | .mk e _ _ fill :: rest => expr e || (withFill fill || order rest)

def withFill : Option Fill → Bool
  | some (.mk start stop step) => opt start || (opt stop || opt step)
  | none => false

def windowSpec : Option Window → Bool
  | some (.spec _ partitionBy orderBy _ _ startExpr _ endExpr) =>
    exprs partitionBy || (order orderBy || (opt startExpr || opt endExpr))
  | some (.named _) | none => false

end

end ReadsInputs

end Sql

/-! ### What the walk for the inputs of an output collects -/

/-- The walk `x`, given the inputs `acc`, answers no input exactly when it was
given none and `reads` is false. -/
def Collects (reads : Bool) (x : List Field → Detect (List Field)) : Prop :=
  ∀ acc d out d', (x acc).run.run d = (.ok out, d') → out.isEmpty = (acc.isEmpty && !reads)

theorem addInput_isEmpty (f : Field) (acc : List Field) : (addInput f acc).isEmpty = false := by
  unfold addInput
  split
  · rename_i h
    cases acc with
    | nil => simp at h
    | cons => rfl
  · simp

namespace Collects

variable {b c : Bool} {x y : List Field → Detect (List Field)}

theorem pure : Collects false (fun acc => pure acc) := by
  intro acc d out d' h
  cases h
  simp

theorem add (f : Field) : Collects true (fun acc => Pure.pure (addInput f acc)) := by
  intro acc d out d' h
  cases h
  simp [addInput_isEmpty]

theorem comp (hx : Collects b x) (hy : Collects c y) :
    Collects (b || c) (fun acc => x acc >>= y) := by
  intro acc d out d' h
  obtain ⟨mid, d₁, h₁, h₂⟩ := run_bind_ok h
  rw [hy mid d₁ out d' h₂, hx acc d mid d₁ h₁]
  cases b <;> cases c <;> simp

/-- A subquery walked for its own sake collects nothing. -/
theorem after {q : Detect Nat} (hx : Collects b x) : Collects b (fun acc => q >>= fun _ => x acc) := by
  intro acc d out d' h
  obtain ⟨_, d₁, -, h₂⟩ := run_bind_ok h
  exact hx acc d₁ out d' h₂

end Collects

open Sql.ReadsInputs in
mutual

theorem walk_collects : ∀ e, Collects (expr e) (walk .value e)
  | .identifier i => Collects.add _
  | .compound parts => by
    show Collects (columnRef (.compound parts)).isSome _
    intro acc
    rw [walk_compound]
    cases columnRef (.compound parts) with
    | none => exact Collects.pure acc
    | some ref => exact Collects.add _ acc
  | .isTest e _ => walk_collects e
  | .isDistinctFrom a _ b => (walk_collects a).comp (walk_collects b)
  | .inList e list _ => (walk_collects e).comp (walkList_collects list)
  | .inSubquery e q _ => (walk_collects e).after
  | .inUnnest e arr _ => (walk_collects e).comp (walk_collects arr)
  | .between e _ lo hi => (walk_collects e).comp ((walk_collects lo).comp (walk_collects hi))
  | .binary a _ b => (walk_collects a).comp (walk_collects b)
  | .like _ _ _ e p _ => (walk_collects e).comp (walk_collects p)
  | .rlike _ e p _ => (walk_collects e).comp (walk_collects p)
  | .quantified a _ _ b => (walk_collects a).comp (walk_collects b)
  | .unary _ e => walk_collects e
  | .postOp e _ => walk_collects e
  | .cast _ e _ _ => walk_collects e
  | .atTimeZone t z => (walk_collects t).comp (walk_collects z)
  | .extract _ _ e => walk_collects e
  | .ceilFloor _ e _ _ => walk_collects e
  | .position e i => (walk_collects e).comp (walk_collects i)
  | .substring e f fo _ => (walk_collects e).comp ((walkOpt_collects f).comp (walkOpt_collects fo))
  | .trim e _ what chars =>
    (walk_collects e).comp ((walkOpt_collects what).comp (walkList_collects chars))
  | .overlay e w f fo =>
    (walk_collects e).comp ((walk_collects w).comp ((walk_collects f).comp
      (walkOpt_collects fo)))
  | .collate e _ => walk_collects e
  | .nested e => walk_collects e
  | .tuple items => walkList_collects items
  | .array items _ => walkList_collects items
  | .interval v _ => walk_collects v
  | .function _ params args filter _ window withinGroup _ =>
    (walkArgs_collects params).comp ((walkArgs_collects args).comp
      ((walkOpt_collects filter).comp ((walkWindow_collects window).comp
        (walkOrder_collects withinGroup))))
  | .namedArg _ _ e => walk_collects e
  | .exprNamedArg name _ e => (walk_collects name).comp (walk_collects e)
  | .matchAgainst .. => Collects.pure
  | .case operand conds results otherwise =>
    (walkOpt_collects operand).comp ((walkList_collects conds).comp
      ((walkList_collects results).comp (walkOpt_collects otherwise)))
  | .exists q _ => Collects.pure.after
  | .subquery q => by
    intro acc d out d' h
    obtain ⟨_, d₁, -, h₂⟩ := run_bind_ok h
    exact Collects.add _ acc d₁ out d' h₂
  | .access root chain => (walk_collects root).comp (walkAccess_collects chain)
  | .pathAccess e path => (walk_collects e).comp (walkPath_collects path)
  | .composite e _ => walk_collects e
  | .wildcard => Collects.pure
  | .qualifiedWildcard _ => Collects.pure
  | .introduced .. => Collects.pure
  | .convert _ e _ _ _ styles => (walk_collects e).comp (walkList_collects styles)
  | .structLiteral _ values => walkList_collects values
  | .named e _ => walk_collects e
  | .dictionary _ values => walkList_collects values
  | .mapLiteral entries => walkEntries_collects entries
  | .prior e => walk_collects e
  | .lambda _ _ body => walk_collects body
  | .outerJoin e => walk_collects e
  | .method e calls => (walk_collects e).comp (walkList_collects calls)
  | .value _ => Collects.pure
  | .typedString .. => Collects.pure

theorem walkList_collects : ∀ es, Collects (exprs es) (walkList .value es)
  | [] => Collects.pure
  | e :: rest => (walk_collects e).comp (walkList_collects rest)

theorem walkAccess_collects : ∀ chain, Collects (access chain) (walkAccess .value chain)
  | [] => Collects.pure
  | .field e :: rest => (walk_collects e).comp (walkAccess_collects rest)
  | .index e :: rest => (walk_collects e).comp (walkAccess_collects rest)
  | .slice lower upper stride :: rest =>
    (walkOpt_collects lower).comp ((walkOpt_collects upper).comp
      ((walkOpt_collects stride).comp (walkAccess_collects rest)))

theorem walkClauses_collects : ∀ cls, Collects (clauses cls) (walkClauses .value cls)
  | [] => Collects.pure
  | .mk _ e _ :: rest => (walkOpt_collects e).comp (walkClauses_collects rest)

theorem walkEntries_collects : ∀ entries, Collects (mapEntries entries) (walkEntries .value entries)
  | [] => Collects.pure
  | .mk key v :: rest =>
    (walk_collects key).comp ((walk_collects v).comp (walkEntries_collects rest))

theorem walkPath_collects : ∀ path, Collects (pathSteps path) (walkPath .value path)
  | [] => Collects.pure
  | .key _ _ :: rest => walkPath_collects rest
  | .bracket e :: rest => (walk_collects e).comp (walkPath_collects rest)

theorem walkOpt_collects : ∀ e, Collects (opt e) (walkOpt .value e)
  | none => Collects.pure
  | some e => walk_collects e

theorem walkArgs_collects : ∀ args, Collects (callArgs args) (walkArgs .value args)
  | .list _ args _ orderBy limit cls =>
    (walkList_collects args).comp ((walkOrder_collects orderBy).comp
      ((walkOpt_collects limit).comp (walkClauses_collects cls)))
  | .none => Collects.pure
  | .subquery _ => Collects.pure

theorem walkOrder_collects : ∀ items, Collects (order items) (walkOrder .value items)
  | [] => Collects.pure
  | .mk e _ _ fill :: rest =>
    (walk_collects e).comp ((walkFill_collects fill).comp (walkOrder_collects rest))

theorem walkFill_collects : ∀ fill, Collects (withFill fill) (walkFill .value fill)
  | some (.mk start stop step) =>
    (walkOpt_collects start).comp ((walkOpt_collects stop).comp (walkOpt_collects step))
  | none => Collects.pure

theorem walkWindow_collects : ∀ window, Collects (windowSpec window) (walkWindow .value window)
  | some (.spec _ partitionBy orderBy _ _ startExpr _ endExpr) =>
    (walkList_collects partitionBy).comp ((walkOrder_collects orderBy).comp
      ((walkOpt_collects startExpr).comp (walkOpt_collects endExpr)))
  | some (.named _) => Collects.pure
  | none => Collects.pure

end

/-! ### A column named by an expression -/

section ColumnItem

variable {e : Sql.Expr} {ref : ColumnRef}

/-- Walked for its inputs, an expression that names a column adds that column
and does nothing else. -/
theorem walk_of_columnRef (h : columnRef e = some ref) (acc : List Field) (d : Detector) :
    (walk .value e acc).run.run d = (.ok (addInput (Field.ofColumn ref.column ref) acc), d) := by
  fun_induction columnRef e with
  | case1 i =>
    cases h
    rfl
  | case2 parts => simp at h
  | case3 parts c rest hrev =>
    cases h
    rw [walk_compound]
    simp only [columnRef, hrev]
    rfl
  | case4 e ih => exact ih h
  | case5 => simp at h

theorem classify_of_columnRef (h : columnRef e = some ref) : classify e = .direct := by
  fun_induction columnRef e with
  | case1 i => rfl
  | case2 parts => simp at h
  | case3 parts c rest hrev => rfl
  | case4 e ih =>
    simp only [classify]
    exact ih h
  | case5 => simp at h

theorem readsInputs_of_columnRef (h : columnRef e = some ref) : Sql.ReadsInputs.expr e = true := by
  fun_induction columnRef e with
  | case1 i => rfl
  | case2 parts => simp at h
  | case3 parts c rest hrev =>
    show (columnRef (.compound parts)).isSome = true
    simp [columnRef, hrev]
  | case4 e ih => exact ih h
  | case5 => simp at h

/-- Named, a column is an output computed from it. -/
theorem exprField_of_columnRef (h : columnRef e = some ref) (n : String) (f : Field) :
    exprField n e [f] = .derived n [f] .aliased := by
  simp [exprField, classify_of_columnRef h]

end ColumnItem

/-! ### The output of a renamed item -/

/-- How the output of the item `e` (or `e AS a`) changes when the item becomes
`e AS n`. -/
inductive Aliased (n : String) (e : Sql.Expr) (a : Option Sql.Ident) : Field → Field → Prop
  /-- a column named without an alias becomes an output computed from it -/
  | wrap {f : Field} : a = none → (columnRef e).isSome →
      Aliased n e a f (.derived n [f] .aliased)
  /-- an output computed from the inputs the walk collects takes the new name -/
  | derived {m : String} {ins : List Field} {p : Transformation} :
      ¬ (a = none ∧ (columnRef e).isSome) → Sql.ReadsInputs.expr e = true →
      Aliased n e a (.derived m ins p) (.derived n ins p)
  /-- a constant takes the new name -/
  | constant {m : String} {p : Transformation} :
      ¬ (a = none ∧ (columnRef e).isSome) → Sql.ReadsInputs.expr e = false →
      Aliased n e a (.constant m p) (.constant n p)

/-- Two lists of outputs that differ in one place, where the second holds the
renamed output. -/
def AliasedAt (n : String) (e : Sql.Expr) (a : Option Sql.Ident) (fs gs : List Field) : Prop :=
  ∃ pb F G pa, fs = pb ++ F :: pa ∧ gs = pb ++ G :: pa ∧ Aliased n e a F G

/-- An expression walked for its inputs: once named `n`, its output is
renamed. -/
theorem Aliased.exprField {n m : String} {e : Sql.Expr} {a : Option Sql.Ident} {ins : List Field}
    (hA : ¬ (a = none ∧ (columnRef e).isSome)) (hins : ins.isEmpty = !Sql.ReadsInputs.expr e) :
    Aliased n e a (exprField m e ins) (exprField n e ins) := by
  unfold ColumnLineage.exprField
  cases hr : Sql.ReadsInputs.expr e
  · rw [hr] at hins
    simp only [hins]
    exact .constant hA hr
  · rw [hr] at hins
    simp only [hins]
    exact .derived hA hr

/-! ### Runs from one detector -/

/-- Two ends of runs from one detector: the same detector, and the same
failure or answers related by `R`. -/
def EndsRel {α β : Type} (R : α → β → Prop) :
    Except LineageError α × Detector → Except LineageError β × Detector → Prop
  | (.ok a, s), (.ok b, s') => R a b ∧ s' = s
  | (.error e, s), (.error e', s') => e' = e ∧ s' = s
  | _, _ => False

namespace EndsRel

variable {α β γ δ : Type}

theorem refl (z : Except LineageError α × Detector) : EndsRel (· = ·) z z := by
  rcases z with ⟨_ | _, _⟩ <;> exact ⟨rfl, rfl⟩

theorem bind {R : α → β → Prop} {R' : γ → δ → Prop} {x : Detect α} {y : Detect β}
    {f : α → Detect γ} {g : β → Detect δ} {d : Detector} (h : EndsRel R (x.run.run d) (y.run.run d))
    (hf : ∀ a b s, x.run.run d = (.ok a, s) → R a b → EndsRel R' ((f a).run.run s) ((g b).run.run s)) :
    EndsRel R' ((x >>= f).run.run d) ((y >>= g).run.run d) := by
  rw [Run.run_bind, Run.run_bind]
  rcases hx : x.run.run d with ⟨e | a, s⟩ <;> rcases hy : y.run.run d with ⟨e' | b, s'⟩ <;>
    rw [hx, hy] at h
  · obtain ⟨rfl, rfl⟩ := h
    exact ⟨rfl, rfl⟩
  · exact h.elim
  · exact h.elim
  · obtain ⟨hab, hs⟩ := h
    rw [hs]
    exact hf a b s hx hab

end EndsRel

/-! ### The select list -/

section Items

variable {e : Sql.Expr} {a : Option Sql.Ident} {n : String}

/-- An item walked for its inputs under two names. -/
theorem walked_item_aliased (m : String) (hA : ¬ (a = none ∧ (columnRef e).isSome)) (d : Detector) :
    EndsRel (fun fs gs => ∃ F G, fs = [F] ∧ gs = [G] ∧ Aliased n e a F G)
      ((walk .value e [] >>= fun inputs => pure [exprField m e inputs]).run.run d)
      ((walk .value e [] >>= fun inputs => pure [exprField n e inputs]).run.run d) := by
  refine EndsRel.bind (EndsRel.refl _) fun ins ins' s hrun hins => ?_
  subst hins
  -- the walk answered inputs exactly when the expression collects some
  have hcol : ins.isEmpty = !Sql.ReadsInputs.expr e := by
    simpa using walk_collects e [] d ins s hrun
  exact ⟨⟨_, _, rfl, rfl, Aliased.exprField hA hcol⟩, rfl⟩

/-- One item, under its old name and under `n`. -/
theorem selectItem_aliased (e : Sql.Expr) (a : Option Sql.Ident) (n : Sql.Ident) (d : Detector) :
    EndsRel (fun fs gs => ∃ F G, fs = [F] ∧ gs = [G] ∧ Aliased n.value e a F G)
      ((selectItem (.expr e a)).run.run d) ((selectItem (.expr e (some n))).run.run d) := by
  rcases a with _ | m <;> rcases hc : columnRef e with _ | ref
  · simp only [selectItem, hc]
    exact walked_item_aliased _ (by simp [hc]) d
  · -- an unaliased column, against the walk that adds just that column
    simp only [selectItem, hc]
    rw [Run.run_bind, walk_of_columnRef hc]
    have hG : exprField n.value e (addInput (Field.ofColumn ref.column ref) []) =
        .derived n.value [Field.ofColumn ref.column ref] .aliased := by
      simp [addInput, exprField_of_columnRef hc]
    exact ⟨⟨_, _, rfl, by rw [hG], .wrap rfl (by simp [hc])⟩, rfl⟩
  · simp only [selectItem]
    exact walked_item_aliased _ (by simp) d
  · simp only [selectItem]
    exact walked_item_aliased _ (by simp) d

/-- A select list with one item renamed: the same run, and outputs that
differ in that item's output. -/
theorem selectItems_aliased (before after : List Sql.SelectItem) (e : Sql.Expr)
    (a : Option Sql.Ident) (n : Sql.Ident) (d : Detector) :
    EndsRel (AliasedAt n.value e a) ((selectItems (before ++ .expr e a :: after)).run.run d)
      ((selectItems (before ++ .expr e (some n) :: after)).run.run d) := by
  induction before generalizing d with
  | nil =>
    simp only [List.nil_append, selectItems]
    refine EndsRel.bind (selectItem_aliased e a n d) ?_
    rintro _ _ s - ⟨F, G, rfl, rfl, hFG⟩
    refine EndsRel.bind (EndsRel.refl _) fun more more' s' _ hmore => ?_
    subst hmore
    exact ⟨⟨[], F, G, more, rfl, rfl, hFG⟩, rfl⟩
  | cons item before ih =>
    simp only [List.cons_append, selectItems]
    refine EndsRel.bind (EndsRel.refl _) fun fs fs' s _ hfs => ?_
    subst hfs
    refine EndsRel.bind (ih s) ?_
    rintro _ _ s' - ⟨pb, F, G, pa, rfl, rfl, hFG⟩
    exact ⟨⟨fs ++ pb, F, G, pa, by simp, by simp, hFG⟩, rfl⟩

end Items

/-! ### Placing the renamed output -/

section Placing

variable {n : String} {e : Sql.Expr} {a : Option Sql.Ident}

theorem placeFields_append (cat : Catalog) (A : ScopeArena) (id : Nat) (xs ys : List Field) :
    Bindings.placeFields cat A id (xs ++ ys) =
      ((Bindings.placeFields cat A id xs).1 ++ (Bindings.placeFields cat A id ys).1,
        (Bindings.placeFields cat A id xs).2.1 ++ (Bindings.placeFields cat A id ys).2.1,
        (Bindings.placeFields cat A id xs).2.2 ++ (Bindings.placeFields cat A id ys).2.2) := by
  induction xs with
  | nil => simp [Bindings.placeFields]
  | cons x xs ih => simp [Bindings.placeFields, ih]

/-- Placed, a renamed output is the placed output renamed, with the same
warnings and events: its inputs are placed as they were. -/
theorem Aliased.place {F G : Field} (h : Aliased n e a F G) (cat : Catalog) (A : ScopeArena)
    (id : Nat) :
    Aliased n e a (Bindings.placeField cat A id F).1 (Bindings.placeField cat A id G).1 ∧
      (Bindings.placeField cat A id G).2 = (Bindings.placeField cat A id F).2 := by
  cases h with
  | wrap ha hs =>
    refine ⟨?_, by simp [Bindings.placeField, Bindings.placeFields]⟩
    simp only [Bindings.placeField, Bindings.placeFields, List.append_nil]
    exact .wrap ha hs
  | derived hA hr =>
    refine ⟨?_, by simp [Bindings.placeField]⟩
    simp only [Bindings.placeField]
    exact .derived hA hr
  | constant hA hr =>
    refine ⟨?_, by simp [Bindings.placeField]⟩
    simp only [Bindings.placeField]
    exact .constant hA hr

theorem AliasedAt.place {fs gs : List Field} (h : AliasedAt n e a fs gs) (cat : Catalog)
    (A : ScopeArena) (id : Nat) :
    AliasedAt n e a (Bindings.placeFields cat A id fs).1 (Bindings.placeFields cat A id gs).1 ∧
      (Bindings.placeFields cat A id gs).2 = (Bindings.placeFields cat A id fs).2 := by
  obtain ⟨pb, F, G, pa, rfl, rfl, hFG⟩ := h
  obtain ⟨hplaced, hnotes⟩ := hFG.place cat A id
  rcases hF : Bindings.placeField cat A id F with ⟨F', wF, eF⟩
  rcases hG : Bindings.placeField cat A id G with ⟨G', wG, eG⟩
  rw [hF, hG] at hplaced hnotes
  obtain ⟨rfl, rfl⟩ := Prod.mk.inj hnotes
  simp only [placeFields_append, Bindings.placeFields, hF, hG]
  exact ⟨⟨_, _, _, _, rfl, rfl, hplaced⟩, trivial⟩

/-- Completing a scope whose outputs were replaced: the outputs placed are
the replacements, read against the same arena. -/
theorem finalize_setFields_self {cat : Catalog} {A : ScopeArena} {id : Nat} {S : Scope}
    (hS : A.get? id = some S) (gs : List Field) :
    Bindings.finalize cat (A.setFields id gs) id =
      ((Bindings.finalize cat A id).1.setFields id
          (Bindings.placeFields cat (A.modify id fun s => { s with fields := [] }) id gs).1,
        (Bindings.placeFields cat (A.modify id fun s => { s with fields := [] }) id gs).2) := by
  unfold Bindings.finalize
  rw [ScopeArena.get?_setFields_self, hS]
  -- setting the outputs aside forgets the replacements, and placing sets them again
  simp only [Option.map_some, ScopeArena.setFields, ScopeArena.modify_modify]
  rfl

/-- Completing the scope whose outputs differ in the renamed one: the placed
outputs differ in the same way, with the same warnings and events. -/
theorem finalize_aliased (cat : Catalog) {A : ScopeArena} {id : Nat} {S : Scope}
    (hS : A.get? id = some S) {gs : List Field} (h : AliasedAt n e a S.fields gs) :
    ∃ gs', Bindings.finalize cat (A.setFields id gs) id =
        ((Bindings.finalize cat A id).1.setFields id gs', (Bindings.finalize cat A id).2) ∧
      ∃ S', (Bindings.finalize cat A id).1.get? id = some S' ∧ AliasedAt n e a S'.fields gs' := by
  obtain ⟨hplaced, hnotes⟩ := h.place cat (A.modify id fun s => { s with fields := [] }) id
  refine ⟨(Bindings.placeFields cat (A.modify id fun s => { s with fields := [] }) id gs).1, ?_, ?_⟩
  · rw [finalize_setFields_self hS, hnotes]
    simp only [Bindings.finalize, hS]
  · rw [Bindings.finalize_arena, hS]
    exact ⟨_, by rw [ScopeArena.get?_modify_self, hS]; rfl, hplaced⟩

end Placing

/-! ### Runs that end alike -/

section Alike

variable {α β γ δ : Type}

/-- From `d`, `y` ends as `x` does, with the outputs of one scope `r`
replaced by `fs`; when `x` succeeds, `Q` relates its answer and detector to
`r` and `fs`. -/
def EndsAlike (Q : α → Detector → Nat → List Field → Prop) (x y : Detect α) (d : Detector) :
    Prop :=
  ∃ r fs, y.run.run d = ((x.run.run d).1, (x.run.run d).2.setFields r fs) ∧
    ∀ a d₁, x.run.run d = (.ok a, d₁) → Q a d₁ r fs

/-- From `d` with the outputs of `r` replaced by `fs`, `x` ends as it does
from `d`, with the outputs of `r` replaced by some `fs'`; when `x` succeeds,
`Q` relates its answer and detector to `r` and `fs'`. -/
def EndsAlikeFrom (Q : α → Detector → Nat → List Field → Prop) (x : Detect α) (d : Detector)
    (r : Nat) (fs : List Field) : Prop :=
  ∃ fs', x.run.run (d.setFields r fs) = ((x.run.run d).1, (x.run.run d).2.setFields r fs') ∧
    ∀ a d₁, x.run.run d = (.ok a, d₁) → Q a d₁ r fs'

variable {Q : α → Detector → Nat → List Field → Prop} {Q' : β → Detector → Nat → List Field → Prop}
  {d : Detector} {r : Nat} {fs : List Field}

/-- Steps that end in one detector, then steps that end alike. -/
theorem EndsAlike.bind_rel {R : γ → δ → Prop} {x : Detect γ} {y : Detect δ} {f : γ → Detect α}
    {g : δ → Detect α} (h : EndsRel R (x.run.run d) (y.run.run d))
    (hf : ∀ a b d₁, x.run.run d = (.ok a, d₁) → R a b → EndsAlike Q (f a) (g b) d₁) :
    EndsAlike Q (x >>= f) (y >>= g) d := by
  rcases hx : x.run.run d with ⟨e | a, d₁⟩ <;> rcases hy : y.run.run d with ⟨e' | b, d₁'⟩ <;>
    rw [hx, hy] at h
  · -- one failure: nothing is replaced
    obtain ⟨rfl, rfl⟩ := h
    refine ⟨d₁'.arena.size, [], ?_, fun c d₂ hc => ?_⟩
    · rw [Run.run_bind, Run.run_bind, hx, hy, Detector.setFields_size]
    · rw [Run.run_bind, hx] at hc
      cases hc
  · exact h.elim
  · exact h.elim
  · obtain ⟨hab, hd⟩ := h
    subst hd
    obtain ⟨r, fs, heq, hQ⟩ := hf a b _ hx hab
    refine ⟨r, fs, ?_, fun c d₂ hc => ?_⟩
    · rw [Run.run_bind, Run.run_bind, hx, hy]
      exact heq
    · rw [Run.run_bind, hx] at hc
      exact hQ c d₂ hc

/-- Runs that end alike, then the same steps, which replacing the outputs
does not disturb. -/
theorem EndsAlike.bind_commutes {x y : Detect α} {f : α → Detect β} (h : EndsAlike Q x y d)
    (hf : ∀ a r, Commutes r (f a))
    (hQ : ∀ a d₁ b d₂ r fs, x.run.run d = (.ok a, d₁) → (f a).run.run d₁ = (.ok b, d₂) →
      Q a d₁ r fs → Q' b d₂ r fs) :
    EndsAlike Q' (x >>= f) (y >>= f) d := by
  obtain ⟨r, fs, heq, hQx⟩ := h
  refine ⟨r, fs, ?_, fun b d₂ hb => ?_⟩
  · rw [Run.run_bind, Run.run_bind, heq]
    rcases x.run.run d with ⟨e | a, d₁⟩
    · rfl
    · exact hf a r d₁ fs
  · obtain ⟨a, d₁, hx, hfa⟩ := run_bind_ok hb
    exact hQ a d₁ b d₂ r fs hx hfa (hQx a d₁ hx)

/-- Runs that end alike, with a handler of their failures that fails again
and that replacing the outputs does not disturb. -/
theorem EndsAlike.tryCatch {x y : Detect α} {h : LineageError → Detect α} (hxy : EndsAlike Q x y d)
    (hh : ∀ e r, Commutes r (h e)) (hfail : ∀ e t, ∃ e' t', (h e).run.run t = (.error e', t')) :
    EndsAlike Q (tryCatch x h) (tryCatch y h) d := by
  obtain ⟨r, fs, heq, hQx⟩ := hxy
  refine ⟨r, fs, ?_, fun a d₁ ha => hQx a d₁ (run_tryCatch_ok hfail ha)⟩
  rw [run_tryCatch, run_tryCatch, heq]
  rcases x.run.run d with ⟨e | a, d₁⟩
  · exact hh e r d₁ fs
  · rfl

/-- A step that ends in `d₁` from `d`, and in `d₁` with the outputs of `r`
replaced by `fs` in the other run, then steps that end alike from there. -/
theorem EndsAlike.of_from {x y : Detect γ} {f : γ → Detect α} {d₁ : Detector} {c : γ}
    (hx : x.run.run d = (.ok c, d₁)) (hy : y.run.run d = (.ok c, d₁.setFields r fs))
    (hf : EndsAlikeFrom Q (f c) d₁ r fs) : EndsAlike Q (x >>= f) (y >>= f) d := by
  obtain ⟨fs', heq, hQ⟩ := hf
  refine ⟨r, fs', ?_, fun a d₂ ha => ?_⟩
  · rw [Run.run_bind, Run.run_bind, hx, hy]
    exact heq
  · rw [Run.run_bind, hx] at ha
    exact hQ a d₂ ha

/-- A step that sets the outputs of `r` aside, then steps that end alike. -/
theorem EndsAlikeFrom.ignores_bind {pre : Detector → Prop} {x : Detect γ} {f : γ → Detect α}
    (hx : Ignores r pre x) (hd : d.Valid) (hr : r ∈ d.arena.stack) (hp : pre d)
    (hf : ∀ c d₁, x.run.run d = (.ok c, d₁) → EndsAlikeFrom Q (f c) d₁ r fs) :
    EndsAlikeFrom Q (x >>= f) d r fs := by
  have hxr := hx d fs hd hr hp
  rcases h₁ : x.run.run d with ⟨e | c, d₁⟩
  · refine ⟨fs, ?_, fun a d₂ h => ?_⟩
    · rw [Run.run_bind, Run.run_bind, hxr, h₁]
    · rw [Run.run_bind, h₁] at h
      cases h
  · obtain ⟨fs', heq, hQ⟩ := hf c d₁ h₁
    refine ⟨fs', ?_, fun a d₂ h => ?_⟩
    · rw [Run.run_bind, Run.run_bind, hxr, h₁]
      exact heq
    · rw [Run.run_bind, h₁] at h
      exact hQ a d₂ h

/-- Steps that end alike, then steps that replacing the outputs does not
disturb. -/
theorem EndsAlikeFrom.bind_commutes {x : Detect α} {f : α → Detect β} (hx : EndsAlikeFrom Q x d r fs)
    (hf : ∀ a, Commutes r (f a))
    (hQ : ∀ a d₁ b d₂ fs', x.run.run d = (.ok a, d₁) → (f a).run.run d₁ = (.ok b, d₂) →
      Q a d₁ r fs' → Q' b d₂ r fs') :
    EndsAlikeFrom Q' (x >>= f) d r fs := by
  obtain ⟨fs', heq, hQx⟩ := hx
  refine ⟨fs', ?_, fun b d₂ hb => ?_⟩
  · rw [Run.run_bind, Run.run_bind, heq]
    rcases x.run.run d with ⟨e | a, d₁⟩
    · rfl
    · exact hf a d₁ fs'
  · obtain ⟨a, d₁, hx, hfa⟩ := run_bind_ok hb
    exact hQ a d₁ b d₂ fs' hx hfa (hQx a d₁ hx)

end Alike

/-! ### The SELECT -/

section Select

variable {n : String} {e : Sql.Expr} {a : Option Sql.Ident}

/-- Scope `r` of `d` has the outputs that naming the item turns into `fs`. -/
def OutputsAliased (n : String) (e : Sql.Expr) (a : Option Sql.Ident) (d : Detector) (r : Nat)
    (fs : List Field) : Prop :=
  ∃ S, d.arena.get? r = some S ∧ AliasedAt n e a S.fields fs

/-- A quiet step keeps an open scope open and as it was. -/
theorem Detector.Quiet.keeps_open {d d' : Detector} {r : Nat} (h : d.Quiet none d') (hv : d.Valid)
    (hr : r ∈ d.arena.stack) : r ∈ d'.arena.stack ∧ d'.arena.get? r = d.arena.get? r := by
  refine ⟨?_, h.1.scopes r (hv.shaped.stack_lt hr) (by simp)⟩
  rw [h.1.stack]
  exact hr

theorem get?_of_exit_ok {d d' : Detector} {i : Nat} (h : exit.run.run d = (.ok i, d')) :
    d'.arena.get? = d.arena.get? := by
  rw [run_exit] at h
  split at h
  · cases h
  · cases h
    rfl

/-- Completing the scope of the outputs that differ places outputs that
differ in the same way. -/
theorem endsAlikeFrom_finalize {d : Detector} {id : Nat} {S : Scope}
    (hS : d.arena.get? id = some S) {fs : List Field} (h : AliasedAt n e a S.fields fs) :
    EndsAlikeFrom (fun _ d r fs => OutputsAliased n e a d r fs) (finalize id) d id fs := by
  obtain ⟨gs, heq, S', hS', hA⟩ := finalize_aliased d.catalog hS h
  refine ⟨gs, ?_, fun _ d₁ h₁ => ?_⟩
  · rw [run_finalize, run_finalize]
    simp only [Detector.arena_setFields, Detector.catalog_setFields, Detector.warnings_setFields,
      Detector.events_setFields, heq]
    rfl
  · rw [run_finalize] at h₁
    cases h₁
    exact ⟨S', hS', hA⟩

/-- The steps of a SELECT once its outputs are set: walking the conditions
sets the outputs aside, and completing the scope places them. -/
theorem select_rest_aliased (sel having : Option Sql.Expr) {id : Nat} {d : Detector} {S : Scope}
    (hd : d.Valid) (hid : id ∈ d.arena.stack) (hS : d.arena.get? id = some S) {gs : List Field}
    (hA : AliasedAt n e a S.fields gs) :
    EndsAlikeFrom (fun id' d r fs => r = id' ∧ OutputsAliased n e a d r fs)
      (walkOpt .predicate sel [] >>= fun _ => walkOpt .predicate having [] >>= fun _ =>
        finalize id >>= fun _ => exit >>= fun _ => pure id) d id gs := by
  refine EndsAlikeFrom.ignores_bind (walkOpt_ignores id .predicate sel []) hd hid
    (Detector.ReadsDone.nil _) fun _ d₁ h₁ => ?_
  obtain ⟨hv₁, hq₁, -⟩ := walkOpt_keeps .predicate sel [] _ _ _ hd (Detector.ReadsDone.nil _) h₁
  obtain ⟨hid₁, hS₁⟩ := hq₁.keeps_open hd hid
  refine EndsAlikeFrom.ignores_bind (walkOpt_ignores id .predicate having []) hv₁ hid₁
    (Detector.ReadsDone.nil _) fun _ d₂ h₂ => ?_
  obtain ⟨-, hq₂, -⟩ := walkOpt_keeps .predicate having [] _ _ _ hv₁ (Detector.ReadsDone.nil _) h₂
  obtain ⟨-, hS₂⟩ := hq₂.keeps_open hv₁ hid₁
  refine EndsAlikeFrom.bind_commutes (endsAlikeFrom_finalize (by rw [hS₂, hS₁, hS]) hA)
    (fun _ => Commutes.bind commutes_exit fun _ => Commutes.pure _) ?_
  -- closing the scope keeps its outputs
  intro _ d₃ _ d₄ gs' _ h₄ hQ
  obtain ⟨_, d₃', hexit, hpure⟩ := run_bind_ok h₄
  cases hpure
  refine ⟨rfl, ?_⟩
  unfold OutputsAliased
  rw [get?_of_exit_ok hexit]
  exact hQ

/-- Naming one item of a SELECT: the walk ends as before, with the outputs
of the SELECT's scope replaced by outputs that differ as `AliasedAt` says. -/
theorem select_aliased (kind : ScopeKind) (aliasName : Option String) (head into mid grp tail : String)
    (before after : List Sql.SelectItem) (e : Sql.Expr) (a : Option Sql.Ident) (n : Sql.Ident)
    (from_ : List Sql.TableWithJoins) (sel having : Option Sql.Expr) {d : Detector} (hd : d.Valid) :
    EndsAlike (fun id d₁ r fs => r = id ∧ OutputsAliased n.value e a d₁ r fs)
      (select kind aliasName (.mk head (before ++ .expr e a :: after) into from_ mid sel grp having tail))
      (select kind aliasName
        (.mk head (before ++ .expr e (some n) :: after) into from_ mid sel grp having tail)) d := by
  simp only [select]
  refine EndsAlike.bind_rel (EndsRel.refl _) fun id _ d₁ h₁ hid => ?_
  subst hid
  obtain ⟨rfl, rfl⟩ := enter_ok h₁
  refine EndsAlike.bind_rel (EndsRel.refl _) fun _ _ d₂ h₂ _ => ?_
  obtain ⟨hv₂, hq₂, -⟩ := fromClause_keeps from_ _ _ _ (hd.push kind aliasName) trivial h₂
  refine EndsAlike.bind_rel (selectItems_aliased before after e a n d₂) fun fs gs d₃ h₃ hA => ?_
  obtain ⟨hv₃, hq₃, hfs⟩ := selectItems_keeps _ _ _ _ hv₂ trivial h₃
  -- the new scope is still open; its outputs are set to `fs`, or to `gs`
  have hid : d.arena.size ∈ d₃.arena.stack := by
    rw [hq₃.1.stack, hq₂.1.stack]
    exact List.mem_cons_self
  obtain ⟨S, hS⟩ := ScopeArena.exists_get?_of_lt (hv₃.shaped.stack_lt hid)
  have h₄ := run_modifyScope d.arena.size (fun s => { s with fields := fs }) d₃
  rw [if_neg (by simp [hS])] at h₄
  have h₄' : (modifyScope d.arena.size fun s => { s with fields := gs }).run.run d₃ =
      (.ok (), ({ d₃ with arena := d₃.arena.modify d.arena.size fun s => { s with fields := fs } } :
        Detector).setFields d.arena.size gs) := by
    rw [run_modifyScope, if_neg (by simp [hS])]
    simp only [Detector.setFields, ScopeArena.setFields, ScopeArena.modify_modify]
    rfl
  obtain ⟨hv₄, -, -⟩ := keeps_fill _ fs _ _ _ hv₃ hfs h₄
  exact EndsAlike.of_from h₄ h₄' (select_rest_aliased sel having hv₄ hid
    (by rw [ScopeArena.get?_modify_self, hS]; rfl) hA)

end Select

/-! ### The query and the statement -/

section Statement

variable (head into mid grp tail : String) (before after : List Sql.SelectItem) (e : Sql.Expr)
  (a : Option Sql.Ident) (n : Sql.Ident) (from_ : List Sql.TableWithJoins) (sel having : Option Sql.Expr)

/-- Naming one item of the SELECT that is the body of a query. -/
theorem query_aliased (kind : ScopeKind) (aliasName : Option String) (recursive : Option Bool)
    (ctes : List Sql.Cte) (qtail : String) {d : Detector} (hd : d.Valid) :
    EndsAlike (fun id d₁ r fs => r = id ∧ OutputsAliased n.value e a d₁ r fs)
      (query kind aliasName (.mk recursive ctes
        (.select (.mk head (before ++ .expr e a :: after) into from_ mid sel grp having tail)) qtail))
      (query kind aliasName (.mk recursive ctes
        (.select (.mk head (before ++ .expr e (some n) :: after) into from_ mid sel grp having tail))
        qtail)) d := by
  simp only [query, setExpr]
  refine EndsAlike.bind_rel (EndsRel.refl _) fun _ _ d₁ h₁ _ => ?_
  rw [run_pushFrame] at h₁
  cases h₁
  refine EndsAlike.bind_commutes
    (EndsAlike.tryCatch (Q := fun id d₁ r fs => r = id ∧ OutputsAliased n.value e a d₁ r fs) ?_
      (fun _ _ => Commutes.bind commutes_popFrame fun _ => Commutes.throw _)
      (fun e t => ⟨e, _, run_popFrame_throw e t⟩))
    (fun id _ => Commutes.bind commutes_popFrame fun _ => Commutes.pure id) ?_
  · refine EndsAlike.bind_rel (EndsRel.refl _) fun _ _ d₂ h₂ _ => ?_
    obtain ⟨hv₂, -, -⟩ := withClause_keeps ctes _ _ _ hd.pushFrame trivial h₂
    exact select_aliased kind aliasName head into mid grp tail before after e a n from_ sel having hv₂
  · -- closing the frame keeps the scopes
    intro _ _ _ _ _ _ _ h hQ
    rw [Run.run_bind, run_popFrame] at h
    cases h
    exact hQ

/-- Naming one item of the SELECT of a query statement: the walk from a new
detector ends as before, with the outputs of its root scope replaced. -/
theorem detect_aliased (cat : Catalog) (m : Nat) (recursive : Option Bool) (ctes : List Sql.Cte)
    (qtail : String) :
    EndsAlike (fun _ d₁ r fs => d₁.root = some r ∧ OutputsAliased n.value e a d₁ r fs)
      (statement (.query (.mk recursive ctes
        (.select (.mk head (before ++ .expr e a :: after) into from_ mid sel grp having tail)) qtail)))
      (statement (.query (.mk recursive ctes
        (.select (.mk head (before ++ .expr e (some n) :: after) into from_ mid sel grp having tail))
        qtail))) (Detector.new cat m) := by
  simp only [statement]
  refine EndsAlike.bind_rel (EndsRel.refl _) fun _ _ d₁ h₁ hs => ?_
  subst hs
  rw [run_get] at h₁
  cases h₁
  rw [if_neg (by simp [Detector.new])]
  refine EndsAlike.bind_rel (EndsRel.refl _) fun _ _ d₂ h₂ _ => ?_
  rw [run_modify] at h₂
  cases h₂
  -- recording the root and checking that every scope is closed read no outputs
  refine EndsAlike.bind_commutes (query_aliased head into mid grp tail before after e a n from_ sel
      having .query none recursive ctes qtail (Detector.valid_start cat m))
    (fun _ _ => Commutes.bind (fun _ _ => rfl) fun _ => Commutes.get_bind (fun _ _ => rfl) fun _ => by
      split
      exacts [Commutes.throw _, Commutes.pure _]) ?_
  intro id d₃ _ d₄ r fs _ h₄ hQ
  obtain ⟨hr, hO⟩ := hQ
  obtain ⟨_, d₃', hroot, h₄⟩ := run_bind_ok h₄
  rw [run_modify] at hroot
  cases hroot
  rw [run_bind_of_ok (run_get _)] at h₄
  split at h₄
  · cases h₄
  · cases h₄
    exact ⟨by rw [hr], hO⟩

end Statement

/-! ### Following the renamed output -/

/-- The lineage entry of the item once it is named `n`: the new name; the
sources of the old entry, unless the item collects no input, when its one
literal source takes the new name; and `aliased` for a column that had no
alias. -/
def renamedEntry (n : String) (e : Sql.Expr) (a : Option Sql.Ident) (entry : TargetLineage) :
    TargetLineage where
  target := { entry.target with field := n }
  sources := if Sql.ReadsInputs.expr e then entry.sources
    else [{ table := none, field := n, kind := .literal }]
  transformation := if a.isNone && (columnRef e).isSome then .aliased else entry.transformation

section Resolving

variable {n : String} {e : Sql.Expr} {a : Option Sql.Ident} {F G : Field}

theorem Resolve.fields_singleton (A : ScopeArena) (m d : Nat) (f : Field) :
    Resolve.fields A m d [f] = Resolve.field A m d f := by
  simp [Resolve.fields, SourceSet.union_nil]

/-- The entry of the renamed output is the renamed entry. -/
theorem Aliased.entry (h : Aliased n e a F G) (t : Option TableName) (s : SourceSet) :
    ({ target := { table := t, field := G.name },
       sources := if Sql.ReadsInputs.expr e then s
         else [{ table := none, field := n, kind := .literal }],
       transformation := G.process } : TargetLineage) =
      renamedEntry n e a
        { target := { table := t, field := F.name }, sources := s, transformation := F.process } := by
  cases h with
  | wrap ha hc => simp [renamedEntry, Field.name, Field.process, ha, hc]
  | derived hA _ =>
    simp only [not_and, Bool.not_eq_true, Option.isSome_eq_false_iff] at hA
    cases ha : a <;> simp_all [renamedEntry, Field.name, Field.process]
  | constant hA _ =>
    simp only [not_and, Bool.not_eq_true, Option.isSome_eq_false_iff] at hA
    cases ha : a <;> simp_all [renamedEntry, Field.name, Field.process]

variable {A : ScopeArena} {order : List Nat} {r : Nat} {gs : List Field}

/-- Following the renamed output in the arena whose outputs of `r` are
replaced: the sources of the old output, or the literal of the new name. -/
theorem Aliased.sourcesOf (h : Aliased n e a F G) (ho : A.ClosingOrder order) (m : Nat)
    (hF : Field.LeavesWithin (fun k => A.Done k ∧ order.idxOf k < order.idxOf r) [F])
    (σ : ResolverState) :
    (sourcesOf (A.setFields r gs) m G).run.run σ =
      (((sourcesOf A m F).run.run σ).1.map fun s => if Sql.ReadsInputs.expr e then s
          else [{ table := none, field := n, kind := .literal }],
        ((sourcesOf A m F).run.run σ).2) := by
  unfold ColumnLineage.sourcesOf
  cases h with
  | wrap _ hc =>
    -- the new output is computed from the old one alone
    obtain ⟨ref, href⟩ := Option.isSome_iff_exists.mp hc
    rw [Resolve.field, Resolve.fields_singleton, ho.field_setFields m 0 _ hF,
      readsInputs_of_columnRef href]
    rcases (Resolve.field A m 0 F).run.run σ with ⟨_ | _, _⟩ <;> rfl
  | @derived m' ins p _ hr =>
    -- both outputs are computed from the same inputs
    have hsame : Resolve.field (A.setFields r gs) m 0 (.derived n ins p) =
        Resolve.field (A.setFields r gs) m 0 (.derived m' ins p) := by
      simp only [Resolve.field]
    rw [hsame, ho.field_setFields m 0 _ hF, hr]
    rcases (Resolve.field A m 0 (.derived m' ins p)).run.run σ with ⟨_ | _, _⟩ <;> rfl
  | constant _ hr =>
    rw [hr]
    simp only [Resolve.field]
    rfl

/-- Following an output that refers only to scopes closed before `r`, in an
arena whose outputs of `r` are replaced. -/
theorem ScopeArena.ClosingOrder.sourcesOf_setFields (ho : A.ClosingOrder order) (m : Nat) {f : Field}
    (hf : Field.LeavesWithin (fun k => A.Done k ∧ order.idxOf k < order.idxOf r) [f]) :
    sourcesOf (A.setFields r gs) m f = sourcesOf A m f :=
  ho.field_setFields m 0 f hf

/-- Outputs that refer only to scopes closed before `r` are followed alike,
whatever the outputs of `r`. -/
theorem resolveOutputs_setFields (ho : A.ClosingOrder order) (m : Nat) (t : Option TableName) :
    ∀ xs : List (Field × String),
      Field.LeavesWithin (fun k => A.Done k ∧ order.idxOf k < order.idxOf r) (xs.map Prod.fst) →
      resolveOutputs (A.setFields r gs) m t xs = resolveOutputs A m t xs
  | [], _ => rfl
  | (f, name) :: rest, h => by
    simp only [resolveOutputs, ho.sourcesOf_setFields m h.head,
      resolveOutputs_setFields ho m t rest h.tail]

/-- Following the outputs with the renamed one in place of the old: the
lineage with its entry renamed, the same failure and the same state. -/
theorem resolveOutputs_aliased (h : Aliased n e a F G) (ho : A.ClosingOrder order) (m : Nat)
    (t : Option TableName) (pa : List Field) :
    ∀ (pb : List Field) (σ : ResolverState),
      Field.LeavesWithin (fun k => A.Done k ∧ order.idxOf k < order.idxOf r) (pb ++ F :: pa) →
      (resolveOutputs (A.setFields r gs) m t ((pb ++ G :: pa).map fun f => (f, f.name))).run.run σ =
        (((resolveOutputs A m t ((pb ++ F :: pa).map fun f => (f, f.name))).run.run σ).1.map
            fun res => (res.1.modify pb.length (renamedEntry n e a), res.2),
          ((resolveOutputs A m t ((pb ++ F :: pa).map fun f => (f, f.name))).run.run σ).2)
  | [], σ, hK => by
    have hpa : Field.LeavesWithin (fun k => A.Done k ∧ order.idxOf k < order.idxOf r)
        ((pa.map fun f => (f, f.name)).map Prod.fst) := by
      simpa [List.map_map, Function.comp_def] using hK.tail
    simp only [List.nil_append, List.map_cons]
    rw [run_resolveOutputs_cons, run_resolveOutputs_cons, h.sourcesOf ho m hK.head σ]
    rcases (sourcesOf A m F).run.run σ with ⟨err | s, σ₁⟩
    · rfl
    · dsimp only [Except.map]
      rw [resolveOutputs_setFields ho m t _ hpa]
      rcases (resolveOutputs A m t (pa.map fun f => (f, f.name))).run.run σ₁ with
        ⟨err | ⟨more, err⟩, σ₂⟩
      · rfl
      · simp [h.entry]
  | f :: pb, σ, hK => by
    simp only [List.cons_append, List.map_cons]
    rw [run_resolveOutputs_cons, run_resolveOutputs_cons, ho.sourcesOf_setFields m hK.head]
    rcases (sourcesOf A m f).run.run σ with ⟨err | s, σ₁⟩
    · rfl
    · dsimp only
      rw [resolveOutputs_aliased h ho m t pa pb σ₁ hK.tail]
      rcases (resolveOutputs A m t ((pb ++ F :: pa).map fun f => (f, f.name))).run.run σ₁ with
        ⟨err | ⟨more, err⟩, σ₂⟩
      · rfl
      · simp [Except.map]

end Resolving

/-! ### The lineage of the renamed item -/

/-- `R'` reports what `R` does with one lineage entry renamed as
`renamedEntry` says, an entry that exists when `R` reports no error: the
same warnings, the same error and every other entry as it was. -/
def RenamedReport (n : String) (e : Sql.Expr) (a : Option Sql.Ident) (R R' : StatementReport) :
    Prop :=
  R'.warnings = R.warnings ∧ R'.error = R.error ∧
    ∃ j, R'.lineage = R.lineage.modify j (renamedEntry n e a) ∧
      (R.error = none → j < R.lineage.length)

section Main

variable (head into mid grp tail : String) (before after : List Sql.SelectItem) (e : Sql.Expr)
  (a : Option Sql.Ident) (n : Sql.Ident) (from_ : List Sql.TableWithJoins) (sel having : Option Sql.Expr)

/-- **Naming a select item.** In a query statement whose body is one SELECT,
the item `e` (or `e AS m`) becoming `e AS n` changes its lineage entry as
`renamedEntry` says and nothing else of the report. -/
theorem aliased_item_lineage (cat : Catalog) (m idx : Nat) (recursive : Option Bool)
    (ctes : List Sql.Cte) (qtail : String) :
    RenamedReport n.value e a
      (analyzeStatement cat m idx (.query (.mk recursive ctes
        (.select (.mk head (before ++ .expr e a :: after) into from_ mid sel grp having tail)) qtail)))
      (analyzeStatement cat m idx (.query (.mk recursive ctes
        (.select (.mk head (before ++ .expr e (some n) :: after) into from_ mid sel grp having tail))
        qtail))) := by
  obtain ⟨r, gs, hdet, hQ⟩ := detect_aliased head into mid grp tail before after e a n from_ sel
    having cat m recursive ctes qtail
  unfold analyzeStatement Detector.detect
  rw [hdet]
  rcases hd : (statement (.query (.mk recursive ctes (.select
    (.mk head (before ++ .expr e a :: after) into from_ mid sel grp having tail)) qtail))).run.run
    (Detector.new cat m) with ⟨err | u, d⟩
  · -- the walk failed: no lineage, and the same warnings and error
    exact ⟨rfl, rfl, 0, rfl, fun h => by cases h⟩
  cases u
  obtain ⟨hroot, S, hS, pb, F, G, pa, hfs, hgs, hA⟩ := hQ _ d hd
  obtain ⟨-, -, hstack, hsound⟩ := detect_sound hd
  obtain ⟨order, ho⟩ := hsound.order
  -- the root is done, and no target names its outputs
  have hdone : d.arena.Done r := ⟨ScopeArena.lt_size_of_get? hS, by simp [hstack]⟩
  obtain ⟨r₀, s₁, hq, -, hd₁⟩ := detect_query_run hd
  obtain ⟨-, hquiet, -⟩ := query_keeps .query none _ _ r₀ s₁ (Detector.valid_start cat m) trivial hq
  have htarget : d.target = none := by
    rw [hd₁]
    exact hquiet.1.target
  have hK : Field.LeavesWithin (fun k => d.arena.Done k ∧ order.idxOf k < order.idxOf r)
      (pb ++ F :: pa) := hfs ▸ ho.leaves hdone hS
  dsimp only
  simp only [Detector.root_setFields, Detector.arena_setFields, Detector.target_setFields,
    Detector.warnings_setFields, hroot, Option.bind_some, ScopeArena.get?_setFields_self, hS,
    Option.map_some, htarget, targetNames, Option.isSome_none, Bool.false_eq_true, if_false,
    Option.bind_none]
  -- following the outputs: the renamed one gives the renamed entry
  rw [← List.map_prod_left_eq_zip, ← List.map_prod_left_eq_zip, hgs, hfs,
    resolveOutputs_aliased hA ho m none pa pb {} hK]
  rcases hres : (resolveOutputs d.arena m none ((pb ++ F :: pa).map fun f => (f, f.name))).run.run {}
    with ⟨err | ⟨L, err⟩, σ⟩
  · exact ⟨rfl, rfl, 0, rfl, fun h => by cases h⟩
  refine ⟨rfl, rfl, pb.length, rfl, fun h => ?_⟩
  cases err with
  | some _ => cases h
  | none =>
    -- with no failure every output has its entry
    rw [List.map_prod_left_eq_zip] at hres
    have hlen := congrArg List.length (mapM_of_resolveOutputs (List.length_map _).symm hres).2.1
    simp only [List.length_map, List.length_append, List.length_cons] at hlen
    show pb.length < L.length
    omega

/-- `SELECT a FROM t`, with the item named when `aliasName` is given. -/
def selectColumnA (aliasName : Option Sql.Ident) : Sql.Statement :=
  .query (.mk none [] (.select (.mk "" [.expr (.identifier { value := "a" }) aliasName] ""
    [.mk (.table [{ value := "t" }] "" none "") []] "" none "" none "")) "")

/-- Naming a column changes more than the name of its output: read straight
from the column without an alias, the output is computed from it once named,
from the same source. -/
theorem naming_column_changes_transformation :
    (analyzeStatement {} 3 0 (selectColumnA none)).lineage =
        [{ target := { table := none, field := "a" }
           sources := [{ table := some { database := none, name := "t" }, field := "a" }]
           transformation := .direct }] ∧
      (analyzeStatement {} 3 0 (selectColumnA (some { value := "b" }))).lineage =
        [{ target := { table := none, field := "b" }
           sources := [{ table := some { database := none, name := "t" }, field := "a" }]
           transformation := .aliased }] := by
  have h₁ : Resolve.Bounded.lineageOf 4 {} 3 (selectColumnA none) =
      some ([{ target := { table := none, field := "a" }
               sources := [{ table := some { database := none, name := "t" }, field := "a" }]
               transformation := .direct }], none) := by
    decide +kernel
  have h₂ : Resolve.Bounded.lineageOf 4 {} 3 (selectColumnA (some { value := "b" })) =
      some ([{ target := { table := none, field := "b" }
               sources := [{ table := some { database := none, name := "t" }, field := "a" }]
               transformation := .aliased }], none) := by
    decide +kernel
  exact ⟨(Resolve.Bounded.lineageOf_eq h₁ 0).1, (Resolve.Bounded.lineageOf_eq h₂ 0).1⟩

end Main

end ColumnLineage
