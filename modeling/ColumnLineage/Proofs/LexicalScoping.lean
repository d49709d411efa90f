import ColumnLineage.Proofs.ScopeOutline
import ColumnLineage.Proofs.Mentions
import ColumnLineage.Proofs.ClosedWalk
/-
ColumnLineage/Proofs/LexicalScoping.lean

Where the WITH names of a statement are in reach, said by the statement's text
alone. `Lexical` reads a statement as the walk does, but with the WITH names
in reach passed down as an argument: one frame per enclosing query, innermost
first, holding the definitions made so far in its WITH clause, latest first,
each with the scope of its body. The body of a query sees all of its WITH
definitions; the body of a definition sees the ones before it; a derived
table, a subquery of an expression and an operand of a set operation see what
the query around them sees; nothing defined inside a query is seen after it.
A table reference without a database stands for the scope of the latest
definition of its name in the innermost frame that has one
(`Lexical.cteScope?`), and otherwise for the table.

The events `Lexical` lists are those of the walk: each scope opened with its
parent and kind, each name bound with what it stands for, the ids of the
scopes counted in the order they are opened. The walk keeps the names in reach
in a stack of frames that it pushes and pops around each query, also when the
query fails; the main statement (`with_names_resolve_lexically`) is that the
outline it builds is the replay of these events, of all of them when it
succeeds and of some first ones when it fails.
-/

namespace ColumnLineage

open Sql Run Detect ScopeEvent

/-- The query a statement walks, if any. -/
def Sql.Statement.query? : Statement → Option Query
  | .query q => some q
  | .insert _ _ source _ _ => source
  | .createTable _ _ q => q
  | .createView _ _ q => some q
  | .other _ => none

namespace Lexical

/-- The scope a table reference stands for, with the WITH names `E` in reach:
none for a reference with a database; otherwise the scope of the latest
definition of its name in the innermost frame that defines it. -/
def cteScope? (E : List (List (String × Nat))) (t : TableName) : Option Nat :=
  if t.database.isSome then none else E.findSome? fun frame => frame.lookup t.name

/-- What a table reference binds its name to. -/
def target (E : List (List (String × Nat))) (t : TableName) : BindingTarget :=
  match cteScope? E t with
  | some id => .scope id
  | none => .table t

/-- No events, wherever they start. -/
def none : Nat → List ScopeEvent := fun _ => []

mutual

/-- The events of a query of kind `kind` below the scope `p`, from the id `n`
on, and the id of its own scope: its WITH definitions in order, then its body,
which sees them all. -/
def query (E : List (List (String × Nat))) (p : Option Nat) (kind : ScopeKind) :
    Query → Nat → List ScopeEvent × Nat
  | .mk _ ctes body _, n =>
    let defs := withClause E p [] ctes n
    let main := setExpr (defs.2 :: E) p kind body (n + opened defs.1)
    (defs.1 ++ main.1, main.2)

/-- The events of the bodies of WITH definitions, each seeing the frame of the
definitions before it, and that frame with all of them. -/
def withClause (E : List (List (String × Nat))) (p : Option Nat) (frame : List (String × Nat)) :
    List Cte → Nat → List ScopeEvent × List (String × Nat)
  | [], _ => ([], frame)
  | .mk a q _ _ :: rest, n =>
    let body := query (frame :: E) p .cte q n
    let more := withClause E p ((a.name.value, body.2) :: frame) rest (n + opened body.1)
    (body.1 ++ more.1, more.2)

def setExpr (E : List (List (String × Nat))) (p : Option Nat) (kind : ScopeKind) :
    SetExpr → Nat → List ScopeEvent × Nat
  | .select s, n => (select E p kind s n, n)
  | .query q, n => query E p kind q n
  | .setOp l _ _ r, n =>
    let left := setExpr E (some n) .setOperand l (n + 1)
    let right := setExpr E (some n) .setOperand r (n + 1 + opened left.1)
    (.enter p kind :: (left.1 ++ (right.1 ++
      [.bind n ⟨Option.none, .scope left.2⟩, .bind n ⟨Option.none, .scope right.2⟩])), n)
  | .values _ [], n => ([.enter p (if kind == .query then .values else kind)], n)
  | .values _ (row :: _), n =>
    (.enter p (if kind == .query then .values else kind) :: exprs E (some n) .value row (n + 1), n)
  | .insert .., n | .other _, n => ([], n)

/-- A SELECT opens its scope, then walks its FROM clause, its select list and
its conditions inside it. -/
def select (E : List (List (String × Nat))) (p : Option Nat) (kind : ScopeKind) :
    Select → Nat → List ScopeEvent
  | .mk _ projection _ from_ _ selection _ having _, n =>
    .enter p kind :: seq (fromClause E n from_)
      (seq (selectItems E (some n) projection)
        (seq (opt E (some n) .predicate selection) (opt E (some n) .predicate having))) (n + 1)

def selectItems (E : List (List (String × Nat))) (p : Option Nat) :
    List SelectItem → Nat → List ScopeEvent
  | [] => none
  | item :: rest => seq (selectItem E p item) (selectItems E p rest)

def selectItem (E : List (List (String × Nat))) (p : Option Nat) : SelectItem → Nat → List ScopeEvent
  | .expr e _ => expr E p .value e
  | .wildcard .. => none

/-- The FROM clause of the scope `cur`. -/
def fromClause (E : List (List (String × Nat))) (cur : Nat) :
    List TableWithJoins → Nat → List ScopeEvent
  | [] => none
  | t :: rest => seq (tableWithJoins E cur t) (fromClause E cur rest)

def tableWithJoins (E : List (List (String × Nat))) (cur : Nat) : TableWithJoins → Nat → List ScopeEvent
  | .mk relation js => seq (factor E cur relation) (joins E cur js)

def joins (E : List (List (String × Nat))) (cur : Nat) : List Join → Nat → List ScopeEvent
  | [] => none
  | .mk _ kind relation on c :: rest =>
    -- the condition of an inner or outer join written with ON
    let condition := match c with
      | .on => if kind.readsConstraint then opt E (some cur) .predicate on else none
      | _ => none
    seq (factor E cur relation) (seq condition (joins E cur rest))

/-- A table reference binds its name to what `target` says; a derived table
opens its scope and binds its alias to it. -/
def factor (E : List (List (String × Nat))) (cur : Nat) : TableFactor → Nat → List ScopeEvent
  | .table name _ aliasName _, _ =>
    match TableName.ofParts name with
    | some t =>
      let a := match aliasName with
        | some al => al.name.value
        | Option.none => t.name
      [.bind cur ⟨some a, target E t⟩]
    | Option.none => []
  | .derived _ q aliasName, n =>
    let body := query E (some cur) .derived q n
    body.1 ++ [.bind cur ⟨aliasName.map (·.name.value), .scope body.2⟩]
  | .nestedJoin inner _, n => tableWithJoins E cur inner n
  | .other _, _ => []

/-- The events of an expression: those of the queries nested in it, in the
order the walk reaches them. -/
def expr (E : List (List (String × Nat))) (p : Option Nat) (mode : WalkMode) :
    Expr → Nat → List ScopeEvent
  | .identifier _ | .compound _ | .value _ | .typedString .. | .wildcard | .qualifiedWildcard _
  | .introduced .. | .matchAgainst .. => none
  | .isTest e _ | .unary _ e | .postOp e _ | .cast _ e _ _ | .extract _ _ e | .ceilFloor _ e _ _
  | .collate e _ | .nested e | .interval e _ | .namedArg _ _ e | .prior e | .composite e _
  | .lambda _ _ e | .outerJoin e | .named e _ => expr E p mode e
  | .isDistinctFrom a _ b | .inUnnest a b _ | .binary a _ b | .like _ _ _ a b _ | .rlike _ a b _
  | .quantified a _ _ b | .atTimeZone a b | .position a b | .exprNamedArg a _ b =>
    seq (expr E p mode a) (expr E p mode b)
  | .inList e list _ => seq (expr E p mode e) (exprs E p mode list)
  | .inSubquery e q _ => seq (fun n => (query E p .predicate q n).1) (expr E p mode e)
  | .between e _ lo hi => seq (expr E p mode e) (seq (expr E p mode lo) (expr E p mode hi))
  | .substring e f fo _ => seq (expr E p mode e) (seq (opt E p mode f) (opt E p mode fo))
  | .trim e _ what chars => seq (expr E p mode e) (seq (opt E p mode what) (exprs E p mode chars))
  | .overlay e w f fo =>
    seq (expr E p mode e) (seq (expr E p mode w) (seq (expr E p mode f) (opt E p mode fo)))
  | .tuple items | .array items _ | .structLiteral _ items | .dictionary _ items => exprs E p mode items
  | .function _ params as filter _ w withinGroup _ =>
    seq (args E p mode params) (seq (args E p mode as)
      (seq (opt E p mode filter) (seq (window E p mode w) (order E p mode withinGroup))))
  | .case operand conds results otherwise =>
    seq (opt E p mode operand)
      (seq (exprs E p mode conds) (seq (exprs E p mode results) (opt E p mode otherwise)))
  | .exists q _ => fun n => (query E p .predicate q n).1
  | .subquery q => fun n => (query E p (match mode with
      | .value => .scalar
      | .predicate => .predicate) q n).1
  | .access root chain => seq (expr E p mode root) (access E p mode chain)
  | .pathAccess e steps => seq (expr E p mode e) (path E p mode steps)
  | .convert _ e _ _ _ styles | .method e styles => seq (expr E p mode e) (exprs E p mode styles)
  | .mapLiteral es => entries E p mode es

def exprs (E : List (List (String × Nat))) (p : Option Nat) (mode : WalkMode) :
    List Expr → Nat → List ScopeEvent
  | [] => none
  | e :: rest => seq (expr E p mode e) (exprs E p mode rest)

def opt (E : List (List (String × Nat))) (p : Option Nat) (mode : WalkMode) :
    Option Expr → Nat → List ScopeEvent
  | Option.none => none
  | some e => expr E p mode e

def access (E : List (List (String × Nat))) (p : Option Nat) (mode : WalkMode) :
    List Access → Nat → List ScopeEvent
  | [] => none
  | .field e :: rest | .index e :: rest => seq (expr E p mode e) (access E p mode rest)
  | .slice lower upper stride :: rest =>
    seq (opt E p mode lower) (seq (opt E p mode upper) (seq (opt E p mode stride) (access E p mode rest)))

def clauses (E : List (List (String × Nat))) (p : Option Nat) (mode : WalkMode) :
    List ArgClause → Nat → List ScopeEvent
  | [] => none
  | .mk _ e _ :: rest => seq (opt E p mode e) (clauses E p mode rest)

def entries (E : List (List (String × Nat))) (p : Option Nat) (mode : WalkMode) :
    List MapEntry → Nat → List ScopeEvent
  | [] => none
  | .mk key v :: rest => seq (expr E p mode key) (seq (expr E p mode v) (entries E p mode rest))

def path (E : List (List (String × Nat))) (p : Option Nat) (mode : WalkMode) :
    List PathStep → Nat → List ScopeEvent
  | [] => none
  | .key _ _ :: rest => path E p mode rest
  | .bracket e :: rest => seq (expr E p mode e) (path E p mode rest)

def args (E : List (List (String × Nat))) (p : Option Nat) (mode : WalkMode) :
    FunctionArgs → Nat → List ScopeEvent
  | .list _ as _ orderBy limit cs =>
    seq (exprs E p mode as) (seq (order E p mode orderBy) (seq (opt E p mode limit) (clauses E p mode cs)))
  | .none | .subquery _ => none

def order (E : List (List (String × Nat))) (p : Option Nat) (mode : WalkMode) :
    List OrderItem → Nat → List ScopeEvent
  | [] => none
  | .mk e _ _ f :: rest => seq (expr E p mode e) (seq (fill E p mode f) (order E p mode rest))

def fill (E : List (List (String × Nat))) (p : Option Nat) (mode : WalkMode) :
    Option Fill → Nat → List ScopeEvent
  | some (.mk start stop step) => seq (opt E p mode start) (seq (opt E p mode stop) (opt E p mode step))
  | Option.none => none

def window (E : List (List (String × Nat))) (p : Option Nat) (mode : WalkMode) :
    Option Window → Nat → List ScopeEvent
  | some (.spec _ partitionBy orderBy _ _ startExpr _ endExpr) =>
    seq (exprs E p mode partitionBy)
      (seq (order E p mode orderBy) (seq (opt E p mode startExpr) (opt E p mode endExpr)))
  | some (.named _) | Option.none => none

end

/-- The events of a statement: those of its query, as the outermost scope, with
no WITH name in reach. -/
def statement (st : Statement) : List ScopeEvent :=
  match st.query? with
  | some q => (query [] Option.none .query q 0).1
  | Option.none => []

/-- A column name, possibly in parentheses, nests no query. -/
theorem expr_of_columnRef {E : List (List (String × Nat))} {p : Option Nat} {mode : WalkMode}
    {e : Expr} {ref : ColumnRef} (h : columnRef e = some ref) (n : Nat) : expr E p mode e n = [] := by
  fun_induction columnRef e with
  | case1 i => rfl
  | case2 parts => rfl
  | case3 parts c rest hrev => rfl
  | case4 e ih => exact ih h
  | case5 e hnot => simp at h

end Lexical

/-! ### The walk replays the events -/

mutual

theorem query_replays (kind : ScopeKind) (aliasName : Option String) :
    ∀ (q : Query) {K : List ScopeOutline} {E : List (List (String × Nat))} {σ : List Nat} {n : Nat},
      K.length = n →
      Replays K E σ (query kind aliasName q) (Lexical.query E σ.head? kind q n).1 E σ
        (· = (Lexical.query E σ.head? kind q n).2)
  | .mk _ ctes body _, K, E, σ, n, hK => by
    simp only [Detect.query]
    have hbody := Replays.bind (@withClause_replays ctes K E [] σ n hK) fun _ _ =>
      setExpr_replays kind aliasName body (length_replay_of hK _)
    -- the frame of the WITH names is closed whether the body succeeds or not
    exact Replays.keep_bind Replays.pushFrame fun _ _ =>
      Replays.bind_nil (Replays.catchPop hbody) fun id hid =>
      Replays.keep_bind Replays.popFrame fun _ _ => Replays.pure id hid

theorem withClause_replays :
    ∀ (ctes : List Cte) {K : List ScopeOutline} {E : List (List (String × Nat))}
      {frame : List (String × Nat)} {σ : List Nat} {n : Nat}, K.length = n →
      Replays K (frame :: E) σ (withClause ctes) (Lexical.withClause E σ.head? frame ctes n).1
        ((Lexical.withClause E σ.head? frame ctes n).2 :: E) σ fun _ => True
  | [], K, E, frame, σ, n, _ => by
    simp only [Detect.withClause]
    exact Replays.pure () trivial
  | .mk a q _ _ :: rest, K, E, frame, σ, n, hK => by
    simp only [Detect.withClause]
    -- the body is walked before its name is made visible
    refine Replays.bind (query_replays .cte _ q hK) fun id hid => ?_
    subst hid
    exact Replays.keep_bind (Replays.addCte _ _) fun _ _ =>
      withClause_replays rest (length_replay_of hK _)

theorem setExpr_replays (kind : ScopeKind) (aliasName : Option String) :
    ∀ (t : SetExpr) {K : List ScopeOutline} {E : List (List (String × Nat))} {σ : List Nat} {n : Nat},
      K.length = n →
      Replays K E σ (setExpr kind aliasName t) (Lexical.setExpr E σ.head? kind t n).1 E σ
        (· = (Lexical.setExpr E σ.head? kind t n).2)
  | .select sel, K, E, σ, n, hK => by
    simp only [Detect.setExpr]
    exact select_replays kind aliasName sel hK
  | .query q, K, E, σ, n, hK => by
    simp only [Detect.setExpr]
    exact query_replays kind aliasName q hK
  | .setOp l _ _ r, K, E, σ, n, hK => by
    subst hK
    simp only [Detect.setExpr]
    refine Replays.bind (Replays.enter kind aliasName) fun id hid => ?_
    subst hid
    -- the operands are scopes below the operation's own, opened after it
    have h₁ : (replay K [.enter σ.head? kind]).length = K.length + 1 := length_replay_of rfl _
    refine Replays.bind (setExpr_replays .setOperand none l h₁) fun left hl => ?_
    refine Replays.bind (setExpr_replays .setOperand none r (length_replay_of h₁ _)) fun right hr => ?_
    subst hl hr
    exact Replays.get fun _ => Replays.bind_nil (Replays.bindOperands _ _ _) fun _ _ =>
      Replays.keep_bind Replays.exit fun _ _ => Replays.pure _ rfl
  | .values _ [], K, E, σ, n, hK => by
    subst hK
    simp only [Detect.setExpr]
    refine Replays.bind_nil (Replays.enter _ aliasName) fun id hid => ?_
    exact Replays.keep_bind (Replays.pure (P := fun _ => True) [] trivial) fun _ _ =>
      Replays.keep_bind (Replays.modifyScope fun _ => rfl) fun _ _ =>
      Replays.keep_bind (Replays.finalize id) fun _ _ =>
      Replays.keep_bind Replays.exit fun _ _ => Replays.pure _ hid
  | .values _ (row :: _), K, E, σ, n, hK => by
    subst hK
    simp only [Detect.setExpr]
    refine Replays.bind (Replays.enter _ aliasName) fun id hid => ?_
    -- only the first row is walked
    exact Replays.bind_nil (rowFields_replays 1 row (length_replay_of rfl _)) fun _ _ =>
      Replays.keep_bind (Replays.modifyScope fun _ => rfl) fun _ _ =>
      Replays.keep_bind (Replays.finalize id) fun _ _ =>
      Replays.keep_bind Replays.exit fun _ _ => Replays.pure _ hid
  | .insert .., K, E, σ, n, _ | .other _, K, E, σ, n, _ => by
    simp only [Detect.setExpr]
    exact Replays.of_throw _

theorem select_replays (kind : ScopeKind) (aliasName : Option String) :
    ∀ (sel : Select) {K : List ScopeOutline} {E : List (List (String × Nat))} {σ : List Nat} {n : Nat},
      K.length = n →
      Replays K E σ (select kind aliasName sel) (Lexical.select E σ.head? kind sel n) E σ (· = n)
  | .mk _ projection _ from_ _ selection _ having _, K, E, σ, n, hK => by
    subst hK
    simp only [Detect.select]
    refine Replays.bind (Replays.enter kind aliasName) fun id hid => ?_
    subst hid
    -- the clauses are walked inside the scope, each from the id the one before left
    have h₁ : (replay K [.enter σ.head? kind]).length = K.length + 1 := length_replay_of rfl _
    exact Replays.seq h₁ (fromClause_replays from_ h₁) fun _ _ h₂ =>
      Replays.seq h₂ (selectItems_replays projection h₂) fun _ _ h₃ =>
      Replays.keep_bind (Replays.modifyScope fun _ => rfl) fun _ _ =>
      Replays.seq h₃ (walkOpt_replays .predicate selection h₃ []) fun _ _ h₄ =>
      Replays.bind_nil (walkOpt_replays .predicate having h₄ []) fun _ _ =>
      Replays.keep_bind (Replays.finalize _) fun _ _ =>
      Replays.keep_bind Replays.exit fun _ _ => Replays.pure _ rfl

theorem selectItems_replays :
    ∀ (items : List SelectItem) {K : List ScopeOutline} {E : List (List (String × Nat))}
      {σ : List Nat} {n : Nat}, K.length = n →
      Replays K E σ (selectItems items) (Lexical.selectItems E σ.head? items n) E σ fun _ => True
  | [], K, E, σ, n, _ => by
    simp only [Detect.selectItems]
    exact Replays.pure [] trivial
  | item :: rest, K, E, σ, n, hK => by
    simp only [Detect.selectItems]
    exact Replays.seq hK (selectItem_replays item hK) fun _ _ hK₁ =>
      Replays.bind_nil (selectItems_replays rest hK₁) fun _ _ => Replays.pure _ trivial

theorem selectItem_replays :
    ∀ (item : SelectItem) {K : List ScopeOutline} {E : List (List (String × Nat))}
      {σ : List Nat} {n : Nat}, K.length = n →
      Replays K E σ (selectItem item) (Lexical.selectItem E σ.head? item n) E σ fun _ => True
  | .expr e aliasName, K, E, σ, n, hK => by
    simp only [Lexical.selectItem]
    cases aliasName with
    | none =>
      cases hcol : columnRef e with
      | none =>
        simp only [Detect.selectItem, hcol]
        exact Replays.bind_nil (walk_replays .value e hK []) fun _ _ => Replays.pure _ trivial
      | some ref =>
        -- a column name is read off, not walked
        simp only [Detect.selectItem, hcol]
        rw [Lexical.expr_of_columnRef hcol]
        exact Replays.pure _ trivial
    | some a =>
      simp only [Detect.selectItem]
      exact Replays.bind_nil (walk_replays .value e hK []) fun _ _ => Replays.pure _ trivial
  | .wildcard none _, K, E, σ, n, _ => by
    simp only [Detect.selectItem]
    exact Replays.expandWildcard none
  | .wildcard (some name) _, K, E, σ, n, _ => by
    simp only [Detect.selectItem]
    split
    · exact Replays.expandWildcard _
    · exact Replays.of_throw _

theorem rowFields_replays (k : Nat) :
    ∀ (row : List Expr) {K : List ScopeOutline} {E : List (List (String × Nat))} {σ : List Nat}
      {n : Nat}, K.length = n →
      Replays K E σ (rowFields k row) (Lexical.exprs E σ.head? .value row n) E σ fun _ => True
  | [], K, E, σ, n, _ => by
    simp only [Detect.rowFields]
    exact Replays.pure [] trivial
  | e :: rest, K, E, σ, n, hK => by
    simp only [Detect.rowFields]
    exact Replays.seq hK (walk_replays .value e hK []) fun _ _ hK₁ =>
      Replays.bind_nil (rowFields_replays (k + 1) rest hK₁) fun _ _ => Replays.pure _ trivial

theorem fromClause_replays :
    ∀ (ts : List TableWithJoins) {K : List ScopeOutline} {E : List (List (String × Nat))}
      {cur : Nat} {σ : List Nat} {n : Nat}, K.length = n →
      Replays K E (cur :: σ) (fromClause ts) (Lexical.fromClause E cur ts n) E (cur :: σ)
        fun _ => True
  | [], K, E, cur, σ, n, _ => by
    simp only [Detect.fromClause]
    exact Replays.pure () trivial
  | t :: rest, K, E, cur, σ, n, hK => by
    simp only [Detect.fromClause]
    exact Replays.seq hK (tableWithJoins_replays t hK) fun _ _ hK₁ => fromClause_replays rest hK₁

theorem tableWithJoins_replays :
    ∀ (t : TableWithJoins) {K : List ScopeOutline} {E : List (List (String × Nat))}
      {cur : Nat} {σ : List Nat} {n : Nat}, K.length = n →
      Replays K E (cur :: σ) (tableWithJoins t) (Lexical.tableWithJoins E cur t n) E (cur :: σ)
        fun _ => True
  | .mk relation js, K, E, cur, σ, n, hK => by
    simp only [Detect.tableWithJoins]
    exact Replays.seq hK (factor_replays relation hK) fun _ _ hK₁ => joins_replays js hK₁

theorem joins_replays :
    ∀ (js : List Join) {K : List ScopeOutline} {E : List (List (String × Nat))}
      {cur : Nat} {σ : List Nat} {n : Nat}, K.length = n →
      Replays K E (cur :: σ) (joins js) (Lexical.joins E cur js n) E (cur :: σ) fun _ => True
  | [], K, E, cur, σ, n, _ => by
    simp only [Detect.joins, Lexical.joins]
    exact Replays.pure () trivial
  | .mk _ kind relation on c :: rest, K, E, cur, σ, n, hK => by
    simp only [Detect.joins, Lexical.joins]
    refine Replays.seq hK (factor_replays relation hK) fun _ _ hK₁ => ?_
    -- only the ON condition of an inner or outer join is walked
    cases c with
    | on =>
      by_cases hk : kind.readsConstraint
      · simp only [hk, if_true]
        exact Replays.seq hK₁ (walkOpt_replays .predicate on hK₁ []) fun _ _ hK₂ =>
          joins_replays rest hK₂
      · simp only [hk, Bool.false_eq_true, if_false]
        exact joins_replays rest hK₁
    | «using» cols =>
      by_cases hk : kind.readsConstraint
      · simp only [hk, if_true]
        exact Replays.keep_bind (Replays.addUsing cols) fun _ _ => joins_replays rest hK₁
      · simp only [hk, Bool.false_eq_true, if_false]
        exact joins_replays rest hK₁
    | natural | none =>
      by_cases hk : kind.readsConstraint
      · simp only [hk, if_true]
        exact joins_replays rest hK₁
      · simp only [hk, Bool.false_eq_true, if_false]
        exact joins_replays rest hK₁

theorem factor_replays :
    ∀ (t : TableFactor) {K : List ScopeOutline} {E : List (List (String × Nat))}
      {cur : Nat} {σ : List Nat} {n : Nat}, K.length = n →
      Replays K E (cur :: σ) (factor t) (Lexical.factor E cur t n) E (cur :: σ) fun _ => True
  | .table name _ aliasName _, K, E, cur, σ, n, _ => by
    simp only [Detect.factor, Lexical.factor]
    cases TableName.ofParts name with
    | none => exact Replays.of_throw _
    | some t =>
      refine Replays.keep_bind (P := (· = Lexical.cteScope? E t)) (Replays.lookupCte t) fun r hr => ?_
      subst hr
      -- the name stands for the scope of a WITH definition in reach, or for the table
      cases hc : Lexical.cteScope? E t with
      | none =>
        simp only [Lexical.target, hc, pure_bind]
        exact Replays.bindName _ _
      | some id =>
        simp only [Lexical.target, hc, pure_bind]
        exact Replays.bindName _ _
  | .derived _ q aliasName, K, E, cur, σ, n, hK => by
    simp only [Detect.factor, Lexical.factor]
    refine Replays.bind (query_replays .derived _ q hK) fun child hchild => ?_
    subst hchild
    exact Replays.bindName _ _
  | .nestedJoin inner _, K, E, cur, σ, n, hK => by
    simp only [Detect.factor, Lexical.factor]
    exact tableWithJoins_replays inner hK
  | .other _, K, E, cur, σ, n, _ => by
    simp only [Detect.factor, Lexical.factor]
    exact Replays.log _

theorem walk_replays (mode : WalkMode) :
    ∀ (e : Expr) {K : List ScopeOutline} {E : List (List (String × Nat))} {σ : List Nat} {n : Nat}, K.length = n → ∀ acc,
      Replays K E σ (walk mode e acc) (Lexical.expr E σ.head? mode e n) E σ fun _ => True
  | .identifier _, K, E, σ, n, _, acc => by
    rw [Detect.walk_identifier]
    split <;> exact Replays.pure _ trivial
  | .compound parts, K, E, σ, n, _, acc => by
    rw [Detect.walk_compound]
    split
    · split <;> exact Replays.pure _ trivial
    · exact Replays.pure _ trivial
  | .value _, K, E, σ, n, _, acc | .typedString .., K, E, σ, n, _, acc | .wildcard, K, E, σ, n, _, acc
  | .qualifiedWildcard _, K, E, σ, n, _, acc | .introduced .., K, E, σ, n, _, acc
  | .matchAgainst .., K, E, σ, n, _, acc => Replays.pure _ trivial
  | .isTest e _, K, E, σ, n, hK, acc | .unary _ e, K, E, σ, n, hK, acc
  | .postOp e _, K, E, σ, n, hK, acc | .cast _ e _ _, K, E, σ, n, hK, acc
  | .extract _ _ e, K, E, σ, n, hK, acc | .ceilFloor _ e _ _, K, E, σ, n, hK, acc
  | .collate e _, K, E, σ, n, hK, acc | .nested e, K, E, σ, n, hK, acc
  | .interval e _, K, E, σ, n, hK, acc | .namedArg _ _ e, K, E, σ, n, hK, acc
  | .prior e, K, E, σ, n, hK, acc | .composite e _, K, E, σ, n, hK, acc
  | .lambda _ _ e, K, E, σ, n, hK, acc | .outerJoin e, K, E, σ, n, hK, acc
  | .named e _, K, E, σ, n, hK, acc => walk_replays mode e hK acc
  | .isDistinctFrom a _ b, K, E, σ, n, hK, acc | .inUnnest a b _, K, E, σ, n, hK, acc
  | .binary a _ b, K, E, σ, n, hK, acc | .like _ _ _ a b _, K, E, σ, n, hK, acc
  | .rlike _ a b _, K, E, σ, n, hK, acc | .quantified a _ _ b, K, E, σ, n, hK, acc
  | .atTimeZone a b, K, E, σ, n, hK, acc | .position a b, K, E, σ, n, hK, acc
  | .exprNamedArg a _ b, K, E, σ, n, hK, acc =>
    Replays.seq hK (walk_replays mode a hK acc) fun _ _ hK₁ => walk_replays mode b hK₁ _
  | .inList e list _, K, E, σ, n, hK, acc =>
    Replays.seq hK (walk_replays mode e hK acc) fun _ _ hK₁ => walkList_replays mode list hK₁ _
  | .inSubquery e q _, K, E, σ, n, hK, acc =>
    Replays.seq hK (query_replays .predicate none q hK) fun _ _ hK₁ => walk_replays mode e hK₁ acc
  | .between e _ lo hi, K, E, σ, n, hK, acc =>
    Replays.seq hK (walk_replays mode e hK acc) fun _ _ hK₁ =>
      Replays.seq hK₁ (walk_replays mode lo hK₁ _) fun _ _ hK₂ => walk_replays mode hi hK₂ _
  | .substring e f fo _, K, E, σ, n, hK, acc =>
    Replays.seq hK (walk_replays mode e hK acc) fun _ _ hK₁ =>
      Replays.seq hK₁ (walkOpt_replays mode f hK₁ _) fun _ _ hK₂ => walkOpt_replays mode fo hK₂ _
  | .trim e _ what chars, K, E, σ, n, hK, acc =>
    Replays.seq hK (walk_replays mode e hK acc) fun _ _ hK₁ =>
      Replays.seq hK₁ (walkOpt_replays mode what hK₁ _) fun _ _ hK₂ => walkList_replays mode chars hK₂ _
  | .overlay e w f fo, K, E, σ, n, hK, acc =>
    Replays.seq hK (walk_replays mode e hK acc) fun _ _ hK₁ =>
      Replays.seq hK₁ (walk_replays mode w hK₁ _) fun _ _ hK₂ =>
      Replays.seq hK₂ (walk_replays mode f hK₂ _) fun _ _ hK₃ => walkOpt_replays mode fo hK₃ _
  | .tuple items, K, E, σ, n, hK, acc | .array items _, K, E, σ, n, hK, acc
  | .structLiteral _ items, K, E, σ, n, hK, acc | .dictionary _ items, K, E, σ, n, hK, acc =>
    walkList_replays mode items hK acc
  | .function _ params args filter _ window withinGroup _, K, E, σ, n, hK, acc =>
    Replays.seq hK (walkArgs_replays mode params hK acc) fun _ _ hK₁ =>
      Replays.seq hK₁ (walkArgs_replays mode args hK₁ _) fun _ _ hK₂ =>
      Replays.seq hK₂ (walkOpt_replays mode filter hK₂ _) fun _ _ hK₃ =>
      Replays.seq hK₃ (walkWindow_replays mode window hK₃ _) fun _ _ hK₄ =>
      walkOrder_replays mode withinGroup hK₄ _
  | .case operand conds results otherwise, K, E, σ, n, hK, acc =>
    Replays.seq hK (walkOpt_replays mode operand hK acc) fun _ _ hK₁ =>
      Replays.seq hK₁ (walkList_replays mode conds hK₁ _) fun _ _ hK₂ =>
      Replays.seq hK₂ (walkList_replays mode results hK₂ _) fun _ _ hK₃ =>
      walkOpt_replays mode otherwise hK₃ _
  | .exists q _, K, E, σ, n, hK, acc =>
    Replays.bind_nil (query_replays .predicate none q hK) fun _ _ => Replays.pure acc trivial
  | .subquery q, K, E, σ, n, hK, acc => by
    cases mode
    · exact Replays.bind_nil (query_replays .scalar none q hK) fun _ _ => Replays.pure _ trivial
    · exact Replays.bind_nil (query_replays .predicate none q hK) fun _ _ => Replays.pure acc trivial
  | .access root chain, K, E, σ, n, hK, acc =>
    Replays.seq hK (walk_replays mode root hK acc) fun _ _ hK₁ => walkAccess_replays mode chain hK₁ _
  | .pathAccess e steps, K, E, σ, n, hK, acc =>
    Replays.seq hK (walk_replays mode e hK acc) fun _ _ hK₁ => walkPath_replays mode steps hK₁ _
  | .convert _ e _ _ _ styles, K, E, σ, n, hK, acc | .method e styles, K, E, σ, n, hK, acc =>
    Replays.seq hK (walk_replays mode e hK acc) fun _ _ hK₁ => walkList_replays mode styles hK₁ _
  | .mapLiteral entries, K, E, σ, n, hK, acc => walkEntries_replays mode entries hK acc

theorem walkList_replays (mode : WalkMode) :
    ∀ (es : List Expr) {K : List ScopeOutline} {E : List (List (String × Nat))} {σ : List Nat} {n : Nat}, K.length = n → ∀ acc,
      Replays K E σ (walkList mode es acc) (Lexical.exprs E σ.head? mode es n) E σ fun _ => True
  | [], _, _, _, _, _, acc => Replays.pure acc trivial
  | e :: rest, _, _, _, _, hK, acc =>
    Replays.seq hK (walk_replays mode e hK acc) fun _ _ hK₁ => walkList_replays mode rest hK₁ _

theorem walkAccess_replays (mode : WalkMode) :
    ∀ (chain : List Access) {K : List ScopeOutline} {E : List (List (String × Nat))} {σ : List Nat} {n : Nat}, K.length = n → ∀ acc,
      Replays K E σ (walkAccess mode chain acc) (Lexical.access E σ.head? mode chain n) E σ fun _ => True
  | [], _, _, _, _, _, acc => Replays.pure acc trivial
  | .field e :: rest, _, _, _, _, hK, acc | .index e :: rest, _, _, _, _, hK, acc =>
    Replays.seq hK (walk_replays mode e hK acc) fun _ _ hK₁ => walkAccess_replays mode rest hK₁ _
  | .slice lower upper stride :: rest, _, _, _, _, hK, acc =>
    Replays.seq hK (walkOpt_replays mode lower hK acc) fun _ _ hK₁ =>
      Replays.seq hK₁ (walkOpt_replays mode upper hK₁ _) fun _ _ hK₂ =>
      Replays.seq hK₂ (walkOpt_replays mode stride hK₂ _) fun _ _ hK₃ => walkAccess_replays mode rest hK₃ _

theorem walkClauses_replays (mode : WalkMode) :
    ∀ (cs : List ArgClause) {K : List ScopeOutline} {E : List (List (String × Nat))} {σ : List Nat} {n : Nat}, K.length = n → ∀ acc,
      Replays K E σ (walkClauses mode cs acc) (Lexical.clauses E σ.head? mode cs n) E σ fun _ => True
  | [], _, _, _, _, _, acc => Replays.pure acc trivial
  | .mk _ e _ :: rest, _, _, _, _, hK, acc =>
    Replays.seq hK (walkOpt_replays mode e hK acc) fun _ _ hK₁ => walkClauses_replays mode rest hK₁ _

theorem walkEntries_replays (mode : WalkMode) :
    ∀ (es : List MapEntry) {K : List ScopeOutline} {E : List (List (String × Nat))} {σ : List Nat} {n : Nat}, K.length = n → ∀ acc,
      Replays K E σ (walkEntries mode es acc) (Lexical.entries E σ.head? mode es n) E σ fun _ => True
  | [], _, _, _, _, _, acc => Replays.pure acc trivial
  | .mk key v :: rest, _, _, _, _, hK, acc =>
    Replays.seq hK (walk_replays mode key hK acc) fun _ _ hK₁ =>
      Replays.seq hK₁ (walk_replays mode v hK₁ _) fun _ _ hK₂ => walkEntries_replays mode rest hK₂ _

theorem walkPath_replays (mode : WalkMode) :
    ∀ (steps : List PathStep) {K : List ScopeOutline} {E : List (List (String × Nat))} {σ : List Nat} {n : Nat}, K.length = n → ∀ acc,
      Replays K E σ (walkPath mode steps acc) (Lexical.path E σ.head? mode steps n) E σ fun _ => True
  | [], _, _, _, _, _, acc => Replays.pure acc trivial
  | .key _ _ :: rest, _, _, _, _, hK, acc => walkPath_replays mode rest hK acc
  | .bracket e :: rest, _, _, _, _, hK, acc =>
    Replays.seq hK (walk_replays mode e hK acc) fun _ _ hK₁ => walkPath_replays mode rest hK₁ _

theorem walkOpt_replays (mode : WalkMode) :
    ∀ (e : Option Expr) {K : List ScopeOutline} {E : List (List (String × Nat))} {σ : List Nat} {n : Nat}, K.length = n → ∀ acc,
      Replays K E σ (walkOpt mode e acc) (Lexical.opt E σ.head? mode e n) E σ fun _ => True
  | none, _, _, _, _, _, acc => Replays.pure acc trivial
  | some e, _, _, _, _, hK, acc => walk_replays mode e hK acc

theorem walkArgs_replays (mode : WalkMode) :
    ∀ (as : FunctionArgs) {K : List ScopeOutline} {E : List (List (String × Nat))} {σ : List Nat} {n : Nat}, K.length = n → ∀ acc,
      Replays K E σ (walkArgs mode as acc) (Lexical.args E σ.head? mode as n) E σ fun _ => True
  | .list _ as _ orderBy limit cs, _, _, _, _, hK, acc =>
    Replays.seq hK (walkList_replays mode as hK acc) fun _ _ hK₁ =>
      Replays.seq hK₁ (walkOrder_replays mode orderBy hK₁ _) fun _ _ hK₂ =>
      Replays.seq hK₂ (walkOpt_replays mode limit hK₂ _) fun _ _ hK₃ => walkClauses_replays mode cs hK₃ _
  | .none, _, _, _, _, _, acc | .subquery _, _, _, _, _, _, acc => Replays.pure acc trivial

theorem walkOrder_replays (mode : WalkMode) :
    ∀ (items : List OrderItem) {K : List ScopeOutline} {E : List (List (String × Nat))} {σ : List Nat} {n : Nat}, K.length = n → ∀ acc,
      Replays K E σ (walkOrder mode items acc) (Lexical.order E σ.head? mode items n) E σ fun _ => True
  | [], _, _, _, _, _, acc => Replays.pure acc trivial
  | .mk e _ _ f :: rest, _, _, _, _, hK, acc =>
    Replays.seq hK (walk_replays mode e hK acc) fun _ _ hK₁ =>
      Replays.seq hK₁ (walkFill_replays mode f hK₁ _) fun _ _ hK₂ => walkOrder_replays mode rest hK₂ _

theorem walkFill_replays (mode : WalkMode) :
    ∀ (f : Option Fill) {K : List ScopeOutline} {E : List (List (String × Nat))} {σ : List Nat} {n : Nat}, K.length = n → ∀ acc,
      Replays K E σ (walkFill mode f acc) (Lexical.fill E σ.head? mode f n) E σ fun _ => True
  | some (.mk start stop step), _, _, _, _, hK, acc =>
    Replays.seq hK (walkOpt_replays mode start hK acc) fun _ _ hK₁ =>
      Replays.seq hK₁ (walkOpt_replays mode stop hK₁ _) fun _ _ hK₂ => walkOpt_replays mode step hK₂ _
  | none, _, _, _, _, _, acc => Replays.pure acc trivial

theorem walkWindow_replays (mode : WalkMode) :
    ∀ (w : Option Window) {K : List ScopeOutline} {E : List (List (String × Nat))} {σ : List Nat} {n : Nat}, K.length = n → ∀ acc,
      Replays K E σ (walkWindow mode w acc) (Lexical.window E σ.head? mode w n) E σ fun _ => True
  | some (.spec _ partitionBy orderBy _ _ startExpr _ endExpr), _, _, _, _, hK, acc =>
    Replays.seq hK (walkList_replays mode partitionBy hK acc) fun _ _ hK₁ =>
      Replays.seq hK₁ (walkOrder_replays mode orderBy hK₁ _) fun _ _ hK₂ =>
      Replays.seq hK₂ (walkOpt_replays mode startExpr hK₂ _) fun _ _ hK₃ =>
      walkOpt_replays mode endExpr hK₃ _
  | some (.named _), _, _, _, _, _, acc | none, _, _, _, _, _, acc => Replays.pure acc trivial

end

/-! ### A whole statement -/

/-- The walk of a statement's query, recorded as its root, and the check that
no scope is left open. -/
theorem root_replays (q : Query) : Replays [] [] [] (do
    let r ← query .query none q
    modify fun d => { d with root := some r }
    if (← get).arena.depth != 0 then throw (.malformed "scopes left open after traversal"))
    (Lexical.query [] none .query q 0).1 [] [] fun _ => True :=
  Replays.bind_nil (query_replays .query none q rfl) fun _ _ =>
    Replays.keep_bind (Replays.modify (fun _ => rfl) fun _ => rfl) fun _ _ =>
    Replays.get fun _ => by
      split
      · exact Replays.of_throw _
      · exact Replays.pure () trivial

theorem statement_replays (st : Statement) :
    Replays [] [] [] (Detect.statement st) (Lexical.statement st) [] [] fun _ => True := by
  simp only [Detect.statement]
  refine Replays.get fun d => ?_
  split
  · exact Replays.throw_bind _ _
  · refine Replays.keep_bind (Replays.modify (fun _ => rfl) fun _ => rfl) fun _ _ => ?_
    cases st with
    | query q => exact root_replays q
    | insert target columns source _ _ =>
      simp only [Lexical.statement, Sql.Statement.query?]
      -- the target is checked before the source query is walked
      split
      · split
        · refine Replays.keep_bind (Replays.pure (P := fun _ => True) _ trivial) fun t _ => ?_
          refine Replays.keep_bind (Replays.log _) fun _ _ => ?_
          refine Replays.keep_bind (Replays.modify (fun _ => rfl) fun _ => rfl) fun _ _ => ?_
          cases source with
          | none => exact Replays.throw_bind _ _
          | some q => exact root_replays q
        · exact Replays.throw_bind _ _
      · exact Replays.throw_bind _ _
    | createTable name columns q =>
      simp only [Lexical.statement, Sql.Statement.query?]
      cases q with
      | none => exact Replays.throw_bind _ _
      | some q => exact Replays.keep_bind (Replays.modify (fun _ => rfl) fun _ => rfl) fun _ _ => root_replays q
    | createView name columns q =>
      simp only [Lexical.statement, Sql.Statement.query?]
      exact Replays.keep_bind (Replays.modify (fun _ => rfl) fun _ => rfl) fun _ _ => root_replays q
    | other text => exact Replays.throw_bind _ _

/-- The WITH names of a statement resolve lexically. The scopes a fresh
detector opens for a statement, with the parent and the kind of each and the
names bound in it, are those `Lexical.statement` lists: all of them when the
walk succeeds, some first ones when it fails. So a table name without a
database stands for the scope of the latest definition of its name in the
innermost WITH clause in reach, and for the table when none is. -/
theorem with_names_resolve_lexically (catalog : Catalog) (maxDepth : Nat) (st : Statement) :
    (∃ pre, pre <+: Lexical.statement st ∧
        ((Detector.new catalog maxDepth).detect st).2.arena.outline = replay [] pre) ∧
      (((Detector.new catalog maxDepth).detect st).1 = .ok () →
        ((Detector.new catalog maxDepth).detect st).2.arena.outline =
          replay [] (Lexical.statement st)) := by
  -- a fresh detector has no scope, no frame and no open scope
  have hrun := statement_replays st (Detector.new catalog maxDepth) _ _ rfl rfl rfl rfl
  exact ⟨hrun.1, fun hok => (hrun.2 () hok).1⟩

/-- `WITH c AS (SELECT a FROM t) SELECT a FROM (WITH c AS (SELECT a FROM c)
SELECT a FROM c) AS x`: the inner definition of `c` reads the outer one, and
the inner query reads the inner one. -/
def shadowedWith : Statement :=
  let selectA (relation : TableFactor) : SetExpr :=
    .select (.mk "" [.expr (.identifier { value := "a" }) none] "" [.mk relation []] "" none "" none "")
  let named (n : String) : TableFactor := .table [{ value := n }] "" none ""
  let withC (source : String) (body : SetExpr) : Query :=
    .mk (some false) [.mk { name := { value := "c" } } (.mk none [] (selectA (named source)) "") none none]
      body ""
  .query (withC "t" (selectA (.derived false (withC "c" (selectA (named "c")))
    (some { name := { value := "x" } }))))

theorem shadowedWith_binds_lexically :
    ((Detector.new {} 3).detect shadowedWith).1 = .ok () ∧
      ((Detector.new {} 3).detect shadowedWith).2.arena.outline =
        replay [] (Lexical.statement shadowedWith) :=
  ⟨by decide +kernel, (with_names_resolve_lexically {} 3 shadowedWith).2 (by decide +kernel)⟩

-- the names bound, in order: `t`, the outer `c` from the inner definition, the
-- inner `c` from the inner query, and the derived table `x`
example : (Lexical.statement shadowedWith).filterMap
    (fun | .bind _ b => some b.target | .enter .. => Option.none) =
      [.table ⟨Option.none, "t"⟩, .scope 0, .scope 2, .scope 3] := by decide

end ColumnLineage
