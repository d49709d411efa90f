import ColumnLineage.Lineage.Detector
/-
ColumnLineage/Proofs/Mentions.lean

What a statement writes: the tables it reads by name, and the column
identifiers it writes with their qualifiers. These are the names lineage may
report; the proofs about where sources come from compare what the walk builds
with them.

A table reference counts only where it names a table: a name that a WITH
clause in reach defines stands for that clause's query instead. A WITH name is
in reach from the bodies after it and from the query's own body, with every
subquery inside them, as `Detect.lookupCte` finds it; a name with a database
never names a WITH clause.

Every expression is read, the conditions and the parts the walk skips
included, so these are all the names written anywhere in the statement.
-/

namespace ColumnLineage

open Sql

/-- A name a statement writes. -/
inductive Mention where
  /-- a table reference that names a table, not a WITH clause -/
  | table (t : TableName)
  /-- the last part of a column identifier -/
  | column (name : String)
  /-- the qualifier of a column identifier, all parts before the last -/
  | qualifier (q : TableName)
  deriving DecidableEq, Repr

/-- The names a column reference writes: its column, and its qualifier when
it has one. -/
def ColumnRef.written (ref : ColumnRef) : List Mention :=
  .column ref.column :: ref.qualifier.toList.map .qualifier

/-- The name a WITH clause defines. -/
def Sql.Cte.name : Cte → String
  | .mk a _ _ _ => a.name.value

/-- What a table reference writes, with the WITH names `env` in reach: the
table it names, unless a WITH name stands for it. -/
def Mentions.table (env : List String) (t : TableName) : List Mention :=
  if t.database.isNone && env.contains t.name then [] else [.table t]

namespace Mentions

mutual

/-- The names a query writes, with the WITH names `env` in reach. -/
def query (env : List String) : Query → List Mention
  | .mk _ ctes body _ => withClause env ctes ++ setExpr (env ++ ctes.map Cte.name) body

/-- The names the bodies of a WITH clause write; each body sees the names
defined before it. -/
def withClause (env : List String) : List Cte → List Mention
  | [] => []
  | .mk a q _ _ :: rest => query env q ++ withClause (env ++ [a.name.value]) rest

def setExpr (env : List String) : SetExpr → List Mention
  | .select s => select env s
  | .query q => query env q
  | .setOp l _ _ r => setExpr env l ++ setExpr env r
  | .values _ rows => valuesRows env rows
  | .insert _ _ source _ _ => optQuery env source
  | .other _ => []

def optQuery (env : List String) : Option Query → List Mention
  | some q => query env q
  | none => []

def valuesRows (env : List String) : List (List Expr) → List Mention
  | [] => []
  | row :: rest => exprs env row ++ valuesRows env rest

def select (env : List String) : Select → List Mention
  | .mk _ projection _ from_ _ selection _ having _ =>
    fromClause env from_ ++ selectItems env projection ++ opt env selection ++ opt env having

def selectItems (env : List String) : List SelectItem → List Mention
  | [] => []
  | .expr e _ :: rest => expr env e ++ selectItems env rest
  | .wildcard _ _ :: rest => selectItems env rest

def fromClause (env : List String) : List TableWithJoins → List Mention
  | [] => []
  | t :: rest => tableWithJoins env t ++ fromClause env rest

def tableWithJoins (env : List String) : TableWithJoins → List Mention
  | .mk relation js => factor env relation ++ joins env js

def joins (env : List String) : List Join → List Mention
  | [] => []
  | .mk _ _ relation on _ :: rest => factor env relation ++ opt env on ++ joins env rest

def factor (env : List String) : TableFactor → List Mention
  | .table name _ _ _ =>
    match TableName.ofParts name with
    | some t => Mentions.table env t
    | none => []
  | .derived _ q _ => query env q
  | .nestedJoin inner _ => tableWithJoins env inner
  | .other _ => []

/-- The names an expression writes: its column identifiers with their
qualifiers, and the names of its subqueries. -/
def expr (env : List String) : Expr → List Mention
  | .identifier i => ColumnRef.written { qualifier := none, column := i.value }
  | .compound parts =>
    match columnRef (.compound parts) with
    | some ref => ref.written
    | none => []
  | .isTest e _ | .unary _ e | .postOp e _ | .cast _ e _ _ | .extract _ _ e | .collate e _
  | .nested e | .interval e _ | .namedArg _ _ e | .prior e | .composite e _ | .lambda _ _ e
  | .outerJoin e | .named e _ => expr env e
  | .isDistinctFrom a _ b | .inUnnest a b _ | .binary a _ b | .like _ _ _ a b _ | .rlike _ a b _
  | .quantified a _ _ b | .atTimeZone a b | .position a b | .exprNamedArg a _ b =>
    expr env a ++ expr env b
  | .inList e list _ => expr env e ++ exprs env list
  | .inSubquery e q _ => query env q ++ expr env e
  | .between e _ lo hi => expr env e ++ expr env lo ++ expr env hi
  | .ceilFloor _ e scale _ => expr env e ++ opt env scale
  | .substring e f fo _ => expr env e ++ opt env f ++ opt env fo
  | .trim e _ what chars => expr env e ++ opt env what ++ exprs env chars
  | .overlay e w f fo => expr env e ++ expr env w ++ expr env f ++ opt env fo
  | .tuple items | .array items _ | .structLiteral _ items | .dictionary _ items => exprs env items
  | .function _ params args filter _ window withinGroup _ =>
    callArgs env params ++ callArgs env args ++ opt env filter ++ windowSpec env window ++
      order env withinGroup
  | .case operand conds results otherwise =>
    opt env operand ++ exprs env conds ++ exprs env results ++ opt env otherwise
  | .exists q _ | .subquery q => query env q
  | .access root chain => expr env root ++ access env chain
  | .pathAccess e path => expr env e ++ pathSteps env path
  | .convert _ e _ _ _ styles => expr env e ++ exprs env styles
  | .mapLiteral entries => mapEntries env entries
  | .method e calls => expr env e ++ exprs env calls
  | .value _ | .typedString _ _ | .wildcard | .qualifiedWildcard _ | .introduced _ _
  | .matchAgainst _ _ _ => []

def exprs (env : List String) : List Expr → List Mention
  | [] => []
  | e :: rest => expr env e ++ exprs env rest

def access (env : List String) : List Access → List Mention
  | [] => []
  | .field e :: rest | .index e :: rest => expr env e ++ access env rest
  | .slice lower upper stride :: rest =>
    opt env lower ++ opt env upper ++ opt env stride ++ access env rest

def clauses (env : List String) : List ArgClause → List Mention
  | [] => []
  | .mk _ e _ :: rest => opt env e ++ clauses env rest

def mapEntries (env : List String) : List MapEntry → List Mention
  | [] => []
  | .mk key v :: rest => expr env key ++ expr env v ++ mapEntries env rest

def pathSteps (env : List String) : List PathStep → List Mention
  | [] => []
  | .key _ _ :: rest => pathSteps env rest
  | .bracket e :: rest => expr env e ++ pathSteps env rest

def opt (env : List String) : Option Expr → List Mention
  | some e => expr env e
  | none => []

def callArgs (env : List String) : FunctionArgs → List Mention
  | .none => []
  | .subquery q => query env q
  | .list _ args _ orderBy limit cls =>
    exprs env args ++ order env orderBy ++ opt env limit ++ clauses env cls

def order (env : List String) : List OrderItem → List Mention
  | [] => []
  | .mk e _ _ fill :: rest => expr env e ++ withFill env fill ++ order env rest

def withFill (env : List String) : Option Fill → List Mention
  | some (.mk start stop step) => opt env start ++ opt env stop ++ opt env step
  | none => []

def windowSpec (env : List String) : Option Window → List Mention
  | some (.spec _ partitionBy orderBy _ _ startExpr _ endExpr) =>
    exprs env partitionBy ++ order env orderBy ++ opt env startExpr ++ opt env endExpr
  | some (.named _) | none => []

end

/-- The names of a select list are those of its first item and of the rest. -/
theorem selectItems_cons (env : List String) (item : SelectItem) (rest : List SelectItem) :
    selectItems env (item :: rest) = selectItems env [item] ++ selectItems env rest := by
  cases item <;> simp [selectItems]

/-- A compound name writes what the column it names writes. -/
theorem expr_compound {env : List String} {parts : List Sql.Ident} {ref : ColumnRef}
    (h : columnRef (.compound parts) = some ref) : expr env (.compound parts) = ref.written := by
  show (match columnRef (.compound parts) with
    | some ref => ref.written
    | none => []) = _
  rw [h]

end Mentions

/-- The names a statement writes. -/
def Sql.Statement.mentions : Statement → List Mention
  | .query q => Mentions.query [] q
  | .insert _ _ source _ _ => Mentions.optQuery [] source
  | .createTable _ _ q => Mentions.optQuery [] q
  | .createView _ _ q => Mentions.query [] q
  | .other _ => []

end ColumnLineage
