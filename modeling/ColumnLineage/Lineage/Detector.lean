import ColumnLineage.Lineage.Bindings
import ColumnLineage.Sql.Render
import ColumnLineage.Text.Words
/-
ColumnLineage/Lineage/Detector.lean

The walk over one statement that builds its scopes. Every SELECT, set
operation and VALUES list opens a scope; the FROM clause of a SELECT binds
its names, first, so that the select list can be read against them; each
item of the select list becomes output fields; and subqueries met in
expressions open scopes of their own, scalar ones feeding the field they
appear in, the others only read. When a scope is complete its column
references are placed (see `Bindings`).

The walk is structural over the syntax tree, so it ends. It keeps its state
when it fails: the scopes opened so far, still open, are what a failed walk
leaves behind.

The walk logs events as it goes: the target of an INSERT, each table
reference it skips, each wildcard it cannot expand, and those of placing
column references.
-/

namespace ColumnLineage

open Sql

/-- The table a statement writes into and the columns it lists, matched by
position to the outputs of its query. -/
structure Target where
  table : Option TableName
  columns : List String
  deriving DecidableEq, Repr, Inhabited

/-- The state of the walk over one statement. -/
structure Detector where
  catalog : Catalog
  arena : ScopeArena
  /-- the names of the WITH clauses in reach, innermost query first; a later
  name of one frame hides an earlier one -/
  frames : List (List (String × Nat)) := []
  target : Option Target := none
  root : Option Nat := none
  warnings : List LineageError := []
  /-- the events logged so far, in order -/
  events : List Log.Event := []
  /-- set once a statement was walked, until the detector is reset -/
  inUse : Bool := false
  deriving Repr, Inhabited

/-- A fresh detector over a catalog, with a depth limit. -/
def Detector.new (catalog : Catalog) (maxDepth : Nat) : Detector :=
  { catalog, arena := ScopeArena.empty maxDepth }

/-- Forgets the statement walked, keeping the catalog and the limit. -/
def Detector.reset (d : Detector) : Detector :=
  Detector.new d.catalog d.arena.maxDepth

/-- Hands over the warnings gathered so far, oldest first, and forgets them. -/
def Detector.takeWarnings (d : Detector) : List LineageError × Detector :=
  (d.warnings, { d with warnings := [] })

/-- A step of the walk: it changes the detector and may fail; a failure keeps
the changes made before it. -/
abbrev Detect := ExceptT LineageError (StateM Detector)

/-- Names a function whose value summarises many rows. -/
def aggregateNames : List String :=
  ["sum", "count", "avg", "min", "max", "any", "anylast", "argmin", "argmax", "uniq",
    "uniqexact", "grouparray", "groupuniqarray", "array_agg", "string_agg", "median",
    "stddev", "variance"]

/-- How an expression transforms its inputs. -/
def classify : Expr → Transformation
  | .identifier _ | .compound _ => .direct
  | .nested e => classify e
  | .function name _ _ _ _ window _ _ =>
    if window.isSome then .window
    else
      let last := (name.getLast?.map fun i => i.value.map Char.toLower).getD ""
      if aggregateNames.contains last then .aggregation else .function
  | .case .. => .caseWhen
  | .cast .. => .cast
  | .subquery _ => .subquery
  | .value _ => .literal
  | _ => .expression

/-- The column an expression reads when it is nothing but a column name,
possibly in parentheses. -/
def columnRef : Expr → Option ColumnRef
  | .identifier i => some { qualifier := none, column := i.value }
  | .compound parts =>
    match parts.reverse with
    | [] => none
    | c :: rest => some { qualifier := TableName.ofParts rest.reverse, column := c.value }
  | .nested e => columnRef e
  | _ => none

/-- The field of an expression with a name, once its inputs are known: a
constant when nothing feeds it. Its transformation is that of the expression,
an alias when the expression is a column. -/
def exprField (name : String) (e : Expr) (inputs : List Field) : Field :=
  let process := match classify e with
    | .direct => .aliased
    | t => t
  if inputs.isEmpty then .constant name process else .derived name inputs process

/-- Adds an input unless it is already there. -/
def addInput (f : Field) (inputs : List Field) : List Field :=
  if inputs.contains f then inputs else inputs ++ [f]

/-- What an expression walk is for: the inputs of an output column, or only
the subqueries of a condition. -/
inductive WalkMode where
  | value | predicate
  deriving DecidableEq, Repr

/-- Whether a join kind's constraint is read: inner and outer joins only. -/
def Sql.JoinKind.readsConstraint : JoinKind → Bool
  | .inner | .leftOuter | .rightOuter | .fullOuter => true
  | _ => false

namespace Detect

/-- Raises a problem. -/
def fail (e : LineageError) : Detect α := throw e

/-- Records a warning. -/
def warn (w : LineageError) : Detect Unit :=
  modify fun d => { d with warnings := d.warnings ++ [w] }

/-- Logs an event. -/
def log (e : Log.Event) : Detect Unit :=
  modify fun d => { d with events := d.events ++ [e] }

/-- Opens a scope. -/
def enter (kind : ScopeKind) (aliasName : Option String) : Detect Nat := do
  match (← get).arena.enter kind aliasName with
  | .ok (id, arena) =>
    modify fun d => { d with arena }
    return id
  | .error e => throw e

/-- Closes the current scope. -/
def exit : Detect Nat := do
  match (← get).arena.exit with
  | .ok (id, arena) =>
    modify fun d => { d with arena }
    return id
  | .error e => throw e

/-- Changes the scope `id`, which must exist. -/
def modifyScope (id : Nat) (f : Scope → Scope) : Detect Unit := do
  if ((← get).arena.get? id).isNone then throw (.malformed ("unknown scope " ++ toString id))
  modify fun d => { d with arena := d.arena.modify id f }

/-- The current scope's id. -/
def current : Detect Nat := do
  match (← get).arena.current with
  | some id => return id
  | none => throw (.malformed "no SELECT in progress")

/-- Binds a name of the FROM clause of the current scope. -/
def bind (aliasName : Option String) (target : BindingTarget) : Detect Unit := do
  let id ← current
  modify fun d => { d with arena := d.arena.modify id fun s =>
    { s with bindings := s.bindings ++ [{ aliasName, target }] } }

/-- Places the column references of a completed scope. -/
def finalize (id : Nat) : Detect Unit := do
  let d ← get
  let (arena, warnings, events) := Bindings.finalize d.catalog d.arena id
  set { d with arena, warnings := d.warnings ++ warnings, events := d.events ++ events }

/-- Opens a frame for the WITH clause of a query. -/
def pushFrame : Detect Unit := modify fun d => { d with frames := [] :: d.frames }

/-- Closes the frame of the innermost query. -/
def popFrame : Detect Unit := modify fun d => { d with frames := d.frames.drop 1 }

/-- Makes a WITH name visible in the innermost query. -/
def addCte (name : String) (id : Nat) : Detect Unit :=
  modify fun d => { d with frames := match d.frames with
    | [] => []
    | f :: fs => ((name, id) :: f) :: fs }

/-- The scope a WITH name in reach stands for; names with a database never
name a WITH clause. -/
def lookupCte (t : TableName) : Detect (Option Nat) := do
  if t.database.isSome then return none
  return (← get).frames.findSome? fun f => f.lookup t.name

/-- Records the columns of `JOIN ... USING` in the current scope: each
replaces an earlier one of the same name and is shared by the bindings made
so far. -/
def addUsing (columns : List ObjectName) : Detect Unit := do
  let id ← current
  modify fun d => { d with arena := d.arena.modify id fun s =>
    let shared := s.bindings.length
    let usingColumns := columns.foldl (fun acc name =>
        match name.getLast? with
        | some c => (acc.filter (·.column != c.value)) ++ [{ column := c.value, bindings := shared }]
        | none => acc)
      s.usingColumns
    { s with usingColumns } }

/-- The fields of a wildcard in the current scope: every column of every
binding (only the one the qualifier names, when there is one). Tables the
catalog does not know stay unexpanded, with a warning. -/
def expandWildcard (qualifier : Option TableName) : Detect (List Field) := do
  let d ← get
  let some s := d.arena.current.bind d.arena.get?
    | throw (.malformed "wildcard outside of a SELECT")
  let bindings := match qualifier with
    | some q => (Bindings.findQualified s q).toList
    | none => s.bindings
  let unbound : List Field × List String :=
    if bindings.isEmpty then
      let marker := match qualifier with
        | some q => q.render ++ ".*"
        | none => "*"
      ([.wildcard marker none .wildcard], [marker])
    else ([], [])
  let expand := fun (acc : List Field × List String) (b : Binding) =>
    let (fields, unresolved) := acc
    let exposedAs := b.aliasName.map fun a => ({ database := none, name := a } : TableName)
    match b.target with
    | .scope child =>
      match d.arena.get? child with
      | none => acc
      | some cs =>
        let fs := cs.fields.zipIdx.map fun (f, i) =>
          Field.column f.name
            { qualifier := exposedAs, column := f.name, position := some i, origin := .scope child }
            .wildcard
        (fields ++ fs, unresolved)
    | .table t =>
      match d.catalog.columns? t with
      | some cols =>
        let fs := cols.map fun c =>
          Field.column c { qualifier := exposedAs, column := c, origin := .table t } .wildcard
        (fields ++ fs, unresolved)
      | none =>
        let marker := match b.aliasName, qualifier with
          | some a, some _ => a ++ ".*"
          | _, _ => "*"
        (fields ++ [.wildcard marker (some t) .wildcard], unresolved ++ [t.render ++ ".*"])
  let (fields, unresolved) := bindings.foldl expand unbound
  for m in unresolved do
    log
      { level := .warn, target := LogTarget.fields,
        message := "wildcard left unexpanded, no catalog entry", fields := [("wildcard", m)] }
    warn (.unresolvedWildcard m)
  return fields

/-- The outputs of a set operation: output `i` is named after output `i` of
the first operand and reads output `i` of every operand that has one. -/
def setOutputs (arena : ScopeArena) (operands : List Nat) : List Field :=
  match operands.head?.bind arena.get? with
  | none => []
  | some first =>
    first.fields.zipIdx.map fun (f, i) =>
      let inputs := operands.filterMap fun op =>
        (arena.get? op).bind fun s => s.fields[i]?.map fun g =>
          Field.ofColumn g.name
            { qualifier := none, column := g.name, position := some i, origin := .scope op }
      .derived f.name inputs .direct

mutual

/-- Walks a query with its WITH clause, as one scope of kind `kind`; answers
the scope's id. The frame of its WITH names is closed again whether the walk
of the query succeeds or fails. -/
def query (kind : ScopeKind) (aliasName : Option String) : Query → Detect Nat
  | .mk _ ctes body _ => do
    pushFrame
    let id ← tryCatch (do withClause ctes; setExpr kind aliasName body)
      fun e => do popFrame; throw e
    popFrame
    return id

/-- Walks the bodies of a WITH clause in order; each name is visible from
the bodies after it. -/
def withClause : List Cte → Detect Unit
  | [] => pure ()
  | .mk a q _ _ :: rest => do
    let id ← query .cte (some a.name.value) q
    addCte a.name.value id
    withClause rest

/-- Walks a query body. -/
def setExpr (kind : ScopeKind) (aliasName : Option String) : SetExpr → Detect Nat
  | .select s => select kind aliasName s
  | .query q => query kind aliasName q
  | .setOp l _ _ r => do
    let id ← enter kind aliasName
    let left ← setExpr .setOperand none l
    let right ← setExpr .setOperand none r
    let outputs := setOutputs (← get).arena [left, right]
    modifyScope id fun s => { s with
      fields := outputs,
      bindings := s.bindings ++ [{ aliasName := none, target := .scope left },
        { aliasName := none, target := .scope right }] }
    let _ ← exit
    return id
  | .values _ rows => do
    let id ← enter (if kind == .query then .values else kind) aliasName
    let fields ← match rows with
      | [] => pure []
      | row :: _ => rowFields 1 row
    modifyScope id fun s => { s with fields }
    finalize id
    let _ ← exit
    return id
  | other => throw (.malformed ("unsupported query body: " ++ other.render))

/-- Walks a SELECT: its FROM clause, its select list, then its WHERE and
HAVING conditions. -/
def select (kind : ScopeKind) (aliasName : Option String) : Select → Detect Nat
  | .mk _ projection _ from_ _ selection _ having _ => do
    let id ← enter kind aliasName
    fromClause from_
    let fields ← selectItems projection
    modifyScope id fun s => { s with fields }
    let _ ← walkOpt .predicate selection []
    let _ ← walkOpt .predicate having []
    finalize id
    let _ ← exit
    return id

/-- The fields of a select list, item by item. -/
def selectItems : List SelectItem → Detect (List Field)
  | [] => pure []
  | item :: rest => do
    let fs ← selectItem item
    let more ← selectItems rest
    return fs ++ more

/-- The fields of one select item: one for an expression, one per column for
a wildcard. An expression that is a column keeps the column's name; any
other is named by its alias or its text. -/
def selectItem : SelectItem → Detect (List Field)
  | .expr e aliasName =>
    match aliasName, columnRef e with
    | none, some ref => return [Field.ofColumn ref.column ref]
    | _, _ => do
      let inputs ← walk .value e []
      let name := match aliasName with
        | some a => a.value
        | none => e.render
      return [exprField name e inputs]
  | .wildcard none _ => expandWildcard none
  | .wildcard (some name) _ =>
    match TableName.ofParts name with
    | some q => expandWildcard (some q)
    | none => throw (.malformed "qualified wildcard without a table name")

/-- The fields of the first row of a VALUES list, `column1`, `column2`, ... -/
def rowFields (n : Nat) : List Expr → Detect (List Field)
  | [] => pure []
  | e :: rest => do
    let inputs ← walk .value e []
    let f := exprField ("column" ++ toString n) e inputs
    let more ← rowFields (n + 1) rest
    return f :: more

/-- Walks the items of a FROM clause. -/
def fromClause : List TableWithJoins → Detect Unit
  | [] => pure ()
  | t :: rest => do
    tableWithJoins t
    fromClause rest

/-- Walks a table reference and its joins. -/
def tableWithJoins : TableWithJoins → Detect Unit
  | .mk relation js => do
    factor relation
    joins js

/-- Walks joins: the joined table, then the condition or the USING columns
of an inner or outer join. -/
def joins : List Join → Detect Unit
  | [] => pure ()
  | .mk _ kind relation on c :: rest => do
    factor relation
    if kind.readsConstraint then
      match c with
      | .on => let _ ← walkOpt .predicate on []
      | .using cols => addUsing cols
      | _ => pure ()
    joins rest

/-- Walks a table reference: a table or WITH name binds its name, a subquery
opens a scope bound to its alias, a parenthesized join is walked in place;
other references bind nothing and are logged as skipped. -/
def factor : TableFactor → Detect Unit
  | .table name _ aliasName _ => do
    let some t := TableName.ofParts name
      | throw (.malformed "table reference without a name")
    let a := match aliasName with
      | some al => al.name.value
      | none => t.name
    let target ← match ← lookupCte t with
      | some id => pure (BindingTarget.scope id)
      | none => pure (BindingTarget.table t)
    bind (some a) target
  | .derived _ q aliasName => do
    let a := aliasName.map (·.name.value)
    let child ← query .derived a q
    bind a (.scope child)
  | .nestedJoin inner _ => tableWithJoins inner
  | .other text =>
    log
      { level := .warn, target := LogTarget.walk,
        message := "relation kind carries no column lineage, skipped",
        fields := [("relation", text)] }

/-- Walks an expression in pre-order, collecting the columns it reads when
`mode` is `value`. A subquery opens a scope: a scalar one, which becomes an
input, in a value; a predicate one otherwise, as do EXISTS and IN subqueries.
Nothing inside a subquery is collected here. -/
def walk (mode : WalkMode) : Expr → List Field → Detect (List Field)
  | .identifier i, acc =>
    if mode == .value then
      return addInput (Field.ofColumn i.value { qualifier := none, column := i.value }) acc
    else pure acc
  | .compound parts, acc =>
    if mode == .value then
      match columnRef (.compound parts) with
      | some ref => return addInput (Field.ofColumn ref.column ref) acc
      | none => pure acc
    else pure acc
  | .isTest e _, acc => walk mode e acc
  | .isDistinctFrom a _ b, acc => do walk mode b (← walk mode a acc)
  | .inList e list _, acc => do walkList mode list (← walk mode e acc)
  | .inSubquery e q _, acc => do
    let _ ← query .predicate none q
    walk mode e acc
  | .inUnnest e arr _, acc => do walk mode arr (← walk mode e acc)
  | .between e _ lo hi, acc => do walk mode hi (← walk mode lo (← walk mode e acc))
  | .binary l _ r, acc => do walk mode r (← walk mode l acc)
  | .like _ _ _ e p _, acc => do walk mode p (← walk mode e acc)
  | .rlike _ e p _, acc => do walk mode p (← walk mode e acc)
  | .quantified l _ _ r, acc => do walk mode r (← walk mode l acc)
  | .unary _ e, acc => walk mode e acc
  | .postOp e _, acc => walk mode e acc
  | .cast _ e _ _, acc => walk mode e acc
  | .atTimeZone t z, acc => do walk mode z (← walk mode t acc)
  | .extract _ _ e, acc => walk mode e acc
  | .ceilFloor _ e _ _, acc => walk mode e acc
  | .position e i, acc => do walk mode i (← walk mode e acc)
  | .substring e f fo _, acc => do walkOpt mode fo (← walkOpt mode f (← walk mode e acc))
  | .trim e _ what chars, acc => do
    walkList mode chars (← walkOpt mode what (← walk mode e acc))
  | .overlay e w f fo, acc => do
    walkOpt mode fo (← walk mode f (← walk mode w (← walk mode e acc)))
  | .collate e _, acc => walk mode e acc
  | .nested e, acc => walk mode e acc
  | .tuple items, acc => walkList mode items acc
  | .array items _, acc => walkList mode items acc
  | .interval v _, acc => walk mode v acc
  | .function _ params args filter _ window withinGroup _, acc => do
    let acc ← walkArgs mode params acc
    let acc ← walkArgs mode args acc
    let acc ← walkOpt mode filter acc
    let acc ← walkWindow mode window acc
    walkOrder mode withinGroup acc
  | .namedArg _ _ e, acc => walk mode e acc
  | .exprNamedArg name _ e, acc => do walk mode e (← walk mode name acc)
  | .case operand conds results otherwise, acc => do
    let acc ← walkOpt mode operand acc
    let acc ← walkList mode conds acc
    let acc ← walkList mode results acc
    walkOpt mode otherwise acc
  | .exists q _, acc => do
    let _ ← query .predicate none q
    pure acc
  | .subquery q, acc => do
    match mode with
    | .value =>
      let id ← query .scalar none q
      return addInput (.scalar ("(" ++ q.render ++ ")") id .subquery) acc
    | .predicate =>
      let _ ← query .predicate none q
      pure acc
  | .access root chain, acc => do walkAccess mode chain (← walk mode root acc)
  | .pathAccess e path, acc => do walkPath mode path (← walk mode e acc)
  | .convert _ e _ _ _ styles, acc => do walkList mode styles (← walk mode e acc)
  | .structLiteral _ values, acc => walkList mode values acc
  | .named e _, acc => walk mode e acc
  | .dictionary _ values, acc => walkList mode values acc
  | .mapLiteral entries, acc => walkEntries mode entries acc
  | .prior e, acc => walk mode e acc
  | .composite e _, acc => walk mode e acc
  | .lambda _ _ body, acc => walk mode body acc
  | .outerJoin e, acc => walk mode e acc
  | .method e calls, acc => do walkList mode calls (← walk mode e acc)
  | .value _, acc | .typedString _ _, acc | .wildcard, acc | .qualifiedWildcard _, acc
  | .introduced _ _, acc | .matchAgainst _ _ _, acc => pure acc

/-- Walks expressions in order. -/
def walkList (mode : WalkMode) : List Expr → List Field → Detect (List Field)
  | [], acc => pure acc
  | e :: rest, acc => do walkList mode rest (← walk mode e acc)

/-- Walks the steps of an access in order. -/
def walkAccess (mode : WalkMode) : List Access → List Field → Detect (List Field)
  | [], acc => pure acc
  | .field e :: rest, acc => do walkAccess mode rest (← walk mode e acc)
  | .index e :: rest, acc => do walkAccess mode rest (← walk mode e acc)
  | .slice lower upper stride :: rest, acc => do
    walkAccess mode rest (← walkOpt mode stride (← walkOpt mode upper (← walkOpt mode lower acc)))

/-- Walks the expressions of the closing clauses of a call's arguments. -/
def walkClauses (mode : WalkMode) : List ArgClause → List Field → Detect (List Field)
  | [], acc => pure acc
  | .mk _ e _ :: rest, acc => do walkClauses mode rest (← walkOpt mode e acc)

/-- Walks the keys and values of map entries in order. -/
def walkEntries (mode : WalkMode) : List MapEntry → List Field → Detect (List Field)
  | [], acc => pure acc
  | .mk key v :: rest, acc => do walkEntries mode rest (← walk mode v (← walk mode key acc))

/-- Walks the bracketed steps of a path in order. -/
def walkPath (mode : WalkMode) : List PathStep → List Field → Detect (List Field)
  | [], acc => pure acc
  | .key _ _ :: rest, acc => walkPath mode rest acc
  | .bracket e :: rest, acc => do walkPath mode rest (← walk mode e acc)

/-- Walks an expression, if there is one. -/
def walkOpt (mode : WalkMode) : Option Expr → List Field → Detect (List Field)
  | none, acc => pure acc
  | some e, acc => walk mode e acc

/-- Walks the arguments of a call, then their ordering and limit. -/
def walkArgs (mode : WalkMode) : FunctionArgs → List Field → Detect (List Field)
  | .list _ args _ orderBy limit clauses, acc => do
    walkClauses mode clauses (← walkOpt mode limit (← walkOrder mode orderBy (← walkList mode args acc)))
  | _, acc => pure acc

/-- Walks the expressions of an ordering. -/
def walkOrder (mode : WalkMode) : List OrderItem → List Field → Detect (List Field)
  | [], acc => pure acc
  | .mk e _ _ fill :: rest, acc => do walkOrder mode rest (← walkFill mode fill (← walk mode e acc))

/-- Walks the `FROM`, `TO` and `STEP` of a `WITH FILL`. -/
def walkFill (mode : WalkMode) : Option Fill → List Field → Detect (List Field)
  | some (.mk start stop step), acc => do
    walkOpt mode step (← walkOpt mode stop (← walkOpt mode start acc))
  | none, acc => pure acc

/-- Walks a window specification: partitioning, ordering, then the frame
bounds. -/
def walkWindow (mode : WalkMode) : Option Window → List Field → Detect (List Field)
  | some (.spec _ partitionBy orderBy _ _ startExpr _ endExpr), acc => do
    let acc ← walkList mode partitionBy acc
    let acc ← walkOrder mode orderBy acc
    let acc ← walkOpt mode startExpr acc
    walkOpt mode endExpr acc
  | _, acc => pure acc

end

/-- The first two words of a statement's text. -/
def statementWords (text : String) : String := Text.leadingWords 2 text

/-- Walks one statement: its query, with the target of an INSERT, CREATE
TABLE ... AS or CREATE VIEW. Other statements carry no lineage. A detector
walks one statement until it is reset. -/
def statement (st : Statement) : Detect Unit := do
  if (← get).inUse then throw .detectorReused
  modify fun d => { d with inUse := true }
  match st with
  | .query q =>
    let r ← query .query none q
    modify fun d => { d with root := some r }
  | .insert target columns source _ _ =>
    let t ← match target with
      | .table name =>
        match (TableName.ofParts name).filter (!·.isBlank) with
        | some t => pure t
        | none => throw (.malformed "INSERT without a table identifier")
      | .function _ => throw (.malformed "INSERT into a table function has no table identifier")
    log
      { level := .debug, target := LogTarget.walk, message := "insert target",
        fields := [("table", t.render), ("columns", toString columns.length)] }
    modify fun d => { d with target := some { table := some t, columns := columns.map (·.value) } }
    match source with
    | none => throw (.malformed "INSERT without a source query")
    | some q =>
      let r ← query .query none q
      modify fun d => { d with root := some r }
  | .createTable name columns q =>
    match q with
    | none => throw (.unsupported "CREATE TABLE without AS SELECT")
    | some q =>
      modify fun d => { d with
        target := some { table := TableName.ofParts name, columns := columns.map (·.value) } }
      let r ← query .query none q
      modify fun d => { d with root := some r }
  | .createView name columns q =>
    modify fun d => { d with
      target := some { table := TableName.ofParts name, columns := columns.map (·.value) } }
    let r ← query .query none q
    modify fun d => { d with root := some r }
  | .other text => throw (.unsupported (statementWords text))
  if (← get).arena.depth != 0 then throw (.malformed "scopes left open after traversal")

end Detect

/-- Walks a statement with a detector: the outcome and the detector after. -/
def Detector.detect (d : Detector) (st : Statement) : Except LineageError Unit × Detector :=
  (Detect.statement st).run.run d

end ColumnLineage
