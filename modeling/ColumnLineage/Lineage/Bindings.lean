import ColumnLineage.Lineage.Arena
import ColumnLineage.Lineage.Catalog
/-
ColumnLineage/Lineage/Bindings.lean

Placing column references. Once a scope's FROM clause is read, every column
its output reads is placed: a qualified column in the binding its qualifier
names, an unqualified one in the only binding that may hold it. A binding
may hold a column when the catalog says its table has it or does not know the
table, or when the scope it stands for outputs the column or a wildcard that
could stand for it. Subqueries of expressions and set operands may also read
the columns of the scopes around them; subqueries of FROM and WITH bodies may
not.

A column of `JOIN ... USING` comes from every joined side that may hold it,
and is read from all of them.

Placing logs two kinds of events: one for each column met that a
`JOIN ... USING` names, with the number of sides that may hold it, and a
warning for each column that more than one binding may hold.
-/

namespace ColumnLineage

/-- Whether a binding can supply a column: yes, no, or no knowledge either way. -/
inductive Provides where
  | yes | no | unknown
  deriving DecidableEq, Repr

/-- The origin a binding gives the columns read through it. -/
def BindingTarget.origin : BindingTarget → Origin
  | .table t => .table t
  | .scope id => .scope id

/-- How a binding is named in an ambiguity: its alias, or its table, or the
id of its subquery. -/
def Binding.label (b : Binding) : String :=
  match b.aliasName, b.target with
  | some a, _ => a
  | none, .table t => t.render
  | none, .scope id => "subquery #" ++ toString id

/-- Whether the scopes of a kind may read the columns of the scope around them. -/
def ScopeKind.seesEnclosing : ScopeKind → Bool
  | .scalar | .predicate | .setOperand => true
  | _ => false

namespace Bindings

/-- The first binding a qualifier names: `t` names the binding with alias
`t`; `db.t` names a binding to exactly that table. -/
def findQualified (s : Scope) (q : TableName) : Option Binding :=
  s.bindings.find? fun b =>
    match q.database, b.target with
    | none, _ => b.aliasName == some q.name
    | some _, .table t => t == q
    | some _, .scope _ => false

/-- Whether a binding can supply `column`. -/
def provides (cat : Catalog) (arena : ScopeArena) (b : Binding) (column : String) : Provides :=
  match b.target with
  | .table t =>
    match cat.hasColumn t column with
    | some true => .yes
    | some false => .no
    | none => .unknown
  | .scope id =>
    match arena.get? id with
    | none => .unknown
    | some child =>
      if child.fields.any (·.name == column) then .yes
      else if child.fields.any Field.isStar then .unknown
      else .no

/-- Where a column is placed within one scope, if the scope places it. -/
def resolveIn (cat : Catalog) (arena : ScopeArena) (s : Scope) (ref : ColumnRef) :
    Option Origin :=
  match ref.qualifier with
  | some q => (findQualified s q).map (·.target.origin)
  | none =>
    match s.bindings.filter (fun b => provides cat arena b ref.column != .no) with
    | [] => none
    | [b] => some b.target.origin
    | many => some (.ambiguous (many.map Binding.label))

/-- Where a column read in scope `id` comes from: the scope itself places it,
or, for scopes that see the one around them, the nearest enclosing scope
that does. Parents have smaller ids, so the walk is bounded by the arena. -/
def resolve (cat : Catalog) (arena : ScopeArena) (id : Nat) (ref : ColumnRef) : Origin :=
  let rec go : Nat → Option Nat → Origin
    | 0, _ => .unbound
    | _ + 1, none => .unbound
    | fuel + 1, some i =>
      match arena.get? i with
      | none => .unbound
      | some s =>
        match resolveIn cat arena s ref with
        | some o => o
        | none => if s.kind.seesEnclosing then go fuel s.parent else .unbound
  go (arena.size + 1) (some id)

/-- The event logged when a column that `JOIN ... USING` names is met in
scope `id`: the column and the number of joined sides that may hold it. -/
def usingEvent (id : Nat) (column : String) (sides : Nat) : Log.Event :=
  { level := .debug, target := LogTarget.bindings, message := "USING column",
    fields := [("scope", toString id), ("column", column), ("sides", toString sides)] }

/-- The warning logged when more than one binding may hold a column. -/
def ambiguityEvent (column : String) (candidates : List String) : Log.Event :=
  { level := .warn, target := LogTarget.bindings, message := "ambiguous column reference",
    fields := [("column", column), ("candidates", quotedNames candidates)] }

/-- For an unqualified, unplaced column named by `JOIN ... USING`: one input
per joined side that may hold it, when there are at least two, and the
event logged on meeting it. -/
def usingSides (cat : Catalog) (arena : ScopeArena) (id : Nat) (f : Field) :
    Option (List Field) × List Log.Event :=
  match f with
  | .column _ ref _ =>
    if ref.origin != .pending || ref.qualifier.isSome then (none, [])
    else
      match arena.get? id with
      | none => (none, [])
      | some s =>
        match s.usingColumns.find? (·.column == ref.column) with
        | none => (none, [])
        | some u =>
          let sides := (s.bindings.take u.bindings).filter
            (fun b => provides cat arena b ref.column != .no)
          let fields := sides.map fun b =>
            Field.ofColumn ref.column { ref with origin := b.target.origin }
          (if fields.length > 1 then some fields else none,
            [usingEvent id ref.column fields.length])
  | _ => (none, [])

mutual

/-- Places the columns a field reads, read in scope `id`; ambiguous columns
add a warning. Answers the events logged too. -/
def placeField (cat : Catalog) (arena : ScopeArena) (id : Nat) :
    Field → Field × List LineageError × List Log.Event
  | f@(.column n ref p) =>
    match usingSides cat arena id f with
    | (some sides, events) => (.derived n sides p, [], events)
    | (none, events) =>
      if ref.origin == .pending then
        let o := resolve cat arena id ref
        match o with
        | .ambiguous labels =>
          (.column n { ref with origin := o } p, [LineageError.ambiguous ref.column labels],
            events ++ [ambiguityEvent ref.column labels])
        | _ => (.column n { ref with origin := o } p, [], events)
      else (f, [], events)
  | .derived n deps p =>
    let (deps', ws, es) := placeFields cat arena id deps
    (.derived n deps' p, ws, es)
  | f => (f, [], [])

/-- Places the columns of each field in turn. -/
def placeFields (cat : Catalog) (arena : ScopeArena) (id : Nat) :
    List Field → List Field × List LineageError × List Log.Event
  | [] => ([], [], [])
  | f :: fs =>
    let (f', w1, e1) := placeField cat arena id f
    let (fs', w2, e2) := placeFields cat arena id fs
    (f' :: fs', w1 ++ w2, e1 ++ e2)

end

/-- Completes scope `id` once its FROM clause and outputs are read: places
every column its outputs read and records its single table, if its FROM
clause holds exactly one. The outputs are set aside while they are placed.
Answers the warnings raised and the events logged. -/
def finalize (cat : Catalog) (arena : ScopeArena) (id : Nat) :
    ScopeArena × List LineageError × List Log.Event :=
  match arena.get? id with
  | none => (arena, [], [])
  | some s =>
    let cleared := arena.modify id fun s => { s with fields := [] }
    let (fields, warnings, events) := placeFields cat cleared id s.fields
    let fromTable := match s.bindings with
      | [{ target := .table t, .. }] => some t
      | _ => none
    (arena.modify id fun s => { s with fields, fromTable }, warnings, events)

end Bindings

end ColumnLineage
