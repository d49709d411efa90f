import ColumnLineage.Lineage.Arena
/-
ColumnLineage/Lineage/Resolve.lean

Following output fields down to their sources. A field read from a table
ends there; one read from another scope continues with the output of that
scope of the same name (or at the same place, when a wildcard expansion
recorded it); a computed field gathers the sources of its inputs; a scalar
subquery those of all its outputs. A name a scope does not output may still
come through the scope's one unexpanded wildcard.

Each step into another scope goes one level deeper, and going deeper than the
limit fails, which bounds the walk. The sources found for a name of a scope
are kept and reused, so scopes shared by many fields are followed once.
-/

namespace ColumnLineage

/-- What the walk keeps between fields: the warnings raised so far and the
sources found for each name looked up in a scope (with its place, if any). -/
structure ResolverState where
  warnings : List LineageError := []
  found : List ((Nat × String × Option Nat) × SourceSet) := []
  deriving Repr, Inhabited

/-- A step of the walk to sources; a failure keeps the state built before it. -/
abbrev Resolve := ExceptT LineageError (StateM ResolverState)

namespace Resolve

/-- Warns once that `column` is output more than once by scope `scope`. -/
def duplicateOutput (column : String) (scope : Nat) : Resolve Unit :=
  modify fun st =>
    let w := LineageError.duplicateOutput column scope
    if st.warnings.contains w then st else { st with warnings := st.warnings ++ [w] }

/-- The source of a name that comes through an unexpanded wildcard that is
not a link to another scope. -/
def starSource (star : Field) (name : String) : SourceSet :=
  match star with
  | .wildcard _ (some t) _ => [{ table := some t, field := name }]
  | .column _ { origin := .table t, .. } _ => [{ table := some t, field := name }]
  | _ => [{ table := none, field := name, kind := .unresolved }]

/-- The field of a scope's output that a name (with its place, if known)
designates, and whether the name is output more than once: the field at the
place when it has the name, else the first with the name, else the field at
the place unless it is a wildcard. -/
def chooseField (fields : List Field) (name : String) (position : Option Nat) :
    Option Field × Bool :=
  let atPlace := position.bind (fields[·]?)
  match atPlace.filter (·.name == name) with
  | some f => (some f, false)
  | none =>
    let named := fields.filter (·.name == name)
    (named.head? <|> atPlace.filter (!·.isStar), named.length ≥ 2)

mutual

/-- The sources of a field read at depth `depth`. -/
def field (arena : ScopeArena) (maxDepth depth : Nat) (f : Field) : Resolve SourceSet :=
  match f with
  | .column _ ref _ =>
    match ref.origin with
    | .table t => pure [{ table := some t, field := ref.column }]
    | .scope child => named arena maxDepth (depth + 1) child ref.column ref.position
    | .ambiguous _ => pure [{ table := ref.qualifier, field := ref.column, kind := .ambiguous }]
    | .unbound | .pending =>
      pure [{ table := ref.qualifier, field := ref.column, kind := .unresolved }]
  | .derived _ deps _ => fields arena maxDepth depth deps
  | .scalar _ child _ =>
    if h : maxDepth < depth + 1 then throw (.depthExceeded maxDepth)
    else
      match arena.get? child with
      | none => throw (.malformed ("unknown scope " ++ toString child))
      | some s => fieldsDeeper arena maxDepth depth s.fields h
  | .constant n _ => pure [{ table := none, field := n, kind := .literal }]
  | .wildcard _ t _ => pure [{ table := t, field := "*", kind := .unresolvedWildcard }]
termination_by (maxDepth + 1 - depth, sizeOf f, 1)

/-- The sources of fields read at depth `depth`, together. -/
def fields (arena : ScopeArena) (maxDepth depth : Nat) (fs : List Field) : Resolve SourceSet :=
  match fs with
  | [] => pure []
  | f :: rest => do
    let a ← field arena maxDepth depth f
    let b ← fields arena maxDepth depth rest
    return SourceSet.union a b
termination_by (maxDepth + 1 - depth, sizeOf fs, 1)

/-- The sources of the outputs of a scalar subquery, one level deeper than
the field that reads it. -/
def fieldsDeeper (arena : ScopeArena) (maxDepth depth : Nat) (fs : List Field)
    (_h : ¬ maxDepth < depth + 1) : Resolve SourceSet :=
  fields arena maxDepth (depth + 1) fs
termination_by (maxDepth + 1 - depth, 0, 0)

/-- The sources of the output named `name` of scope `id`, looked up at depth
`depth`; found once, then reused. -/
def named (arena : ScopeArena) (maxDepth depth id : Nat) (name : String)
    (position : Option Nat) : Resolve SourceSet := do
  match (← get).found.lookup (id, name, position) with
  | some sources => pure sources
  | none =>
    if h : maxDepth < depth then throw (.depthExceeded maxDepth)
    else
      let sources ← lookup arena maxDepth depth id name position h
      modify fun st => { st with found := ((id, name, position), sources) :: st.found }
      pure sources
termination_by (maxDepth + 2 - depth, 0, 1)

/-- Looks a name up in the output of scope `id`. -/
def lookup (arena : ScopeArena) (maxDepth depth id : Nat) (name : String)
    (position : Option Nat) (_h : ¬ maxDepth < depth) : Resolve SourceSet := do
  match arena.get? id with
  | none => throw (.malformed ("unknown scope " ++ toString id))
  | some s =>
    let (chosen, repeated) := chooseField s.fields name position
    if repeated then duplicateOutput name id
    match chosen with
    | some f => field arena maxDepth depth f
    | none =>
      match s.fields.filter Field.isStar with
      | [star] =>
        match star with
        | .column _ { origin := .scope child, .. } _ =>
          named arena maxDepth (depth + 1) child name none
        | _ => pure (starSource star name)
      | [] => pure [{ table := none, field := name, kind := .unresolved }]
      | _ => pure [{ table := none, field := name, kind := .ambiguous }]
termination_by (maxDepth + 2 - depth, 0, 0)

end

end Resolve

/-- The sources of a field of the outermost scope, with the state of the walk. -/
def sourcesOf (arena : ScopeArena) (maxDepth : Nat) (f : Field) : Resolve SourceSet :=
  Resolve.field arena maxDepth 0 f

end ColumnLineage
