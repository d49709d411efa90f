import ColumnLineage.Lineage.Model
/-
ColumnLineage/Lineage/Arena.lean

The scopes of one statement. Every scope is kept in an arena, at the index
that is its id, in the order the scopes were opened, so a scope's parent
always has a smaller id than the scope itself. The scopes open at the moment
form a stack; opening one more than the depth limit allows fails.
-/

namespace ColumnLineage

/-- The scopes of a statement, the stack of open ones (innermost first) and
the depth limit. -/
structure ScopeArena where
  scopes : Array Scope := #[]
  stack : List Nat := []
  maxDepth : Nat
  deriving Repr, Inhabited

/-- The depth limit used when none is given. -/
def defaultMaxDepth : Nat := 64

namespace ScopeArena

/-- An empty arena with a depth limit. -/
def empty (maxDepth : Nat) : ScopeArena := { maxDepth }

/-- The innermost open scope. -/
def current (a : ScopeArena) : Option Nat := a.stack.head?

/-- How many scopes are open. -/
def depth (a : ScopeArena) : Nat := a.stack.length

/-- How many scopes were opened in all. -/
def size (a : ScopeArena) : Nat := a.scopes.size

/-- The scope with id `id`. -/
def get? (a : ScopeArena) (id : Nat) : Option Scope := a.scopes[id]?

/-- Changes the scope with id `id`. -/
def modify (a : ScopeArena) (id : Nat) (f : Scope → Scope) : ScopeArena :=
  { a with scopes := a.scopes.modify id f }

/-- Opens a scope inside the current one and makes it current; its id is the
next free index. Fails when as many scopes as the limit allows are open. -/
def enter (a : ScopeArena) (kind : ScopeKind) (aliasName : Option String) :
    Except LineageError (Nat × ScopeArena) :=
  if a.stack.length ≥ a.maxDepth then .error (.depthExceeded a.maxDepth)
  else
    let id := a.scopes.size
    let s : Scope := { id, parent := a.current, kind, aliasName }
    .ok (id, { a with scopes := a.scopes.push s, stack := id :: a.stack })

/-- Closes the current scope; fails when none is open. -/
def exit (a : ScopeArena) : Except LineageError (Nat × ScopeArena) :=
  match a.stack with
  | [] => .error .scopeUnderflow
  | id :: rest => .ok (id, { a with stack := rest })

/-- The parents of a scope, nearest first, the scope itself excluded. Each
step goes to a scope opened earlier, so no chain is longer than the arena. -/
def ancestors (a : ScopeArena) (id : Nat) : List Nat :=
  let rec go : Nat → Option Nat → List Nat
    | 0, _ => []
    | _ + 1, none => []
    | fuel + 1, some p =>
      match a.get? p with
      | some s => p :: go fuel s.parent
      | none => []
  go a.scopes.size ((a.get? id).bind (·.parent))

/-- Forgets every scope, keeping the limit. -/
def reset (a : ScopeArena) : ScopeArena := { maxDepth := a.maxDepth }

end ScopeArena

end ColumnLineage
