import ColumnLineage.Proofs.Run
/-
ColumnLineage/Proofs/DetectSteps.lean

The steps of the walk over a statement, each run once and for all. Every
primitive of `Detect` that touches the arena or the frames of WITH names gets
an equation for its run: the outcome and the detector after it, with the
failure it may raise. The proofs about whole walks cite these equations and
never unfold a primitive.

The arena is an array indexed by scope ids: opening a scope pushes it, every
other change rewrites one entry, so the scope with a given id is either the
same as before or the one entry that was changed.
-/

namespace ColumnLineage

open Run

namespace ScopeArena

variable (a : ScopeArena) (id : Nat) (f : Scope → Scope)

@[simp] theorem size_modify : (a.modify id f).size = a.size := by
  simp [modify, size]

@[simp] theorem stack_modify : (a.modify id f).stack = a.stack := rfl

@[simp] theorem maxDepth_modify : (a.modify id f).maxDepth = a.maxDepth := rfl

theorem get?_modify (i : Nat) :
    (a.modify id f).get? i = if id = i then (a.get? i).map f else a.get? i :=
  Array.getElem?_modify

@[simp] theorem get?_modify_self : (a.modify id f).get? id = (a.get? id).map f := by
  simp [get?_modify]

theorem get?_modify_of_ne {i : Nat} (h : id ≠ i) : (a.modify id f).get? i = a.get? i := by
  simp [get?_modify, h]

/-- Two changes of one scope are one change. -/
theorem modify_modify (g : Scope → Scope) : (a.modify id f).modify id g = a.modify id (g ∘ f) := by
  simp only [modify, mk.injEq, and_true]
  apply Array.ext (by simp)
  intro i h₁ h₂
  simp only [Array.getElem_modify]
  split <;> rfl

theorem modify_self : a.modify id (fun s => s) = a := by
  simp only [modify]
  congr 1
  apply Array.ext (by simp)
  intro i h₁ h₂
  simp only [Array.getElem_modify]
  split <;> rfl

/-- Changes of two different scopes are made in either order. -/
theorem modify_comm {j : Nat} (g : Scope → Scope) (h : id ≠ j) :
    (a.modify id f).modify j g = (a.modify j g).modify id f := by
  simp only [modify, mk.injEq, and_true]
  apply Array.ext (by simp)
  intro i h₁ h₂
  simp only [Array.getElem_modify]
  by_cases hj : j = i
  · subst hj
    simp [h]
  · by_cases hi : id = i <;> simp [hi, hj]

variable {a}

theorem lt_size_of_get? {i : Nat} {S : Scope} (h : a.get? i = some S) : i < a.size := by
  simp only [get?, size] at h ⊢
  exact (Array.getElem?_eq_some_iff.mp h).1

theorem get?_eq_none {i : Nat} (h : a.size ≤ i) : a.get? i = none := by
  simp only [get?, size] at h ⊢
  exact Array.getElem?_eq_none h

theorem exists_get?_of_lt {i : Nat} (h : i < a.size) : ∃ S, a.get? i = some S :=
  ⟨a.scopes[i], by simp [get?, Array.getElem?_eq_getElem h]⟩

end ScopeArena

/-- The arena with one more scope open: `s` pushed and made current. -/
def ScopeArena.push (a : ScopeArena) (s : Scope) : ScopeArena :=
  { a with scopes := a.scopes.push s, stack := a.size :: a.stack }

/-- The scope that opening a scope of kind `kind` in `a` creates. -/
def ScopeArena.opened (a : ScopeArena) (kind : ScopeKind) (aliasName : Option String) : Scope :=
  { id := a.size, parent := a.current, kind, aliasName }

namespace ScopeArena

variable {a : ScopeArena} {s : Scope}

@[simp] theorem size_push : (a.push s).size = a.size + 1 := by
  simp [push, size]

@[simp] theorem stack_push : (a.push s).stack = a.size :: a.stack := rfl

@[simp] theorem maxDepth_push : (a.push s).maxDepth = a.maxDepth := rfl

theorem get?_push (i : Nat) : (a.push s).get? i = if i = a.size then some s else a.get? i :=
  Array.getElem?_push

@[simp] theorem get?_push_self : (a.push s).get? a.size = some s := by
  simp [get?_push]

theorem get?_push_of_lt {i : Nat} (h : i < a.size) : (a.push s).get? i = a.get? i := by
  simp [get?_push, Nat.ne_of_lt h]

theorem enter_eq (kind : ScopeKind) (aliasName : Option String) :
    a.enter kind aliasName =
      if a.stack.length ≥ a.maxDepth then .error (.depthExceeded a.maxDepth)
      else .ok (a.size, a.push (a.opened kind aliasName)) := rfl

end ScopeArena

namespace Detect

variable {α : Type}

@[simp] theorem run_fail (e : LineageError) (s : Detector) :
    (fail e : Detect α).run.run s = (.error e, s) := rfl

@[simp] theorem run_warn (w : LineageError) (s : Detector) :
    (warn w).run.run s = (.ok (), { s with warnings := s.warnings ++ [w] }) := rfl

@[simp] theorem run_log (e : Log.Event) (s : Detector) :
    (log e).run.run s = (.ok (), { s with events := s.events ++ [e] }) := rfl

/-- Opening a scope fails at the depth limit, and otherwise pushes the scope
under the next free id. -/
theorem run_enter (kind : ScopeKind) (aliasName : Option String) (s : Detector) :
    (enter kind aliasName).run.run s =
      if s.arena.stack.length ≥ s.arena.maxDepth then
        (.error (.depthExceeded s.arena.maxDepth), s)
      else (.ok s.arena.size, { s with arena := s.arena.push (s.arena.opened kind aliasName) }) := by
  by_cases h : s.arena.stack.length ≥ s.arena.maxDepth <;>
    simp only [enter, Run.run_bind, Run.run_get, ScopeArena.enter_eq, h, if_true, if_false] <;> rfl

theorem run_exit (s : Detector) :
    exit.run.run s = match s.arena.stack with
      | [] => (.error .scopeUnderflow, s)
      | id :: rest => (.ok id, { s with arena := { s.arena with stack := rest } }) := by
  rcases h : s.arena.stack with _ | ⟨id, rest⟩ <;>
    simp only [exit, Run.run_bind, Run.run_get, ScopeArena.exit, h] <;> rfl

theorem run_modifyScope (id : Nat) (f : Scope → Scope) (s : Detector) :
    (modifyScope id f).run.run s =
      if (s.arena.get? id).isNone then (.error (.malformed ("unknown scope " ++ toString id)), s)
      else (.ok (), { s with arena := s.arena.modify id f }) := by
  by_cases h : (s.arena.get? id).isNone <;>
    simp only [modifyScope, Run.run_bind, Run.run_get, h, if_true, if_false, Bool.false_eq_true] <;> rfl

theorem run_current (s : Detector) :
    current.run.run s = match s.arena.current with
      | some id => (.ok id, s)
      | none => (.error (.malformed "no SELECT in progress"), s) := by
  rcases h : s.arena.current with _ | id <;>
    simp only [current, Run.run_bind, Run.run_get, h] <;> rfl

theorem run_bind (aliasName : Option String) (target : BindingTarget) (s : Detector) :
    (Detect.bind aliasName target).run.run s = match s.arena.current with
      | some id => (.ok (), { s with arena := s.arena.modify id fun c =>
          { c with bindings := c.bindings ++ [{ aliasName, target }] } })
      | none => (.error (.malformed "no SELECT in progress"), s) := by
  rcases h : s.arena.current with _ | id
  · simp only [Detect.bind, Run.run_bind, run_current, h]
  · simp only [Detect.bind, Run.run_bind, run_current, h]; rfl

/-- The USING columns of a scope after `JOIN ... USING columns`, when the
scope has `shared` bindings so far. -/
def usingColumnsAfter (columns : List Sql.ObjectName) (shared : Nat) (us : List UsingColumn) :
    List UsingColumn :=
  columns.foldl (fun acc name =>
      match name.getLast? with
      | some c => (acc.filter (·.column != c.value)) ++ [{ column := c.value, bindings := shared }]
      | none => acc)
    us

theorem run_addUsing (columns : List Sql.ObjectName) (s : Detector) :
    (addUsing columns).run.run s = match s.arena.current with
      | some id => (.ok (), { s with arena := s.arena.modify id fun c =>
          { c with usingColumns := usingColumnsAfter columns c.bindings.length c.usingColumns } })
      | none => (.error (.malformed "no SELECT in progress"), s) := by
  rcases h : s.arena.current with _ | id
  · simp only [addUsing, Run.run_bind, run_current, h]
  · simp only [addUsing, Run.run_bind, run_current, h]; rfl

theorem run_finalize (id : Nat) (s : Detector) :
    (finalize id).run.run s =
      (.ok (), { s with
        arena := (Bindings.finalize s.catalog s.arena id).1
        warnings := s.warnings ++ (Bindings.finalize s.catalog s.arena id).2.1
        events := s.events ++ (Bindings.finalize s.catalog s.arena id).2.2 }) := rfl

@[simp] theorem run_pushFrame (s : Detector) :
    pushFrame.run.run s = (.ok (), { s with frames := [] :: s.frames }) := rfl

@[simp] theorem run_popFrame (s : Detector) :
    popFrame.run.run s = (.ok (), { s with frames := s.frames.drop 1 }) := rfl

/-- What a query does when its body fails: it closes the frame of its WITH
names and passes the failure on. -/
theorem run_popFrame_throw (e : LineageError) (s : Detector) :
    (do popFrame; throw e : Detect α).run.run s =
      (.error e, { s with frames := s.frames.drop 1 }) := rfl

theorem run_addCte (name : String) (id : Nat) (s : Detector) :
    (addCte name id).run.run s = (.ok (), { s with frames := match s.frames with
      | [] => []
      | f :: fs => ((name, id) :: f) :: fs }) := rfl

theorem run_lookupCte (t : TableName) (s : Detector) :
    (lookupCte t).run.run s =
      (.ok (if t.database.isSome then none else s.frames.findSome? fun f => f.lookup t.name), s) := by
  by_cases h : t.database.isSome <;>
    simp only [lookupCte, Run.run_bind, Run.run_get, h, if_true, if_false, Bool.false_eq_true] <;> rfl

/-! ### Wildcards

The expansion of a wildcard, taken out of `expandWildcard` as plain
functions: which bindings it expands, what it starts from, and one binding's
columns. -/

/-- The bindings of scope `S` that a wildcard with qualifier `qualifier`
expands. -/
def wildcardBindings (S : Scope) : Option TableName → List Binding
  | some q => (Bindings.findQualified S q).toList
  | none => S.bindings

/-- What the expansion starts from: the wildcard itself, left unexpanded,
when no binding matches. -/
def wildcardStart (qualifier : Option TableName) (bindings : List Binding) :
    List Field × List String :=
  if bindings.isEmpty then
    let marker := match qualifier with
      | some q => q.render ++ ".*"
      | none => "*"
    ([.wildcard marker none .wildcard], [marker])
  else ([], [])

/-- The columns one binding adds to a wildcard's expansion, and the wildcard
left unexpanded when the catalog does not know its table. -/
def expandBinding (cat : Catalog) (arena : ScopeArena) (qualifier : Option TableName)
    (acc : List Field × List String) (b : Binding) : List Field × List String :=
  let exposedAs := b.aliasName.map fun a => ({ database := none, name := a } : TableName)
  match b.target with
  | .scope child =>
    match arena.get? child with
    | none => acc
    | some cs =>
      (acc.1 ++ cs.fields.zipIdx.map fun (f, i) =>
        Field.column f.name
          { qualifier := exposedAs, column := f.name, position := some i, origin := .scope child }
          .wildcard, acc.2)
  | .table t =>
    match cat.columns? t with
    | some cols =>
      (acc.1 ++ cols.map fun c =>
        Field.column c { qualifier := exposedAs, column := c, origin := .table t } .wildcard, acc.2)
    | none =>
      let marker := match b.aliasName, qualifier with
        | some a, some _ => a ++ ".*"
        | _, _ => "*"
      (acc.1 ++ [.wildcard marker (some t) .wildcard], acc.2 ++ [t.render ++ ".*"])

/-- The expansion of a wildcard in scope `S`: its fields, and the wildcards
left unexpanded. -/
def wildcardFields (cat : Catalog) (arena : ScopeArena) (S : Scope)
    (qualifier : Option TableName) : List Field × List String :=
  (wildcardBindings S qualifier).foldl (expandBinding cat arena qualifier)
    (wildcardStart qualifier (wildcardBindings S qualifier))

/-- The event logged for a wildcard left unexpanded. -/
def unexpandedEvent (m : String) : Log.Event :=
  { level := .warn, target := LogTarget.fields,
    message := "wildcard left unexpanded, no catalog entry", fields := [("wildcard", m)] }

theorem run_forIn_unexpanded (ms : List String) (s : Detector) :
    (forIn ms PUnit.unit fun m _ => do
        log
          { level := .warn, target := LogTarget.fields,
            message := "wildcard left unexpanded, no catalog entry", fields := [("wildcard", m)] }
        warn (.unresolvedWildcard m)
        pure (ForInStep.yield PUnit.unit) : Detect PUnit).run.run s =
      (.ok PUnit.unit, { s with
        warnings := s.warnings ++ ms.map .unresolvedWildcard
        events := s.events ++ ms.map unexpandedEvent }) := by
  induction ms generalizing s with
  | nil => simp only [List.forIn_nil, List.map_nil, List.append_nil]; rfl
  | cons m ms ih =>
    simp only [List.forIn_cons, Run.run_bind, run_log, run_warn, Run.run_pure, ih]
    simp [unexpandedEvent]

/-- A wildcard expands in the current scope, with a warning and an event for
each table the catalog does not know; outside of a scope it fails. -/
theorem run_expandWildcard (qualifier : Option TableName) (s : Detector) :
    (expandWildcard qualifier).run.run s = match s.arena.current.bind s.arena.get? with
      | none => (.error (.malformed "wildcard outside of a SELECT"), s)
      | some S => (.ok (wildcardFields s.catalog s.arena S qualifier).1, { s with
          warnings := s.warnings ++
            (wildcardFields s.catalog s.arena S qualifier).2.map .unresolvedWildcard
          events := s.events ++
            (wildcardFields s.catalog s.arena S qualifier).2.map unexpandedEvent }) := by
  rcases h : s.arena.current.bind s.arena.get? with _ | S
  · simp only [expandWildcard, Run.run_bind, Run.run_get, h]
    rfl
  · simp only [expandWildcard, Run.run_bind, Run.run_get, h]
    rw [run_forIn_unexpanded]
    rfl

/-- A column name met by an expression walk: an input of a value, passed over
in a condition. -/
theorem walk_identifier (mode : WalkMode) (i : Sql.Ident) (acc : List Field) :
    walk mode (.identifier i) acc =
      if mode == .value then
        pure (addInput (Field.ofColumn i.value { qualifier := none, column := i.value }) acc)
      else pure acc := rfl

/-- A qualified column name met by an expression walk. -/
theorem walk_compound (mode : WalkMode) (parts : List Sql.Ident) (acc : List Field) :
    walk mode (.compound parts) acc =
      if mode == .value then
        match columnRef (.compound parts) with
        | some ref => pure (addInput (Field.ofColumn ref.column ref) acc)
        | none => pure acc
      else pure acc := rfl

end Detect

end ColumnLineage
