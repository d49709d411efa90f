import Mathlib.Data.List.Chain
import ColumnLineage.Proofs.WalkFrame
/-
ColumnLineage/Proofs/ScopeStack.lean

The arena as a client drives it: openings, closings, resets and reads, one
after another, each from the arena the last one left. A failed opening or
closing leaves the arena as it was, and a read changes nothing.

`ScopeArena.Consistent` is what every arena so reached satisfies: each scope
sits at the index that is its id; a scope's parent was opened before it; the
open scopes, innermost first, are the parent chain of the current scope down
to a root (`ParentChain`); no more scopes are open than the limit allows; and
every scope has fewer ancestors than the limit. Each operation keeps it
(`Consistent.perform`).

A scope's parent is fixed when it is opened and nothing but a reset forgets a
scope, so `ancestors` follows the same chain from then on; and at its opening
that chain is the stack of open scopes. So the ancestors of a scope are, until
the next reset, the scopes open at its opening (`Consistent.ancestors_entered`).

Scopes close innermost first, and `ClosesBefore` reads that order off the
arena: a scope closes before each scope around it, and before every scope
opened after it that it does not enclose. It is the order of closing as long
as the arena stays nested (`Nested`): the open scopes are the current scope
and its ancestors, and a scope opened while another is open lies inside it.
Opening, changing and closing a scope keep it nested, and the current scope
closes after every scope closed already (`Nested.done_closesBefore_top`).

Main statement (`scopeArena_contract`): every arena reached from an empty one
is consistent, its stack strictly decreasing and made of the current scope
and its ancestors; the ancestors of each scope are its parent chain, strictly
decreasing; a scope opened later has the open scopes for ancestors until a
reset; an opening fails exactly at the limit and a closing exactly on an empty
stack, and only then is the arena left as it was; an opened scope's id is the
size of the arena before.
-/

namespace ColumnLineage

namespace ScopeArena

/-! ### Operations -/

/-- What a client asks of an arena. -/
inductive Op where
  | enter (kind : ScopeKind) (aliasName : Option String)
  | exit
  | reset
  | get (id : Nat)
  | ancestors (id : Nat)
  | currentMut

/-- The arena after an operation. -/
def perform (a : ScopeArena) : Op → ScopeArena
  | .enter kind aliasName =>
    match a.enter kind aliasName with
    | .ok (_, a') => a'
    | .error _ => a
  | .exit =>
    match a.exit with
    | .ok (_, a') => a'
    | .error _ => a
  | .reset => a.reset
  | .get _ | .ancestors _ | .currentMut => a

/-- The arena after operations in turn. -/
def performAll (a : ScopeArena) (ops : List Op) : ScopeArena :=
  ops.foldl perform a

/-- The arenas a client reaches from an empty one with the limit `m`. -/
def Reachable (m : Nat) (a : ScopeArena) : Prop :=
  ∃ ops, (empty m).performAll ops = a

@[simp] theorem performAll_nil (a : ScopeArena) : a.performAll [] = a := rfl

@[simp] theorem performAll_cons (a : ScopeArena) (op : Op) (ops : List Op) :
    a.performAll (op :: ops) = (a.perform op).performAll ops := rfl

variable {a a' : ScopeArena}

theorem perform_enter (kind : ScopeKind) (aliasName : Option String) :
    a.perform (.enter kind aliasName) =
      if a.maxDepth ≤ a.depth then a else a.push (a.opened kind aliasName) := by
  by_cases hfull : a.maxDepth ≤ a.stack.length <;>
    simp only [perform, enter_eq, depth, ge_iff_le, hfull, ↓reduceIte]

theorem perform_exit_nil (hs : a.stack = []) : a.perform .exit = a := by
  simp only [perform, exit, hs]

theorem perform_exit_cons {top : Nat} {rest : List Nat} (hs : a.stack = top :: rest) :
    a.perform .exit = { a with stack := rest } := by
  simp only [perform, exit, hs]

@[simp] theorem maxDepth_perform : ∀ op, (a.perform op).maxDepth = a.maxDepth
  | .enter kind aliasName => by rw [perform_enter]; split <;> rfl
  | .exit => by
    rcases hs : a.stack with _ | ⟨top, rest⟩
    · rw [perform_exit_nil hs]
    · rw [perform_exit_cons hs]
  | .reset | .get _ | .ancestors _ | .currentMut => rfl

theorem maxDepth_performAll : ∀ (a : ScopeArena) (ops : List Op),
    (a.performAll ops).maxDepth = a.maxDepth
  | _, [] => rfl
  | a, op :: ops => by rw [performAll_cons, maxDepth_performAll, maxDepth_perform]

/-- Only a reset forgets scopes. -/
theorem size_le_perform : ∀ {op : Op}, op ≠ .reset → a.size ≤ (a.perform op).size
  | .enter kind aliasName, _ => by
    rw [perform_enter]
    split
    · exact Nat.le_refl _
    · simp
  | .exit, _ => by
    rcases hs : a.stack with _ | ⟨top, rest⟩
    · rw [perform_exit_nil hs]
    · rw [perform_exit_cons hs]
      exact Nat.le_refl _
  | .reset, h => absurd rfl h
  | .get _, _ | .ancestors _, _ | .currentMut, _ => Nat.le_refl _

/-! ### Parent chains -/

/-- `ParentChain a o l`: the parent links of `a`, followed from `o`, pass the
scopes `l`, nearest first, and end at a root. -/
inductive ParentChain (a : ScopeArena) : Option Nat → List Nat → Prop
  | root : ParentChain a none []
  | parent {p : Nat} {S : Scope} {l : List Nat} :
      a.get? p = some S → ParentChain a S.parent l → ParentChain a (some p) (p :: l)

/-- Every scope's parent was opened before it. -/
def ParentsBefore (a : ScopeArena) : Prop :=
  ∀ {i S p}, a.get? i = some S → S.parent = some p → p < i

/-- Pushing a scope keeps every scope there was. -/
theorem get?_push_of_get? {s : Scope} {p : Nat} {S : Scope} (h : a.get? p = some S) :
    (a.push s).get? p = some S := by
  rw [get?_push_of_lt (lt_size_of_get? h), h]

/-- The ancestors of a scope read only which scopes there are and their
parents: not the rest of a scope, nor the stack. -/
theorem ancestors_congr_parent (hsize : a'.size = a.size)
    (hget : ∀ p, (a'.get? p).map Scope.parent = (a.get? p).map Scope.parent) (i : Nat) :
    a'.ancestors i = a.ancestors i := by
  -- the walk to the root, for any fuel
  have hgo : ∀ fuel o, ancestors.go a' fuel o = ancestors.go a fuel o := by
    intro fuel
    induction fuel with
    | zero => intro o; rfl
    | succ fuel ih =>
      intro o
      cases o with
      | none => rfl
      | some p =>
        have hp := hget p
        rcases h' : a'.get? p with _ | S' <;> rcases h : a.get? p with _ | S <;>
          simp only [h', h, Option.map_none, Option.map_some, reduceCtorEq,
            Option.some.injEq] at hp
        · simp only [ancestors.go, h', h]
        · simp only [ancestors.go, h', h, hp, ih]
  have hfrom : (a'.get? i).bind Scope.parent = (a.get? i).bind Scope.parent := by
    have hi := hget i
    rcases h' : a'.get? i with _ | S' <;> rcases h : a.get? i with _ | S <;>
      simp_all
  simp only [size] at hsize
  simp only [ancestors, hgo, hsize]
  exact congrArg _ hfrom

/-- The ancestors of a scope read the scopes alone, not the stack. -/
theorem ancestors_congr (h : a'.scopes = a.scopes) (i : Nat) : a'.ancestors i = a.ancestors i :=
  ancestors_congr_parent (by simp only [size, h]) (fun p => by simp only [get?, h]) i

/-- Changing a scope but not its parent changes no scope's ancestors. -/
theorem ancestors_modify {id : Nat} {f : Scope → Scope} (hf : ∀ S, (f S).parent = S.parent)
    (i : Nat) : (a.modify id f).ancestors i = a.ancestors i := by
  refine ancestors_congr_parent (size_modify a id f) (fun p => ?_) i
  rw [get?_modify]
  split
  · cases a.get? p <;> simp [hf]
  · rfl

@[simp] theorem ancestors_withStack (stack : List Nat) (i : Nat) :
    ({ a with stack } : ScopeArena).ancestors i = a.ancestors i :=
  ancestors_congr (by rfl) i

namespace ParentChain

variable {o : Option Nat} {l : List Nat}

theorem head? (h : a.ParentChain o l) : l.head? = o := by
  cases h <;> rfl

theorem lt_size (h : a.ParentChain o l) : ∀ p ∈ l, p < a.size := by
  induction h with
  | root => simp
  | parent hS _ ih =>
    intro q hq
    rcases List.mem_cons.mp hq with rfl | hq
    · exact lt_size_of_get? hS
    · exact ih q hq

/-- A chain read again in an arena that keeps every scope of `a`. -/
theorem mono (hsub : ∀ {p S}, a.get? p = some S → a'.get? p = some S) (h : a.ParentChain o l) :
    a'.ParentChain o l := by
  induction h with
  | root => exact .root
  | parent hS _ ih => exact .parent (hsub hS) ih

/-- Changing a scope but not its parent keeps every chain. -/
theorem modify {id : Nat} {f : Scope → Scope} (hf : ∀ S, (f S).parent = S.parent)
    (h : a.ParentChain o l) : (a.modify id f).ParentChain o l := by
  induction h with
  | root => exact .root
  | @parent p S l hS _ ih =>
    by_cases hid : id = p
    · refine .parent (S := f S) ?_ (by rwa [hf])
      rw [get?_modify, if_pos hid, hS, Option.map_some]
    · exact .parent (by rwa [get?_modify_of_ne a id f hid]) ih

theorem decreasing (hb : a.ParentsBefore) (h : a.ParentChain o l) : l.IsChain (· > ·) := by
  induction h with
  | root => exact .nil
  | @parent p S l hS hl ih =>
    refine List.isChain_cons.mpr ⟨fun q hq => ?_, ih⟩
    -- the next scope of the chain is the parent, opened before
    rw [hl.head?] at hq
    exact hb hS (Option.mem_def.mp hq)

/-- A chain from `p` holds at most `p + 1` scopes, each opened before the last. -/
theorem length_le (hb : a.ParentsBefore) (h : a.ParentChain o l) :
    ∀ p, o = some p → l.length ≤ p + 1 := by
  induction h with
  | root => intro p hp; cases hp
  | @parent q S l hS hl ih =>
    rintro p ⟨⟩
    cases hpar : S.parent with
    | none =>
      rw [hpar] at hl
      cases hl
      simp
    | some r =>
      have hlen := ih r hpar
      have hlt := hb hS hpar
      simp only [List.length_cons]
      omega

theorem length_le_size (hb : a.ParentsBefore) (h : a.ParentChain o l) : l.length ≤ a.size := by
  cases h with
  | root => exact Nat.zero_le _
  | parent hS hl =>
    have hlen := (ParentChain.parent hS hl).length_le hb _ rfl
    have hlt := lt_size_of_get? hS
    omega

/-- Every scope opened before a given one has a chain to a root. -/
theorem exists_of_lt (hb : a.ParentsBefore) : ∀ p, p < a.size → ∃ l, a.ParentChain (some p) l := by
  intro p
  induction p using Nat.strongRecOn with
  | ind p ih =>
    intro hp
    obtain ⟨S, hS⟩ := exists_get?_of_lt hp
    cases hpar : S.parent with
    | none => exact ⟨[p], .parent hS (hpar ▸ .root)⟩
    | some q =>
      have hq := hb hS hpar
      obtain ⟨l, hl⟩ := ih q hq (by omega)
      exact ⟨p :: l, .parent hS (hpar ▸ hl)⟩

end ParentChain

/-- Within its fuel, the walk of `ancestors` follows a chain. -/
theorem ancestors_go_of_chain {o : Option Nat} {l : List Nat} (h : a.ParentChain o l) :
    ∀ fuel, l.length ≤ fuel → ancestors.go a fuel o = l := by
  induction h with
  | root => intro fuel _; cases fuel <;> rfl
  | @parent p S l hS _ ih =>
    intro fuel hfuel
    obtain ⟨fuel, rfl⟩ : ∃ f, fuel = f + 1 := ⟨fuel - 1, by simp at hfuel; omega⟩
    simp only [List.length_cons, Nat.add_le_add_iff_right] at hfuel
    simp only [ancestors.go, hS, ih fuel hfuel]

/-- The ancestors of a scope are the parent chain from its parent. -/
theorem ancestors_eq (hb : a.ParentsBefore) {i : Nat} {l : List Nat}
    (h : a.ParentChain ((a.get? i).bind Scope.parent) l) : a.ancestors i = l :=
  ancestors_go_of_chain h _ (h.length_le_size hb)

theorem exists_chain (hb : a.ParentsBefore) (i : Nat) :
    ∃ l, a.ParentChain ((a.get? i).bind Scope.parent) l := by
  cases hS : a.get? i with
  | none => exact ⟨[], .root⟩
  | some S =>
    cases hpar : S.parent with
    | none => exact ⟨[], by simp only [Option.bind_some, hpar]; exact .root⟩
    | some p =>
      obtain ⟨l, hl⟩ := ParentChain.exists_of_lt hb p
        (Nat.lt_trans (hb hS hpar) (lt_size_of_get? hS))
      exact ⟨l, by simp only [Option.bind_some, hpar]; exact hl⟩

theorem ancestors_chain (hb : a.ParentsBefore) (i : Nat) :
    a.ParentChain ((a.get? i).bind Scope.parent) (a.ancestors i) := by
  obtain ⟨l, hl⟩ := exists_chain hb i
  rw [ancestors_eq hb hl]
  exact hl

/-- A scope, then its ancestors: each opened before the one in front of it. -/
theorem ancestors_decreasing (hb : a.ParentsBefore) (i : Nat) :
    (i :: a.ancestors i).IsChain (· > ·) := by
  have hc := ancestors_chain hb i
  refine List.isChain_cons.mpr ⟨fun q hq => ?_, hc.decreasing hb⟩
  rw [hc.head?] at hq
  obtain ⟨S, hS, hpar⟩ := Option.bind_eq_some_iff.mp (Option.mem_def.mp hq)
  exact hb hS hpar

/-- Every ancestor of a scope was opened before it. -/
theorem lt_of_mem_ancestors (hb : a.ParentsBefore) {i p : Nat} (hp : p ∈ a.ancestors i) : p < i :=
  List.rel_of_pairwise_cons (ancestors_decreasing hb i).pairwise hp

namespace ParentChain

variable {top : Nat} {rest : List Nat}

/-- When the open scopes are a chain, those below the current one are its
ancestors. -/
theorem ancestors_top (hb : a.ParentsBefore) (hl : a.ParentChain a.current a.stack)
    (hs : a.stack = top :: rest) : a.ancestors top = rest := by
  unfold current at hl
  rw [hs] at hl
  cases hl with
  | parent hS hrest => exact ancestors_eq hb (by rw [hS]; exact hrest)

/-- Closing the current scope leaves the chain of its parent open. -/
theorem pop (hl : a.ParentChain a.current a.stack) (hs : a.stack = top :: rest) :
    ({ a with stack := rest } : ScopeArena).ParentChain
      ({ a with stack := rest } : ScopeArena).current rest := by
  unfold current at hl
  rw [hs] at hl
  cases hl with
  | parent _ hrest =>
    -- what was below the closed scope is the chain of its parent
    show ParentChain _ rest.head? rest
    rw [hrest.head?]
    exact hrest.mono fun {_ _} (hS : a.get? _ = _) => hS

end ParentChain

/-! ### Scopes close innermost first -/

/-- Scope `k` closes before scope `i` when scopes close innermost first: `i`
encloses `k`, or `k` was opened before `i` and does not enclose it. -/
def ClosesBefore (a : ScopeArena) (k i : Nat) : Prop :=
  i ∈ a.ancestors k ∨ (k < i ∧ k ∉ a.ancestors i)

instance (a : ScopeArena) (k i : Nat) : Decidable (a.ClosesBefore k i) :=
  inferInstanceAs (Decidable (_ ∨ _))

theorem closesBefore_irrefl (hb : a.ParentsBefore) (k : Nat) : ¬ a.ClosesBefore k k := by
  rintro (hk | ⟨hlt, -⟩)
  · exact Nat.lt_irrefl k (lt_of_mem_ancestors hb hk)
  · exact Nat.lt_irrefl k hlt

theorem closesBefore_modify {id : Nat} {f : Scope → Scope} (hf : ∀ S, (f S).parent = S.parent)
    {k i : Nat} : (a.modify id f).ClosesBefore k i ↔ a.ClosesBefore k i := by
  simp only [ClosesBefore, ancestors_modify hf]

@[simp] theorem closesBefore_withStack (stack : List Nat) {k i : Nat} :
    ({ a with stack } : ScopeArena).ClosesBefore k i ↔ a.ClosesBefore k i := by
  simp only [ClosesBefore, ancestors_withStack]

/-! ### Opening a scope below the open ones -/

section Opening

variable (hb : a.ParentsBefore) (hl : a.ParentChain a.current a.stack)
  (kind : ScopeKind) (aliasName : Option String)
include hb hl

theorem parentsBefore_push : (a.push (a.opened kind aliasName)).ParentsBefore := by
  intro i S p hS hp
  rcases get?_push_eq_some hS with ⟨rfl, rfl⟩ | hS
  · exact hl.lt_size p (List.mem_of_mem_head? hp)
  · exact hb hS hp

/-- A scope just opened has for ancestors the scopes open at its opening. -/
theorem ancestors_push_self : (a.push (a.opened kind aliasName)).ancestors a.size = a.stack := by
  apply ancestors_eq (parentsBefore_push hb hl kind aliasName)
  rw [get?_push_self]
  exact hl.mono get?_push_of_get?

/-- Opening a scope changes no other scope's ancestors. -/
theorem ancestors_push_of_lt {i : Nat} (hi : i < a.size) :
    (a.push (a.opened kind aliasName)).ancestors i = a.ancestors i := by
  apply ancestors_eq (parentsBefore_push hb hl kind aliasName)
  rw [get?_push_of_lt hi]
  exact (ancestors_chain hb i).mono get?_push_of_get?

/-- Opening a scope changes which of two other scopes closes first in no way. -/
theorem closesBefore_push {k i : Nat} (hk : k < a.size) (hi : i < a.size) :
    (a.push (a.opened kind aliasName)).ClosesBefore k i ↔ a.ClosesBefore k i := by
  rw [ClosesBefore, ClosesBefore, ancestors_push_of_lt hb hl kind aliasName hk,
    ancestors_push_of_lt hb hl kind aliasName hi]

end Opening

/-! ### Nested scopes -/

/-- The arena as a stack of nested scopes: parents come first, the open
scopes are the current scope and its ancestors, and a scope opened while
another is open lies inside it. -/
structure Nested (a : ScopeArena) : Prop where
  parentsBefore : a.ParentsBefore
  linked : a.ParentChain a.current a.stack
  inside : ∀ {t k}, t ∈ a.stack → k < a.size → t < k → t ∈ a.ancestors k

namespace Nested

variable {top : Nat} {rest : List Nat}

theorem of_stack_nil (hp : a.ParentsBefore) (hs : a.stack = []) : a.Nested where
  parentsBefore := hp
  linked := by
    unfold current
    rw [hs]
    exact .root
  inside ht := by simp [hs] at ht

/-- Opening a scope keeps the arena nested: the new scope lies inside every
open scope, and no other scope's ancestors change. -/
theorem push (h : a.Nested) (kind : ScopeKind) (aliasName : Option String) :
    (a.push (a.opened kind aliasName)).Nested where
  parentsBefore := parentsBefore_push h.parentsBefore h.linked kind aliasName
  linked := .parent get?_push_self (h.linked.mono get?_push_of_get?)
  inside {t k} ht hk htk := by
    rw [stack_push, List.mem_cons] at ht
    rw [size_push] at hk
    rcases ht with rfl | ht
    · omega
    rcases Nat.lt_succ_iff_lt_or_eq.mp hk with hk | rfl
    · rw [ancestors_push_of_lt h.parentsBefore h.linked kind aliasName hk]
      exact h.inside ht hk htk
    · rw [ancestors_push_self h.parentsBefore h.linked]
      exact ht

theorem modify (h : a.Nested) {id : Nat} {f : Scope → Scope}
    (hf : ∀ S, (f S).parent = S.parent) : (a.modify id f).Nested where
  parentsBefore {i S' p} hS' hp := by
    obtain ⟨S, hS, rfl | ⟨rfl, rfl⟩⟩ := get?_modify_eq_some hS'
    · exact h.parentsBefore hS hp
    · exact h.parentsBefore hS (hf S ▸ hp)
  linked := h.linked.modify hf
  inside ht hk htk := by
    rw [ancestors_modify hf]
    exact h.inside ht (by rwa [size_modify a id f] at hk) htk

theorem pop (h : a.Nested) (hs : a.stack = top :: rest) :
    ({ a with stack := rest } : ScopeArena).Nested where
  parentsBefore := h.parentsBefore
  linked := h.linked.pop hs
  inside ht hk htk := by
    rw [ancestors_withStack]
    exact h.inside (hs ▸ List.mem_cons_of_mem _ ht) hk htk

/-- The ancestors of the current scope are open. -/
theorem mem_stack_of_ancestor (h : a.Nested) (hs : a.stack = top :: rest) {k : Nat}
    (hm : k ∈ a.ancestors top) : k ∈ a.stack := by
  rw [h.linked.ancestors_top h.parentsBefore hs] at hm
  exact hs ▸ List.mem_cons_of_mem _ hm

/-- A done scope closes before the current scope. -/
theorem done_closesBefore_top (h : a.Nested) (hs : a.stack = top :: rest) {k : Nat}
    (hk : a.Done k) : a.ClosesBefore k top := by
  have hkt : k ≠ top := fun he => hk.2 (he ▸ hs ▸ List.mem_cons_self)
  rcases Nat.lt_or_gt_of_ne hkt with hlt | hgt
  · -- opened before the current scope and closed again, so not one of its ancestors
    exact .inr ⟨hlt, fun hm => hk.2 (h.mem_stack_of_ancestor hs hm)⟩
  · -- opened while the current scope was open, so inside it
    exact .inl (h.inside (hs ▸ List.mem_cons_self) hk.1 hgt)

/-- The current scope closes before no done scope. -/
theorem not_top_closesBefore_done (h : a.Nested) (hs : a.stack = top :: rest) {k : Nat}
    (hk : a.Done k) : ¬ a.ClosesBefore top k := by
  rintro (hm | ⟨hlt, hn⟩)
  · exact hk.2 (h.mem_stack_of_ancestor hs hm)
  · exact hn (h.inside (hs ▸ List.mem_cons_self) hk.1 hlt)

end Nested

/-! ### The invariant -/

/-- What every arena a client reaches satisfies. -/
structure Consistent (a : ScopeArena) : Prop where
  id_eq : ∀ {i S}, a.get? i = some S → S.id = i
  parentsBefore : a.ParentsBefore
  /-- the open scopes, innermost first, are the current scope and its parents down to a root -/
  linked : a.ParentChain a.current a.stack
  depth_le : a.depth ≤ a.maxDepth
  ancestors_lt : ∀ {i}, i < a.size → (a.ancestors i).length < a.maxDepth

namespace Consistent

/-- The open scopes are the current scope and its ancestors. -/
theorem stack_eq (h : a.Consistent) :
    a.stack = match a.current with
      | none => []
      | some c => c :: a.ancestors c := by
  have hl := h.linked
  unfold current at hl ⊢
  rcases hs : a.stack with _ | ⟨c, rest⟩
  · rfl
  · rw [hs] at hl
    cases hl with
    | parent hS hrest =>
      simp only [List.head?_cons]
      rw [ancestors_eq h.parentsBefore (by rw [hS]; exact hrest)]

theorem push (h : a.Consistent) (hd : a.depth < a.maxDepth) (kind : ScopeKind)
    (aliasName : Option String) : (a.push (a.opened kind aliasName)).Consistent where
  id_eq hS := by
    rcases get?_push_eq_some hS with ⟨rfl, rfl⟩ | hS
    · rfl
    · exact h.id_eq hS
  parentsBefore := parentsBefore_push h.parentsBefore h.linked kind aliasName
  -- the new scope on top, its parent the scope that was current
  linked := .parent get?_push_self (h.linked.mono get?_push_of_get?)
  depth_le := hd
  ancestors_lt {i} hi := by
    rw [size_push] at hi
    rcases Nat.lt_succ_iff_lt_or_eq.mp hi with hi | rfl
    · rw [ancestors_push_of_lt h.parentsBefore h.linked kind aliasName hi, maxDepth_push]
      exact h.ancestors_lt hi
    · rw [ancestors_push_self h.parentsBefore h.linked, maxDepth_push]
      exact hd

theorem pop (h : a.Consistent) {top : Nat} {rest : List Nat} (hs : a.stack = top :: rest) :
    ({ a with stack := rest } : ScopeArena).Consistent where
  id_eq := h.id_eq
  parentsBefore := h.parentsBefore
  linked := h.linked.pop hs
  depth_le := by
    have hd := h.depth_le
    simp only [depth, hs, List.length_cons] at hd ⊢
    omega
  ancestors_lt hi := by
    rw [ancestors_withStack]
    exact h.ancestors_lt hi

theorem of_empty (m : Nat) : (empty m).Consistent where
  id_eq hS := by simp [empty, get?] at hS
  parentsBefore hS := by simp [empty, get?] at hS
  linked := .root
  depth_le := Nat.zero_le _
  ancestors_lt hi := by simp [empty, size] at hi

/-- Every operation keeps the invariant. -/
theorem perform (h : a.Consistent) : ∀ op, (a.perform op).Consistent
  | .enter kind aliasName => by
    rw [perform_enter]
    split
    · exact h
    · exact h.push (by omega) kind aliasName
  | .exit => by
    rcases hs : a.stack with _ | ⟨top, rest⟩
    · rw [perform_exit_nil hs]
      exact h
    · rw [perform_exit_cons hs]
      exact h.pop hs
  | .reset => of_empty a.maxDepth
  | .get _ | .ancestors _ | .currentMut => h

theorem performAll (h : a.Consistent) (ops : List Op) : (a.performAll ops).Consistent := by
  induction ops generalizing a with
  | nil => exact h
  | cons op ops ih => exact ih (h.perform op)

/-- Only a reset changes the ancestors of a scope once it is opened. -/
theorem ancestors_perform (h : a.Consistent) {op : Op} (hop : op ≠ .reset) {i : Nat}
    (hi : i < a.size) : (a.perform op).ancestors i = a.ancestors i := by
  cases op with
  | enter kind aliasName =>
    rw [perform_enter]
    split
    · rfl
    · exact ancestors_push_of_lt h.parentsBefore h.linked kind aliasName hi
  | exit =>
    rcases hs : a.stack with _ | ⟨top, rest⟩
    · rw [perform_exit_nil hs]
    · rw [perform_exit_cons hs, ancestors_withStack]
  | reset => exact absurd rfl hop
  | get | ancestors | currentMut => rfl

theorem ancestors_performAll (h : a.Consistent) (ops : List Op) (hops : ∀ op ∈ ops, op ≠ .reset)
    {i : Nat} (hi : i < a.size) : (a.performAll ops).ancestors i = a.ancestors i := by
  induction ops generalizing a with
  | nil => rfl
  | cons op ops ih =>
    have hop := hops op List.mem_cons_self
    have hrest : ∀ o ∈ ops, o ≠ .reset := fun o ho => hops o (List.mem_cons_of_mem _ ho)
    rw [performAll_cons, ih (h.perform op) hrest (Nat.lt_of_lt_of_le hi (size_le_perform hop)),
      h.ancestors_perform hop hi]

/-- **The ancestors of a scope are the scopes open at its opening**, for as
long as no reset comes. -/
theorem ancestors_entered (h : a.Consistent) (hd : a.depth < a.maxDepth) (kind : ScopeKind)
    (aliasName : Option String) (ops : List Op) (hops : ∀ op ∈ ops, op ≠ .reset) :
    ((a.perform (.enter kind aliasName)).performAll ops).ancestors a.size = a.stack := by
  have hpush : a.perform (.enter kind aliasName) = a.push (a.opened kind aliasName) := by
    rw [perform_enter, if_neg (by omega)]
  rw [hpush, (h.push hd kind aliasName).ancestors_performAll ops hops (by simp),
    ancestors_push_self h.parentsBefore h.linked]

end Consistent

theorem Reachable.consistent {m : Nat} (ha : a.Reachable m) : a.Consistent ∧ a.maxDepth = m := by
  obtain ⟨ops, rfl⟩ := ha
  exact ⟨(Consistent.of_empty m).performAll ops, maxDepth_performAll _ ops⟩

/-! ### Opening and closing -/

/-- Opening a scope fails exactly when as many scopes are open as the limit
allows, and then only it leaves the arena as it was. -/
theorem enter_error_iff (kind : ScopeKind) (aliasName : Option String) (e : LineageError) :
    a.enter kind aliasName = .error e ↔ a.maxDepth ≤ a.depth ∧ e = .depthExceeded a.maxDepth := by
  rw [enter_eq]
  by_cases hfull : a.maxDepth ≤ a.stack.length <;> simp [depth, hfull, eq_comm]

theorem perform_enter_eq_iff (kind : ScopeKind) (aliasName : Option String) :
    a.perform (.enter kind aliasName) = a ↔ a.maxDepth ≤ a.depth := by
  rw [perform_enter]
  by_cases hfull : a.maxDepth ≤ a.depth
  · simp only [hfull, if_true]
  · simp only [hfull, if_false, iff_false]
    -- an opened scope makes the arena larger
    intro heq
    have hsize := congrArg size heq
    simp at hsize

theorem enter_ok_eq_push {kind : ScopeKind} {aliasName : Option String} {id : Nat}
    (h : a.enter kind aliasName = .ok (id, a')) :
    id = a.size ∧ a' = a.push (a.opened kind aliasName) := by
  rw [enter_eq] at h
  split at h
  · cases h
  · obtain ⟨rfl, rfl⟩ := Prod.mk.inj (Except.ok.inj h)
    exact ⟨rfl, rfl⟩

/-- Closing a scope fails exactly on an empty stack, and then only it leaves
the arena as it was. -/
theorem exit_error_iff (e : LineageError) :
    a.exit = .error e ↔ a.stack = [] ∧ e = .scopeUnderflow := by
  rcases hs : a.stack with _ | ⟨top, rest⟩ <;> simp [exit, hs, eq_comm]

theorem perform_exit_eq_iff : a.perform .exit = a ↔ a.stack = [] := by
  rcases hs : a.stack with _ | ⟨top, rest⟩
  · simp [perform_exit_nil hs]
  · rw [perform_exit_cons hs]
    simp only [reduceCtorEq, iff_false]
    intro heq
    have hstack := congrArg ScopeArena.stack heq
    simp [hs] at hstack

/-! ### The contract -/

/-- **The scope arena's contract.** Every arena reached from an empty one
with the limit `m` is consistent: its scopes sit at their ids, their
parents before them, the open scopes are the current scope and its
ancestors, strictly decreasing, no more than `m`; the ancestors of every
scope are its parent chain, strictly decreasing. A scope opened from it has,
until the next reset, the scopes open at its opening for ancestors. Opening
fails exactly when `m` scopes are open, closing exactly when none is, and a
failed operation (only a failed one) leaves the arena as it was; an opened
scope's id is the size of the arena before. -/
theorem scopeArena_contract {m : Nat} {a : ScopeArena} (ha : a.Reachable m) :
    (a.Consistent ∧ a.maxDepth = m ∧ a.stack.Pairwise (· > ·) ∧
      (a.stack = match a.current with
        | none => []
        | some c => c :: a.ancestors c) ∧
      ∀ i, a.ParentChain ((a.get? i).bind Scope.parent) (a.ancestors i) ∧
        (i :: a.ancestors i).Pairwise (· > ·)) ∧
    (∀ kind aliasName ops, (∀ op ∈ ops, op ≠ .reset) → a.depth < m →
      ((a.perform (.enter kind aliasName)).performAll ops).ancestors a.size = a.stack) ∧
    (∀ kind aliasName e, a.enter kind aliasName = .error e ↔ m ≤ a.depth ∧ e = .depthExceeded m) ∧
    (∀ kind aliasName, a.perform (.enter kind aliasName) = a ↔ m ≤ a.depth) ∧
    (∀ kind aliasName id a', a.enter kind aliasName = .ok (id, a') → id = a.size) ∧
    (∀ e, a.exit = .error e ↔ a.stack = [] ∧ e = .scopeUnderflow) ∧
    (a.perform .exit = a ↔ a.stack = []) := by
  obtain ⟨h, rfl⟩ := ha.consistent
  refine ⟨⟨h, rfl, (h.linked.decreasing h.parentsBefore).pairwise, h.stack_eq,
    fun i => ⟨ancestors_chain h.parentsBefore i, (ancestors_decreasing h.parentsBefore i).pairwise⟩⟩,
    fun kind aliasName ops hops hd => h.ancestors_entered hd kind aliasName ops hops,
    enter_error_iff, perform_enter_eq_iff, fun _ _ _ _ he => (enter_ok_eq_push he).1,
    exit_error_iff, perform_exit_eq_iff⟩

/-- A query with a derived table open inside it: a scalar subquery opened
there has the derived table and the query for ancestors, nearest first. -/
theorem scalarInDerived_ancestors :
    ((empty 64).performAll [.enter .query none, .enter .derived none]).Reachable 64 ∧
      ((empty 64).performAll [.enter .query none, .enter .derived none, .enter .scalar none]).ancestors 2
        = [1, 0] := by
  have ha : ((empty 64).performAll [.enter .query none, .enter .derived none]).Reachable 64 :=
    ⟨_, rfl⟩
  exact ⟨ha, (scopeArena_contract ha).2.1 .scalar none [] nofun (by decide)⟩

end ScopeArena

end ColumnLineage
