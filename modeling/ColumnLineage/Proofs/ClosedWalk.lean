import ColumnLineage.Proofs.WalkFrame
/-
ColumnLineage/Proofs/ClosedWalk.lean

Every part of the walk over a statement keeps the walk's invariant
(`Detector.Valid`) and leaves alone what it does not own. A query walk opens
its scopes and closes them again and answers a done scope that no output
reads by name (`query_keeps`); a FROM clause changes the current scope only
(`fromClause_keeps`); an expression walk, a condition among them, changes no
scope that was there before (`walk_keeps`).

The facts are stated with one relation between the detectors before and
after a step (`Keeps`), so that a sequence of steps is proved by chaining its
steps' facts (`Keeps.bind`) and each case of the mutual walk follows the
case of its definition.
-/

namespace ColumnLineage

open Run Detect

variable {α β : Type}

/-- Run from a valid detector where `pre` holds, `x` ends, when it succeeds,
in a valid detector that `R` relates to the start, with an answer that `post`
accepts there. -/
def Keeps (pre : Detector → Prop) (R : Detector → Detector → Prop)
    (post : α → Detector → Prop) (x : Detect α) : Prop :=
  ∀ s a s', s.Valid → pre s → x.run.run s = (.ok a, s') → s'.Valid ∧ R s s' ∧ post a s'

section Rules

variable {pre pre' : Detector → Prop} {R R' : Detector → Detector → Prop}
  {post post' : α → Detector → Prop}

theorem Keeps.of_pure (a : α) (hR : ∀ s, R s s) (hpost : ∀ {s}, pre s → post a s) :
    Keeps pre R post (pure a) := by
  intro s b s' hv hs h
  cases h
  exact ⟨hv, hR s, hpost hs⟩

theorem Keeps.of_throw (e : LineageError) : Keeps pre R post (throw e : Detect α) := by
  intro s a s' _ _ h
  cases h

theorem Keeps.bind {mid : α → Detector → Prop} {x : Detect α} {f : α → Detect β}
    {post : β → Detector → Prop} (htrans : ∀ {s₁ s₂ s₃}, R s₁ s₂ → R s₂ s₃ → R s₁ s₃)
    (hx : Keeps pre R mid x) (hf : ∀ a, Keeps (mid a) R post (f a)) :
    Keeps pre R post (x >>= f) := by
  intro s b s' hv hs h
  obtain ⟨a, s₁, h₁, h⟩ := run_bind_ok h
  obtain ⟨hv₁, hR₁, hmid⟩ := hx s a s₁ hv hs h₁
  obtain ⟨hv', hR', hpost⟩ := hf a s₁ b s' hv₁ hmid h
  exact ⟨hv', htrans hR₁ hR', hpost⟩

theorem Keeps.mono {x : Detect α} (hx : Keeps pre R post x) (hpre : ∀ {s}, pre' s → pre s)
    (hR : ∀ {s s'}, R s s' → R' s s') (hpost : ∀ {a s}, post a s → post' a s) :
    Keeps pre' R' post' x := by
  intro s a s' hv hs h
  obtain ⟨hv', hR₁, hpost₁⟩ := hx s a s' hv (hpre hs) h
  exact ⟨hv', hR hR₁, hpost hpost₁⟩

/-- The reads of a list of fields stay done across a walk that closes what
it opens. -/
theorem Keeps.keepReads {x : Detect α} {c : Option Nat}
    (hx : Keeps (fun _ => True) (Detector.Quiet c) post x) (fs : List Field) :
    Keeps (Detector.ReadsDone fs) (Detector.Quiet c) (fun a d => post a d ∧ d.ReadsDone fs) x := by
  intro s a s' hv hs h
  obtain ⟨hv', hq, hpost⟩ := hx s a s' hv trivial h
  exact ⟨hv', hq, hpost, hs.grows hq.1⟩

end Rules

/-! ### The relations between a detector and a later one -/

/-- `d'` follows `d` as `Quiet` says, where the scope current in `d` may
have changed: what the FROM clause of a SELECT does. -/
def Detector.Here (d d' : Detector) : Prop := d.Quiet d.arena.current d'

/-- `d'` follows `d` as `Grows` says, where WITH names may have been added to
the innermost frame. -/
def Detector.Defines (d d' : Detector) : Prop :=
  d.Grows none d' ∧ d'.frames.tail = d.frames.tail ∧ d'.frames.length = d.frames.length

namespace Detector

variable {d d₁ d₂ : Detector}

theorem Grows.of_arena {c : Option Nat} (hc : d₁.catalog = d.catalog) (ha : d₁.arena = d.arena)
    (ht : d₁.target = d.target) : d.Grows c d₁ :=
  ⟨hc, by rw [ha], by rw [ha], Nat.le_of_eq (congrArg ScopeArena.size ha).symm, fun _ _ _ => by rw [ha],
    ht⟩

theorem Here.refl (d : Detector) : d.Here d := Quiet.refl _ d

theorem Here.trans (h₁ : d.Here d₁) (h₂ : d₁.Here d₂) : d.Here d₂ := by
  unfold Here at *
  rw [h₁.1.current] at h₂
  exact h₁.trans h₂

theorem Here.of_quiet (h : d.Quiet none d₁) : d.Here d₁ := h.widen _

theorem Defines.refl (d : Detector) : d.Defines d := ⟨Grows.refl none d, rfl, rfl⟩

theorem Defines.trans (h₁ : d.Defines d₁) (h₂ : d₁.Defines d₂) : d.Defines d₂ :=
  ⟨h₁.1.trans h₂.1, h₂.2.1.trans h₁.2.1, h₂.2.2.trans h₁.2.2⟩

theorem Defines.of_quiet (h : d.Quiet none d₁) : d.Defines d₁ := ⟨h.1, by rw [h.2], by rw [h.2]⟩

/-! ### The invariant across the steps that touch only the frames -/

theorem Valid.withFrames (h : d.Valid) {frames : List (List (String × Nat))}
    (hframes : ∀ {f : List (String × Nat)} {name k}, f ∈ frames → (name, k) ∈ f → d.arena.Done k) :
    ({ d with frames } : Detector).Valid :=
  ⟨h.shaped, h.closed.reads, h.closed.targets, hframes⟩

theorem Valid.pushFrame (h : d.Valid) : ({ d with frames := [] :: d.frames } : Detector).Valid := by
  refine h.withFrames fun hf hk => ?_
  rcases List.mem_cons.mp hf with rfl | hf
  · cases hk
  · exact h.closed.ctes hf hk

theorem Valid.popFrame (h : d.Valid) : ({ d with frames := d.frames.drop 1 } : Detector).Valid :=
  h.withFrames fun hf hk => h.closed.ctes (List.mem_of_mem_drop hf) hk

end Detector

/-! ### The primitive steps -/

section Primitives

variable {d d' : Detector}

theorem enter_ok {kind : ScopeKind} {aliasName : Option String} {id : Nat}
    (h : (enter kind aliasName).run.run d = (.ok id, d')) :
    id = d.arena.size ∧ d' = { d with arena := d.arena.push (d.arena.opened kind aliasName) } := by
  rw [run_enter] at h
  split at h
  · cases h
  · cases h
    exact ⟨rfl, rfl⟩

/-- Closing the scope opened at `d`, once everything in between changed that
scope only: the walk is back where it started, and the scope is done and read
by no output, as it was open while every output was read. -/
theorem Detector.Valid.close {kind : ScopeKind} {aliasName : Option String} {d₁ d₂ : Detector}
    {u : Nat} (hv : d.Valid)
    (hmid : ({ d with arena := d.arena.push (d.arena.opened kind aliasName) } : Detector).Quiet
      (some d.arena.size) d₁)
    (hv₁ : d₁.Valid) (hexit : exit.run.run d₁ = (.ok u, d₂)) :
    d₂.Valid ∧ d.Quiet none d₂ ∧ d₂.Answered d.arena.size := by
  have hstack : d₁.arena.stack = d.arena.size :: d.arena.stack := hmid.1.stack
  rw [run_exit, hstack] at hexit
  cases hexit
  have hsize : d.arena.size + 1 ≤ d₁.arena.size := by simpa using hmid.1.size
  refine ⟨hv₁.pop hstack, ⟨⟨hmid.1.catalog, hmid.1.maxDepth, rfl, ?_, ?_, hmid.1.target⟩, hmid.2⟩,
    ?_, ?_⟩
  · show d.arena.size ≤ d₁.arena.size
    omega
  · intro i hi _
    show d₁.arena.get? i = d.arena.get? i
    rw [hmid.1.scopes i (by simp; omega) (by simp; omega)]
    exact ScopeArena.get?_push_of_lt hi
  · refine ⟨?_, fun h => Nat.lt_irrefl _ (hv.shaped.stack_lt h)⟩
    show d.arena.size < d₁.arena.size
    omega
  · intro hr
    have hdone := hv₁.closed.reads hr
    exact hdone.2 (hstack ▸ List.mem_cons_self)

theorem keeps_addCte (name : String) (id : Nat) :
    Keeps (fun d => d.arena.Done id) Detector.Defines (fun _ _ => True) (addCte name id) := by
  intro s u s' hv hid h
  rw [run_addCte] at h
  cases h
  refine ⟨hv.withFrames ?_, ⟨Detector.Grows.of_arena rfl rfl rfl, ?_, ?_⟩, trivial⟩
  · intro f n k hf hk
    split at hf
    · cases hf
    · rename_i f₀ fs hframes
      rcases List.mem_cons.mp hf with rfl | hf
      · rcases List.mem_cons.mp hk with hk | hk
        · cases hk
          exact hid
        · exact hv.closed.ctes (by rw [hframes]; exact List.mem_cons_self) hk
      · exact hv.closed.ctes (by rw [hframes]; exact List.mem_cons_of_mem _ hf) hk
  · split <;> simp_all
  · split <;> simp_all

theorem keeps_expandWildcard (qualifier : Option TableName) :
    Keeps (fun _ => True) (Detector.Quiet none) (fun fs d => d.ReadsDone fs)
      (expandWildcard qualifier) := fun _ _ _ hv _ h => hv.expandWildcard h

theorem keeps_finalize (id : Nat) :
    Keeps (fun _ => True) (Detector.Quiet (some id)) (fun _ _ => True) (finalize id) := by
  intro s u s' hv _ h
  rw [run_finalize] at h
  cases h
  obtain ⟨hv', hq⟩ := hv.finalize id
  exact ⟨⟨hv'.shaped, hv'.closed.reads, hv'.closed.targets, hv'.closed.ctes⟩,
    ⟨⟨hq.1.catalog, hq.1.maxDepth, hq.1.stack, hq.1.size, hq.1.scopes, hq.1.target⟩, rfl⟩, trivial⟩

theorem keeps_log (e : Log.Event) :
    Keeps (fun _ => True) (Detector.Quiet none) (fun _ _ => True) (log e) := by
  intro s u s' hv _ h
  cases h
  exact ⟨⟨hv.shaped, hv.closed.reads, hv.closed.targets, hv.closed.ctes⟩,
    ⟨Detector.Grows.of_arena rfl rfl rfl, rfl⟩, trivial⟩

/-- A column named by an expression is not placed yet. -/
theorem columnRef_origin {e : Sql.Expr} {ref : ColumnRef} (h : columnRef e = some ref) :
    ref.origin = .pending := by
  fun_induction columnRef e with
  | case1 i => cases h; rfl
  | case2 parts => simp at h
  | case3 parts c rest _ =>
    cases h
    rfl
  | case4 e ih => exact ih h
  | case5 => simp at h

theorem Detector.ReadsDone.exprField {d : Detector} {inputs : List Field} (h : d.ReadsDone inputs)
    (name : String) (e : Sql.Expr) : d.ReadsDone [exprField name e inputs] := by
  intro k hk
  simp only [Field.ListReadsScope, or_false, ColumnLineage.exprField] at hk
  split at hk
  · simp [Field.ReadsScope] at hk
  · exact h _ hk

theorem Detector.ReadsDone.column {d : Detector} {name : String} {ref : ColumnRef}
    {p : Transformation} (h : ref.origin = .pending) : d.ReadsDone [.column name ref p] := by
  intro k hk
  simp [Field.ListReadsScope, Field.ReadsScope, h] at hk

end Primitives

/-! ### Expression walks -/

/-- An expression walk from a given list of inputs: it changes no scope that
was there, and the inputs it answers read by name only done scopes when the
ones it was given did. -/
def WalkKeeps (x : List Field → Detect (List Field)) : Prop :=
  ∀ acc, Keeps (Detector.ReadsDone acc) (Detector.Quiet none) (fun acc' d => d.ReadsDone acc') (x acc)

theorem WalkKeeps.pure : WalkKeeps (fun acc => pure acc) :=
  fun acc => Keeps.of_pure acc (Detector.Quiet.refl none) fun h => h

theorem WalkKeeps.comp {x y : List Field → Detect (List Field)} (hx : WalkKeeps x)
    (hy : WalkKeeps y) : WalkKeeps (fun acc => x acc >>= y) :=
  fun acc => Keeps.bind Detector.Quiet.trans (hx acc) hy

/-- A subquery walked for its own sake, its answer dropped, keeps what the
inputs read. -/
theorem WalkKeeps.after {q : Detect Nat}
    (hq : Keeps (fun _ => True) (Detector.Quiet none) Detector.Answered q)
    {x : List Field → Detect (List Field)} (hx : WalkKeeps x) :
    WalkKeeps (fun acc => q >>= fun _ => x acc) :=
  fun acc => Keeps.bind Detector.Quiet.trans (hq.keepReads acc) fun _ =>
    (hx acc).mono (fun h => h.2) (fun h => h) (fun h => h)

/-- A VALUES list opens a scope whose outputs are the fields of its first
row, completes it and closes it. -/
theorem keeps_values (kind : ScopeKind) (aliasName : Option String) {first : Detect (List Field)}
    (hfirst : Keeps (fun _ => True) (Detector.Quiet none) (fun fs d => d.ReadsDone fs) first) :
    Keeps (fun _ => True) (Detector.Quiet none) Detector.Answered (do
      let id ← enter kind aliasName
      let fields ← first
      modifyScope id fun s => { s with fields }
      finalize id
      let _ ← exit
      return id) := by
  intro s id s' hv _ h
  obtain ⟨id, s₁, h₁, h⟩ := run_bind_ok h
  obtain ⟨rfl, rfl⟩ := enter_ok h₁
  obtain ⟨fields, s₂, h₂, h⟩ := run_bind_ok h
  obtain ⟨hv₂, hq₂, hfields⟩ := hfirst _ _ _ (hv.push kind aliasName) trivial h₂
  obtain ⟨_, s₃, h₃, h⟩ := run_bind_ok h
  obtain ⟨hv₃, hq₃⟩ := hv₂.modifyScope h₃ (fun _ => rfl) (fun _ hk => .inr (hfields _ hk))
    (fun _ hb _ => .inl hb)
  obtain ⟨_, s₄, h₄, h⟩ := run_bind_ok h
  obtain ⟨hv₄, hq₄, -⟩ := keeps_finalize _ _ _ _ hv₃ trivial h₄
  obtain ⟨_, s₅, h₅, h⟩ := run_bind_ok h
  cases h
  exact hv.close ((hq₂.widen _).trans (hq₃.trans hq₄)) hv₄ h₅

/-! ### The walk -/

mutual

theorem query_keeps (kind : ScopeKind) (aliasName : Option String) :
    ∀ q, Keeps (fun _ => True) (Detector.Quiet none) Detector.Answered (query kind aliasName q)
  | .mk _ ctes body _ => by
    intro s r s' hv _ h
    simp only [query] at h
    obtain ⟨_, s₁, h₁, h⟩ := run_bind_ok h
    cases h₁
    obtain ⟨id, s₃, h₃, h⟩ := run_bind_ok h
    -- the handler of a failure fails again, so the body succeeded
    obtain ⟨_, s₂, h₂, h₃⟩ :=
      run_bind_ok (run_tryCatch_ok (fun e t => ⟨e, _, run_popFrame_throw e t⟩) h₃)
    obtain ⟨hv₂, hd₂, -⟩ := withClause_keeps ctes _ _ _ hv.pushFrame trivial h₂
    obtain ⟨hv₃, hq₃, hans⟩ := setExpr_keeps kind aliasName body _ _ _ hv₂ trivial h₃
    obtain ⟨_, s₄, h₄, h⟩ := run_bind_ok h
    cases h₄
    cases h
    refine ⟨hv₃.popFrame, ⟨?_, ?_⟩, hans⟩
    · have hpush : s.Grows none { s with frames := [] :: s.frames } := .of_arena rfl rfl rfl
      have hpop : s₃.Grows none { s₃ with frames := s₃.frames.drop 1 } := .of_arena rfl rfl rfl
      exact hpush.trans (hd₂.1.trans (hq₃.1.trans hpop))
    · -- the frame pushed for this query's WITH clause is the one popped
      show s₃.frames.drop 1 = s.frames
      rw [hq₃.2, List.drop_one, hd₂.2.1]
      rfl

theorem withClause_keeps :
    ∀ ctes, Keeps (fun _ => True) Detector.Defines (fun _ _ => True) (withClause ctes)
  | [] => Keeps.of_pure () Detector.Defines.refl fun _ => trivial
  | .mk a q _ _ :: rest => by
    simp only [withClause]
    refine Keeps.bind Detector.Defines.trans ((query_keeps .cte (some a.name.value) q).mono
      (fun h => h) Detector.Defines.of_quiet (fun h => h)) fun id => ?_
    exact Keeps.bind Detector.Defines.trans ((keeps_addCte _ id).mono (fun h => h.1)
      (fun h => h) (fun h => h)) fun _ => withClause_keeps rest

theorem setExpr_keeps (kind : ScopeKind) (aliasName : Option String) :
    ∀ t, Keeps (fun _ => True) (Detector.Quiet none) Detector.Answered (setExpr kind aliasName t)
  | .select sel => by
    simp only [setExpr]
    exact select_keeps kind aliasName sel
  | .query q => by
    simp only [setExpr]
    exact query_keeps kind aliasName q
  | .setOp l _ _ r => by
    intro s id s' hv _ h
    simp only [setExpr] at h
    obtain ⟨id, s₁, h₁, h⟩ := run_bind_ok h
    obtain ⟨rfl, rfl⟩ := enter_ok h₁
    obtain ⟨left, s₂, h₂, h⟩ := run_bind_ok h
    obtain ⟨hv₂, hq₂, hl⟩ := setExpr_keeps .setOperand none l _ _ _ (hv.push kind aliasName) trivial h₂
    obtain ⟨right, s₃, h₃, h⟩ := run_bind_ok h
    obtain ⟨hv₃, hq₃, hr⟩ := setExpr_keeps .setOperand none r _ _ _ hv₂ trivial h₃
    obtain ⟨_, s₄, h₄, h⟩ := run_bind_ok h
    cases h₄
    obtain ⟨_, s₅, h₅, h⟩ := run_bind_ok h
    have hleft : s₃.arena.Done left := hq₃.1.done hl.1
    have hops : ∀ {k}, k ∈ [left, right] → s₃.arena.Done k := by
      intro k hk
      rcases List.mem_pair.mp hk with rfl | rfl
      · exact hleft
      · exact hr.1
    obtain ⟨hv₅, hq₅⟩ := hv₃.modifyScope h₅ (fun _ => rfl)
      (fun _ hk => .inr (hops (setOutputs_reads hk)))
      (fun _ hb hk => by
        rcases List.mem_append.mp hb with hb | hb
        · exact .inl hb
        · right
          apply hops
          simp only [List.mem_cons, List.not_mem_nil, or_false] at hb
          rcases hb with rfl | rfl <;> cases hk
          · exact List.mem_pair.mpr (.inl rfl)
          · exact List.mem_pair.mpr (.inr rfl))
    obtain ⟨_, s₆, h₆, h⟩ := run_bind_ok h
    cases h
    exact hv.close ((hq₂.widen _).trans ((hq₃.widen _).trans hq₅)) hv₅ h₆
  | .values _ [] => by
    simp only [setExpr]
    exact keeps_values _ aliasName
      (Keeps.of_pure [] (Detector.Quiet.refl none) fun _ => Detector.ReadsDone.nil _)
  | .values _ (row :: _) => by
    simp only [setExpr]
    exact keeps_values _ aliasName (rowFields_keeps 1 row)
  | .insert .. => by
    simp only [setExpr]
    exact Keeps.of_throw _
  | .other _ => by
    simp only [setExpr]
    exact Keeps.of_throw _

theorem select_keeps (kind : ScopeKind) (aliasName : Option String) :
    ∀ sel, Keeps (fun _ => True) (Detector.Quiet none) Detector.Answered (select kind aliasName sel)
  | .mk _ projection _ from_ _ selection _ having _ => by
    intro s r s' hv _ h
    simp only [select] at h
    obtain ⟨id, s₁, h₁, h⟩ := run_bind_ok h
    obtain ⟨rfl, rfl⟩ := enter_ok h₁
    obtain ⟨_, s₂, h₂, h⟩ := run_bind_ok h
    obtain ⟨hv₂, hq₂, -⟩ := fromClause_keeps from_ _ _ _ (hv.push kind aliasName) trivial h₂
    obtain ⟨fields, s₃, h₃, h⟩ := run_bind_ok h
    obtain ⟨hv₃, hq₃, hfields⟩ := selectItems_keeps projection _ _ _ hv₂ trivial h₃
    obtain ⟨_, s₄, h₄, h⟩ := run_bind_ok h
    obtain ⟨hv₄, hq₄⟩ := hv₃.modifyScope h₄ (fun _ => rfl) (fun _ hk => .inr (hfields _ hk))
      (fun _ hb _ => .inl hb)
    obtain ⟨_, s₅, h₅, h⟩ := run_bind_ok h
    obtain ⟨hv₅, hq₅, -⟩ := walkOpt_keeps .predicate selection [] _ _ _ hv₄ (Detector.ReadsDone.nil _) h₅
    obtain ⟨_, s₆, h₆, h⟩ := run_bind_ok h
    obtain ⟨hv₆, hq₆, -⟩ := walkOpt_keeps .predicate having [] _ _ _ hv₅ (Detector.ReadsDone.nil _) h₆
    obtain ⟨_, s₇, h₇, h⟩ := run_bind_ok h
    obtain ⟨hv₇, hq₇, -⟩ := keeps_finalize _ _ _ _ hv₆ trivial h₇
    obtain ⟨_, s₈, h₈, h⟩ := run_bind_ok h
    cases h
    -- between opening and closing, only the new scope changed
    have hmid := (show Detector.Quiet (some s.arena.size) _ s₂ from hq₂).trans ((hq₃.widen _).trans
      (hq₄.trans ((hq₅.widen _).trans ((hq₆.widen _).trans hq₇))))
    exact hv.close hmid hv₇ h₈

theorem selectItems_keeps :
    ∀ items, Keeps (fun _ => True) (Detector.Quiet none) (fun fs d => d.ReadsDone fs)
      (selectItems items)
  | [] => Keeps.of_pure [] (Detector.Quiet.refl none) fun _ => Detector.ReadsDone.nil _
  | item :: rest => by
    simp only [selectItems]
    exact Keeps.bind Detector.Quiet.trans (selectItem_keeps item) fun fs =>
      Keeps.bind Detector.Quiet.trans ((selectItems_keeps rest).keepReads fs) fun more =>
        Keeps.of_pure _ (Detector.Quiet.refl none) fun h => h.2.append h.1

theorem selectItem_keeps :
    ∀ item, Keeps (fun _ => True) (Detector.Quiet none) (fun fs d => d.ReadsDone fs)
      (selectItem item)
  | .expr e aliasName => by
    simp only [selectItem]
    split
    · rename_i ref href
      exact Keeps.of_pure _ (Detector.Quiet.refl none) fun _ => .column (columnRef_origin href)
    · exact Keeps.bind Detector.Quiet.trans ((walk_keeps .value e []).mono (fun _ => Detector.ReadsDone.nil _)
        (fun h => h) (fun h => h)) fun inputs =>
          Keeps.of_pure _ (Detector.Quiet.refl none) fun h => h.exprField _ e
  | .wildcard none _ => by
    simp only [selectItem]
    exact keeps_expandWildcard none
  | .wildcard (some name) _ => by
    simp only [selectItem]
    split
    · exact keeps_expandWildcard _
    · exact Keeps.of_throw _

theorem rowFields_keeps (n : Nat) :
    ∀ row, Keeps (fun _ => True) (Detector.Quiet none) (fun fs d => d.ReadsDone fs)
      (rowFields n row)
  | [] => Keeps.of_pure [] (Detector.Quiet.refl none) fun _ => Detector.ReadsDone.nil _
  | e :: rest => by
    simp only [rowFields]
    exact Keeps.bind Detector.Quiet.trans ((walk_keeps .value e []).mono (fun _ => Detector.ReadsDone.nil _)
      (fun h => h) (fun h => h)) fun inputs =>
        Keeps.bind Detector.Quiet.trans (((rowFields_keeps (n + 1) rest).keepReads _).mono
          (fun h => h.exprField _ e) (fun h => h) (fun h => h)) fun more =>
            Keeps.of_pure _ (Detector.Quiet.refl none) fun h => h.2.append h.1

theorem fromClause_keeps :
    ∀ ts, Keeps (fun _ => True) Detector.Here (fun _ _ => True) (fromClause ts)
  | [] => Keeps.of_pure () Detector.Here.refl fun _ => trivial
  | t :: rest => by
    simp only [fromClause]
    exact Keeps.bind Detector.Here.trans (tableWithJoins_keeps t) fun _ => fromClause_keeps rest

theorem tableWithJoins_keeps :
    ∀ t, Keeps (fun _ => True) Detector.Here (fun _ _ => True) (tableWithJoins t)
  | .mk relation js => by
    simp only [tableWithJoins]
    exact Keeps.bind Detector.Here.trans (factor_keeps relation) fun _ => joins_keeps js

theorem joins_keeps :
    ∀ js, Keeps (fun _ => True) Detector.Here (fun _ _ => True) (joins js)
  | [] => Keeps.of_pure () Detector.Here.refl fun _ => trivial
  | .mk _ kind relation on c :: rest => by
    simp only [joins]
    refine Keeps.bind Detector.Here.trans (factor_keeps relation) fun _ => ?_
    -- the condition of an inner or outer join, or its USING columns
    split
    · split
      · exact Keeps.bind Detector.Here.trans ((walkOpt_keeps .predicate on []).mono
          (fun _ => Detector.ReadsDone.nil _) Detector.Here.of_quiet (fun h => h)) fun _ =>
            (joins_keeps rest).mono (fun _ => trivial) (fun h => h) (fun h => h)
      · exact Keeps.bind Detector.Here.trans (fun _ _ _ hv _ h =>
          ⟨(hv.addUsing h).1, (hv.addUsing h).2, trivial⟩) fun _ => joins_keeps rest
      · exact joins_keeps rest
    · exact joins_keeps rest

theorem factor_keeps :
    ∀ t, Keeps (fun _ => True) Detector.Here (fun _ _ => True) (factor t)
  | .table name _ aliasName _ => by
    intro s u s' hv _ h
    simp only [factor] at h
    split at h
    · obtain ⟨r, s₁, h₁, h⟩ := run_bind_ok h
      obtain ⟨rfl, hr⟩ := hv.lookupCte h₁
      -- a WITH name in reach binds its scope, any other name its table
      rcases r with _ | k
      · obtain ⟨target, s₂, h₂, h⟩ := run_bind_ok h
        cases h₂
        obtain ⟨hv', hq'⟩ := hv.bind h fun hk => by cases hk
        exact ⟨hv', hq', trivial⟩
      · obtain ⟨target, s₂, h₂, h⟩ := run_bind_ok h
        cases h₂
        obtain ⟨hv', hq'⟩ := hv.bind h fun hk => by cases hk; exact hr rfl
        exact ⟨hv', hq', trivial⟩
    · cases h
  | .derived _ q aliasName => by
    intro s u s' hv _ h
    simp only [factor] at h
    obtain ⟨child, s₁, h₁, h⟩ := run_bind_ok h
    obtain ⟨hv₁, hq₁, hchild⟩ := query_keeps .derived _ q _ _ _ hv trivial h₁
    obtain ⟨hv', hq'⟩ := hv₁.bind h fun hk => by cases hk; exact hchild.1
    exact ⟨hv', Detector.Here.trans (Detector.Here.of_quiet hq₁) hq', trivial⟩
  | .nestedJoin inner _ => by
    simp only [factor]
    exact tableWithJoins_keeps inner
  | .other _ => by
    simp only [factor]
    exact (keeps_log _).mono (fun h => h) Detector.Here.of_quiet (fun h => h)

theorem walk_keeps (mode : WalkMode) : ∀ e, WalkKeeps (walk mode e)
  | .identifier i => fun acc => by
    rw [walk_identifier]
    split
    · exact Keeps.of_pure _ (Detector.Quiet.refl none) fun h =>
        h.addInput fun k => by simp [Field.ofColumn, Field.ReadsScope]
    · exact WalkKeeps.pure acc
  | .compound parts => fun acc => by
    rw [walk_compound]
    split
    · split
      · rename_i ref href
        exact Keeps.of_pure _ (Detector.Quiet.refl none) fun h =>
          h.addInput fun k => by simp [Field.ofColumn, Field.ReadsScope, columnRef_origin href]
      · exact WalkKeeps.pure acc
    · exact WalkKeeps.pure acc
  | .isTest e _ => walk_keeps mode e
  | .isDistinctFrom a _ b => (walk_keeps mode a).comp (walk_keeps mode b)
  | .inList e list _ => (walk_keeps mode e).comp (walkList_keeps mode list)
  | .inSubquery e q _ => WalkKeeps.after (query_keeps .predicate none q) (walk_keeps mode e)
  | .inUnnest e arr _ => (walk_keeps mode e).comp (walk_keeps mode arr)
  | .between e _ lo hi => (walk_keeps mode e).comp ((walk_keeps mode lo).comp (walk_keeps mode hi))
  | .binary l _ r => (walk_keeps mode l).comp (walk_keeps mode r)
  | .like _ _ _ e p _ => (walk_keeps mode e).comp (walk_keeps mode p)
  | .rlike _ e p _ => (walk_keeps mode e).comp (walk_keeps mode p)
  | .quantified l _ _ r => (walk_keeps mode l).comp (walk_keeps mode r)
  | .unary _ e => walk_keeps mode e
  | .postOp e _ => walk_keeps mode e
  | .cast _ e _ _ => walk_keeps mode e
  | .atTimeZone t z => (walk_keeps mode t).comp (walk_keeps mode z)
  | .extract _ _ e => walk_keeps mode e
  | .ceilFloor _ e _ _ => walk_keeps mode e
  | .position e i => (walk_keeps mode e).comp (walk_keeps mode i)
  | .substring e f fo _ =>
    (walk_keeps mode e).comp ((walkOpt_keeps mode f).comp (walkOpt_keeps mode fo))
  | .trim e _ what chars =>
    (walk_keeps mode e).comp ((walkOpt_keeps mode what).comp (walkList_keeps mode chars))
  | .overlay e w f fo =>
    (walk_keeps mode e).comp ((walk_keeps mode w).comp
      ((walk_keeps mode f).comp (walkOpt_keeps mode fo)))
  | .collate e _ => walk_keeps mode e
  | .nested e => walk_keeps mode e
  | .tuple items => walkList_keeps mode items
  | .array items _ => walkList_keeps mode items
  | .interval v _ => walk_keeps mode v
  | .function _ params args filter _ window withinGroup _ =>
    (walkArgs_keeps mode params).comp ((walkArgs_keeps mode args).comp
      ((walkOpt_keeps mode filter).comp ((walkWindow_keeps mode window).comp
        (walkOrder_keeps mode withinGroup))))
  | .namedArg _ _ e => walk_keeps mode e
  | .exprNamedArg name _ e => (walk_keeps mode name).comp (walk_keeps mode e)
  | .matchAgainst .. => WalkKeeps.pure
  | .case operand conds results otherwise =>
    (walkOpt_keeps mode operand).comp ((walkList_keeps mode conds).comp
      ((walkList_keeps mode results).comp (walkOpt_keeps mode otherwise)))
  | .exists q _ => WalkKeeps.after (query_keeps .predicate none q) WalkKeeps.pure
  | .subquery q => fun acc => by
    cases mode
    · exact Keeps.bind Detector.Quiet.trans ((query_keeps .scalar none q).keepReads acc) fun id =>
        Keeps.of_pure _ (Detector.Quiet.refl none) fun h =>
          h.2.addInput fun k => by simp [Field.ReadsScope]
    · exact WalkKeeps.after (query_keeps .predicate none q) WalkKeeps.pure acc
  | .access root chain => (walk_keeps mode root).comp (walkAccess_keeps mode chain)
  | .pathAccess e path => (walk_keeps mode e).comp (walkPath_keeps mode path)
  | .composite e _ => walk_keeps mode e
  | .wildcard => WalkKeeps.pure
  | .qualifiedWildcard _ => WalkKeeps.pure
  | .introduced .. => WalkKeeps.pure
  | .convert _ e _ _ _ styles => (walk_keeps mode e).comp (walkList_keeps mode styles)
  | .structLiteral _ values => walkList_keeps mode values
  | .named e _ => walk_keeps mode e
  | .dictionary _ values => walkList_keeps mode values
  | .mapLiteral entries => walkEntries_keeps mode entries
  | .prior e => walk_keeps mode e
  | .lambda _ _ body => walk_keeps mode body
  | .outerJoin e => walk_keeps mode e
  | .method e calls => (walk_keeps mode e).comp (walkList_keeps mode calls)
  | .value _ => WalkKeeps.pure
  | .typedString .. => WalkKeeps.pure

theorem walkList_keeps (mode : WalkMode) : ∀ es, WalkKeeps (walkList mode es)
  | [] => WalkKeeps.pure
  | e :: rest => (walk_keeps mode e).comp (walkList_keeps mode rest)

theorem walkAccess_keeps (mode : WalkMode) : ∀ chain, WalkKeeps (walkAccess mode chain)
  | [] => WalkKeeps.pure
  | .field e :: rest => (walk_keeps mode e).comp (walkAccess_keeps mode rest)
  | .index e :: rest => (walk_keeps mode e).comp (walkAccess_keeps mode rest)
  | .slice lower upper stride :: rest =>
    (walkOpt_keeps mode lower).comp ((walkOpt_keeps mode upper).comp
      ((walkOpt_keeps mode stride).comp (walkAccess_keeps mode rest)))

theorem walkClauses_keeps (mode : WalkMode) : ∀ clauses, WalkKeeps (walkClauses mode clauses)
  | [] => WalkKeeps.pure
  | .mk _ e _ :: rest => (walkOpt_keeps mode e).comp (walkClauses_keeps mode rest)

theorem walkEntries_keeps (mode : WalkMode) : ∀ entries, WalkKeeps (walkEntries mode entries)
  | [] => WalkKeeps.pure
  | .mk key v :: rest =>
    (walk_keeps mode key).comp ((walk_keeps mode v).comp (walkEntries_keeps mode rest))

theorem walkPath_keeps (mode : WalkMode) : ∀ path, WalkKeeps (walkPath mode path)
  | [] => WalkKeeps.pure
  | .key _ _ :: rest => walkPath_keeps mode rest
  | .bracket e :: rest => (walk_keeps mode e).comp (walkPath_keeps mode rest)

theorem walkOpt_keeps (mode : WalkMode) : ∀ e, WalkKeeps (walkOpt mode e)
  | none => WalkKeeps.pure
  | some e => walk_keeps mode e

theorem walkArgs_keeps (mode : WalkMode) : ∀ args, WalkKeeps (walkArgs mode args)
  | .list _ args _ orderBy limit clauses =>
    (walkList_keeps mode args).comp ((walkOrder_keeps mode orderBy).comp
      ((walkOpt_keeps mode limit).comp (walkClauses_keeps mode clauses)))
  | .none => WalkKeeps.pure
  | .subquery _ => WalkKeeps.pure

theorem walkOrder_keeps (mode : WalkMode) : ∀ items, WalkKeeps (walkOrder mode items)
  | [] => WalkKeeps.pure
  | .mk e _ _ fill :: rest =>
    (walk_keeps mode e).comp ((walkFill_keeps mode fill).comp (walkOrder_keeps mode rest))

theorem walkFill_keeps (mode : WalkMode) : ∀ fill, WalkKeeps (walkFill mode fill)
  | some (.mk start stop step) =>
    (walkOpt_keeps mode start).comp ((walkOpt_keeps mode stop).comp
      (walkOpt_keeps mode step))
  | none => WalkKeeps.pure

theorem walkWindow_keeps (mode : WalkMode) : ∀ window, WalkKeeps (walkWindow mode window)
  | some (.spec _ partitionBy orderBy _ _ startExpr _ endExpr) =>
    (walkList_keeps mode partitionBy).comp ((walkOrder_keeps mode orderBy).comp
      ((walkOpt_keeps mode startExpr).comp (walkOpt_keeps mode endExpr)))
  | some (.named _) => WalkKeeps.pure
  | none => WalkKeeps.pure

end

/-! ### The scope a query answers -/

/-- Every run of `x` that succeeds answers `id`. -/
def Returns (id : Nat) (x : Detect Nat) : Prop :=
  ∀ d r d', x.run.run d = (.ok r, d') → r = id

theorem Returns.pure (id : Nat) : Returns id (pure id) := by
  intro d r d' h
  cases h
  rfl

theorem Returns.bind {x : Detect α} {f : α → Detect Nat} {id : Nat}
    (hf : ∀ a, Returns id (f a)) : Returns id (x >>= f) := by
  intro d r d' h
  obtain ⟨a, d₁, -, h₂⟩ := run_bind_ok h
  exact hf a d₁ r d' h₂

/-- A step that opens a scope and ends by answering it answers the first id
not taken yet. -/
theorem Returns.of_enter {kind : ScopeKind} {aliasName : Option String} {f : Nat → Detect Nat}
    (hf : ∀ id, Returns id (f id)) {d d' : Detector} {r : Nat}
    (h : (enter kind aliasName >>= f).run.run d = (.ok r, d')) : r = d.arena.size := by
  obtain ⟨id, d₁, h₁, h₂⟩ := run_bind_ok h
  obtain ⟨rfl, rfl⟩ := enter_ok h₁
  exact hf _ _ _ _ h₂

mutual

/-- A query answers a scope it opened, none of those there were before. -/
theorem query_answers_new (kind : ScopeKind) (aliasName : Option String) :
    ∀ q {d : Detector} {r : Nat} {d' : Detector}, d.Valid →
      (query kind aliasName q).run.run d = (.ok r, d') → d.arena.size ≤ r
  | .mk _ ctes body _ => by
    intro hv h
    simp only [query] at h
    obtain ⟨_, d₁, h₁, h⟩ := run_bind_ok h
    cases h₁
    obtain ⟨id, d₃, h₃, h⟩ := run_bind_ok h
    obtain ⟨_, d₂, h₂, h₃⟩ :=
      run_bind_ok (run_tryCatch_ok (fun e t => ⟨e, _, run_popFrame_throw e t⟩) h₃)
    -- the WITH clause only adds scopes, and the body answers one past them
    obtain ⟨hv₂, hd₂, -⟩ := withClause_keeps ctes _ _ _ hv.pushFrame trivial h₂
    obtain ⟨_, d₄, h₄, h⟩ := run_bind_ok h
    cases h₄
    cases h
    exact Nat.le_trans hd₂.1.size (setExpr_answers_new kind aliasName body hv₂ h₃)

theorem setExpr_answers_new (kind : ScopeKind) (aliasName : Option String) :
    ∀ t {d : Detector} {r : Nat} {d' : Detector}, d.Valid →
      (setExpr kind aliasName t).run.run d = (.ok r, d') → d.arena.size ≤ r
  | .query q => by
    intro hv h
    simp only [setExpr] at h
    exact query_answers_new kind aliasName q hv h
  | .select (.mk ..) | .setOp .. | .values _ [] | .values _ (_ :: _) => by
    -- each opens its scope first and answers it last
    intro _ h
    simp only [setExpr, select] at h
    refine Nat.le_of_eq (Returns.of_enter (fun id => ?_) h).symm
    repeat (apply Returns.bind; intro _)
    exact Returns.pure id
  | .insert .. | .other _ => by
    intro _ h
    simp only [setExpr] at h
    cases h

end

end ColumnLineage
