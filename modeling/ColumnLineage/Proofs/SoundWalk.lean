import ColumnLineage.Proofs.SoundArena
/-
ColumnLineage/Proofs/SoundWalk.lean

The walk over a statement keeps the arena sound for the names the statement
writes (`Detector.Sound`, see `Proofs/SoundArena`). Each part of the walk is
read against the names its own text writes, with the WITH names in reach
defined in the detector's frames (`Detector.Fits`); a part's names are among
the statement's, so every leaf the walk makes is grounded in them.

The proofs follow the cases of the walk, as `Proofs/ClosedWalk` does, and
take from it what a part of the walk leaves alone: the arena stays valid,
done scopes stay as they were, and a query answers a done scope. What is new
is carried here: a SELECT or VALUES list is completed before it is closed, so
its outputs are placed when it goes into the closing order; a set operation
reads its done operands at the places of their outputs.

Main statement (`detect_sound`): a walk over a statement from a fresh
detector that succeeds closes every scope and leaves the arena sound for the
names the statement writes.
-/

namespace ColumnLineage

open Run Detect

/-- A detector fits a part of a statement that writes `M` and sees the WITH
names `env`: the arena is sound for `M`, and each name of `env` is defined in
one of its frames. -/
structure Detector.Fits (M : List Mention) (env : List String) (d : Detector) : Prop where
  sound : d.Sound M
  covers : d.Covers env

variable {α : Type} {M : List Mention} {env : List String}

/-! ### Steps -/

section Steps

variable {d d' : Detector}

theorem Detector.Fits.of_arena (h : d.Fits M env) (ha : d'.arena = d.arena)
    (hc : d'.catalog = d.catalog) (hf : d'.frames = d.frames) : d'.Fits M env :=
  ⟨h.sound.of_arena ha hc, h.covers.of_frames hf⟩

theorem Detector.Fits.push (h : d.Fits M env) (kind : ScopeKind) (aliasName : Option String) :
    ({ d with arena := d.arena.push (d.arena.opened kind aliasName) } : Detector).Fits M env :=
  ⟨h.sound.push kind aliasName, h.covers.of_frames rfl⟩

/-- Binding a name of the FROM clause to a written table or to a scope keeps
the walk fitting. -/
theorem Detector.Fits.bind {aliasName : Option String} {target : BindingTarget} {u : Unit}
    (h : d.Fits M env) (hr : (Detect.bind aliasName target).run.run d = (.ok u, d'))
    (htarget : ∀ {t}, target = .table t → Mention.table t ∈ M) : d'.Fits M env := by
  rw [Detect.run_bind] at hr
  split at hr
  · rename_i c hc
    cases hr
    refine ⟨h.sound.modify (List.mem_of_mem_head? hc) (fun _ => rfl) (fun _ => rfl)
      h.sound.grounded ?_, h.covers.of_frames rfl⟩
    intro S b t _ hb ht
    rcases List.mem_append.mp hb with hb | hb
    · exact .inl hb
    · rw [List.mem_singleton] at hb
      subst hb
      exact .inr (htarget ht)
  · cases hr

theorem Detector.Fits.addUsing {columns : List Sql.ObjectName} {u : Unit} (h : d.Fits M env)
    (hr : (Detect.addUsing columns).run.run d = (.ok u, d')) : d'.Fits M env := by
  rw [Detect.run_addUsing] at hr
  split at hr
  · rename_i c hc
    cases hr
    exact ⟨h.sound.modify (List.mem_of_mem_head? hc) (fun _ => rfl) (fun _ => rfl)
      h.sound.grounded (fun _ hb _ => .inl hb), h.covers.of_frames rfl⟩
  · cases hr

/-- Expanding a wildcard changes only warnings and events, and gives
grounded columns. -/
theorem Detector.Fits.expandWildcard {q : Option TableName} {fs : List Field} (h : d.Fits M env)
    (hv : d.Valid) (hr : (Detect.expandWildcard q).run.run d = (.ok fs, d')) :
    d'.Fits M env ∧ d'.AllGrounded M fs := by
  rw [Detect.run_expandWildcard] at hr
  split at hr
  · cases hr
  · rename_i S hS
    cases hr
    obtain ⟨c, -, hc⟩ := Option.bind_eq_some_iff.mp hS
    exact ⟨h.of_arena rfl rfl rfl, h.sound.wildcardFields hv hc q⟩

theorem Detector.modifyScope_ok {id : Nat} {f : Scope → Scope} {u : Unit}
    (hr : (Detect.modifyScope id f).run.run d = (.ok u, d')) :
    d' = { d with arena := d.arena.modify id f } := by
  rw [Detect.run_modifyScope] at hr
  split at hr
  · cases hr
  · cases hr
    rfl

/-- Completing an open scope keeps the walk fitting and places its outputs. -/
theorem Detector.Fits.finalize {id : Nat} {u : Unit} (h : d.Fits M env) (hv : d.Valid)
    (hid : id ∈ d.arena.stack) (hr : (Detect.finalize id).run.run d = (.ok u, d')) :
    d'.Fits M env ∧ ∀ {S}, d'.arena.get? id = some S →
      ∀ g ∈ Field.listLeaves S.fields, ¬ g.IsPending := by
  rw [Detect.run_finalize] at hr
  cases hr
  obtain ⟨hs, hplaced⟩ := h.sound.finalize hv hid
  exact ⟨⟨hs.of_arena rfl rfl, h.covers.of_frames rfl⟩, hplaced⟩

/-- Closing the scope opened at the start keeps the walk fitting, once its
outputs are placed. -/
theorem Detector.Fits.exit {id : Nat} {rest : List Nat} {u : Nat} (h : d.Fits M env)
    (hv : d.Valid) (hs : d.arena.stack = id :: rest)
    (hplaced : ∀ {S}, d.arena.get? id = some S → ∀ g ∈ Field.listLeaves S.fields, ¬ g.IsPending)
    (hr : exit.run.run d = (.ok u, d')) : d'.Fits M env := by
  rw [Detect.run_exit, hs] at hr
  cases hr
  exact ⟨h.sound.pop hv hs hplaced, h.covers.of_frames rfl⟩

theorem Detector.AllGrounded.scalar (d : Detector) {k : Nat} (hk : d.arena.Done k) (n : String)
    (p : Transformation) : d.AllGrounded M [.scalar n k p] := by
  intro g hg
  simp only [Field.listLeaves_cons, Field.leaves_scalar, Field.listLeaves_nil, List.append_nil,
    List.mem_singleton] at hg
  subst hg
  exact hk

end Steps

/-! ### Expression walks -/

/-- An expression walk from a list of inputs keeps the walk fitting, and the
inputs it answers are grounded when the ones it was given are. -/
def WalkSound (M : List Mention) (env : List String) (x : List Field → Detect (List Field)) :
    Prop :=
  ∀ acc, Keeps (fun d => d.Fits M env ∧ d.AllGrounded M acc) (fun _ _ => True)
    (fun acc' d => d.Fits M env ∧ d.AllGrounded M acc') (x acc)

theorem WalkSound.pure : WalkSound M env (fun acc => pure acc) :=
  fun acc => Keeps.of_pure acc (fun _ => trivial) fun h => h

theorem WalkSound.comp {x y : List Field → Detect (List Field)} (hx : WalkSound M env x)
    (hy : WalkSound M env y) : WalkSound M env (fun acc => x acc >>= y) :=
  fun acc => Keeps.bind (fun _ _ => trivial) (hx acc) hy

/-- A subquery walked for its own sake, its answer dropped, leaves the inputs
grounded: it changes no done scope. -/
theorem WalkSound.after {q : Detect Nat}
    (hq : Keeps (fun _ => True) (Detector.Quiet none) Detector.Answered q)
    (hq' : Keeps (Detector.Fits M env) (fun _ _ => True) (fun _ => Detector.Fits M env) q)
    {x : List Field → Detect (List Field)} (hx : WalkSound M env x) :
    WalkSound M env (fun acc => q >>= fun _ => x acc) := by
  intro acc s acc' s' hv hs h
  obtain ⟨r, s₁, h₁, h⟩ := run_bind_ok h
  obtain ⟨hv₁, hq₁, -⟩ := hq s r s₁ hv trivial h₁
  obtain ⟨-, -, hfit₁⟩ := hq' s r s₁ hv hs.1 h₁
  exact hx acc s₁ acc' s' hv₁ ⟨hfit₁, hs.2.keep hq₁.keepsDone⟩ h

/-- A VALUES list opens a scope whose outputs are the fields of its first
row, completes it and closes it. -/
theorem sound_values (kind : ScopeKind) (aliasName : Option String) {first : Detect (List Field)}
    (hfirst : Keeps (fun _ => True) (Detector.Quiet none) (fun fs d => d.ReadsDone fs) first)
    (hfirst' : Keeps (Detector.Fits M env) (fun _ _ => True)
      (fun fs d => d.Fits M env ∧ d.AllGrounded M fs) first) :
    Keeps (Detector.Fits M env) (fun _ _ => True) (fun _ => Detector.Fits M env) (do
      let id ← enter kind aliasName
      let fields ← first
      modifyScope id fun s => { s with fields }
      finalize id
      let _ ← exit
      return id) := by
  intro s r s' hv hfit h
  obtain ⟨hv', -, -⟩ := keeps_values kind aliasName hfirst s r s' hv trivial h
  obtain ⟨id, s₁, h₁, h⟩ := run_bind_ok h
  obtain ⟨rfl, rfl⟩ := enter_ok h₁
  have hv₁ := hv.push kind aliasName
  obtain ⟨fields, s₂, h₂, h⟩ := run_bind_ok h
  obtain ⟨hv₂, hq₂, hreads⟩ := hfirst _ _ _ hv₁ trivial h₂
  obtain ⟨-, -, hfit₂, hfields⟩ := hfirst' _ _ _ hv₁ (hfit.push kind aliasName) h₂
  -- the new scope stays open, on top, until it is closed
  have hstack₂ : s₂.arena.stack = s.arena.size :: s.arena.stack := hq₂.1.stack
  obtain ⟨_, s₃, h₃, h⟩ := run_bind_ok h
  obtain ⟨hv₃, hq₃⟩ := hv₂.modifyScope h₃ (fun _ => rfl) (fun _ hk => .inr (hreads _ hk))
    (fun _ hb _ => .inl hb)
  have hid : s.arena.size ∈ s₂.arena.stack := hstack₂ ▸ List.mem_cons_self
  have hfit₃ : Detector.Fits M env s₃ := by
    rw [Detector.modifyScope_ok h₃]
    exact ⟨hfit₂.sound.modify hid (fun _ => rfl) (fun _ => rfl) (fun _ => hfields)
      (fun _ hb _ => .inl hb),
      hfit₂.covers.of_frames rfl⟩
  obtain ⟨_, s₄, h₄, h⟩ := run_bind_ok h
  obtain ⟨hv₄, hq₄, -⟩ := keeps_finalize _ _ _ _ hv₃ trivial h₄
  obtain ⟨hfit₄, hplaced⟩ := hfit₃.finalize hv₃ (hq₃.1.stack ▸ hid) h₄
  obtain ⟨_, s₅, h₅, h⟩ := run_bind_ok h
  cases h
  have hstack₄ : s₄.arena.stack = s.arena.size :: s.arena.stack := by
    rw [hq₄.1.stack, hq₃.1.stack]
    exact hstack₂
  exact ⟨hv', trivial, hfit₄.exit hv₄ hstack₄ hplaced h₅⟩

/-! ### The walk -/

/-! The names a part of the text writes are read off the names the whole
writes: the parts of a construct are written one after the other. -/

theorem append_subset₃ {l₁ l₂ l₃ : List Mention} (h : l₁ ++ l₂ ++ l₃ ⊆ M) :
    l₁ ⊆ M ∧ l₂ ⊆ M ∧ l₃ ⊆ M := by
  simpa only [List.append_assoc, List.append_subset] using h

theorem append_subset₄ {l₁ l₂ l₃ l₄ : List Mention} (h : l₁ ++ l₂ ++ l₃ ++ l₄ ⊆ M) :
    l₁ ⊆ M ∧ l₂ ⊆ M ∧ l₃ ⊆ M ∧ l₄ ⊆ M := by
  simpa only [List.append_assoc, List.append_subset] using h

theorem append_subset₅ {l₁ l₂ l₃ l₄ l₅ : List Mention} (h : l₁ ++ l₂ ++ l₃ ++ l₄ ++ l₅ ⊆ M) :
    l₁ ⊆ M ∧ l₂ ⊆ M ∧ l₃ ⊆ M ∧ l₄ ⊆ M ∧ l₅ ⊆ M := by
  simpa only [List.append_assoc, List.append_subset] using h

mutual

theorem query_sound (env : List String) (kind : ScopeKind) (aliasName : Option String) :
    ∀ q, Mentions.query env q ⊆ M →
      Keeps (Detector.Fits M env) (fun _ _ => True) (fun _ => Detector.Fits M env)
        (query kind aliasName q)
  | .mk _ ctes body _, hM => by
    intro s r s' hv hfit h
    obtain ⟨hv', hq', -⟩ := query_keeps kind aliasName _ s r s' hv trivial h
    replace hM := List.append_subset.mp hM
    simp only [query] at h
    obtain ⟨_, s₁, h₁, h⟩ := run_bind_ok h
    cases h₁
    obtain ⟨id, s₃, h₃, h⟩ := run_bind_ok h
    obtain ⟨_, s₂, h₂, h₃⟩ :=
      run_bind_ok (run_tryCatch_ok (fun e t => ⟨e, _, run_popFrame_throw e t⟩) h₃)
    obtain ⟨hv₂, -, -⟩ := withClause_keeps ctes _ _ _ hv.pushFrame trivial h₂
    obtain ⟨-, -, hfit₂, -⟩ := withClause_sound env ctes hM.1 _ _ _ hv.pushFrame
      ⟨⟨hfit.sound.of_arena rfl rfl, hfit.covers.pushFrame⟩, List.cons_ne_nil _ _⟩ h₂
    obtain ⟨-, -, hfit₃⟩ := setExpr_sound _ kind aliasName body hM.2 _ _ _ hv₂ hfit₂ h₃
    obtain ⟨_, s₄, h₄, h⟩ := run_bind_ok h
    cases h₄
    cases h
    -- the frame of this query's WITH names is closed again
    exact ⟨hv', trivial, ⟨hfit₃.sound.of_arena rfl rfl, hfit.covers.of_frames hq'.2⟩⟩

theorem withClause_sound (env : List String) :
    ∀ ctes, Mentions.withClause env ctes ⊆ M →
      Keeps (fun d => d.Fits M env ∧ d.frames ≠ []) (fun _ _ => True)
        (fun _ d => d.Fits M (env ++ ctes.map Sql.Cte.name) ∧ d.frames ≠ []) (withClause ctes)
  | [], _ => Keeps.of_pure () (fun _ => trivial) fun h => by simpa using h
  | .mk a q _ _ :: rest, hM => by
    intro s u s' hv hs h
    replace hM := List.append_subset.mp hM
    simp only [withClause] at h
    obtain ⟨id, s₁, h₁, h⟩ := run_bind_ok h
    obtain ⟨hv₁, hq₁, hans⟩ := query_keeps .cte (some a.name.value) q _ _ _ hv trivial h₁
    obtain ⟨-, -, hfit₁⟩ := query_sound env .cte (some a.name.value) q hM.1 _ _ _ hv hs.1 h₁
    have hne₁ : s₁.frames ≠ [] := hq₁.2 ▸ hs.2
    obtain ⟨_, s₂, h₂, h⟩ := run_bind_ok h
    obtain ⟨hv₂, -, -⟩ := keeps_addCte a.name.value id _ _ _ hv₁ hans.1 h₂
    rw [run_addCte] at h₂
    have hs₂ := (Prod.mk.inj h₂).2
    obtain ⟨f₀, fs, hfs⟩ := List.exists_cons_of_ne_nil hne₁
    have hfit₂ : Detector.Fits M (env ++ [a.name.value]) s₂ := by
      rw [← hs₂]
      exact ⟨hfit₁.sound.of_arena rfl rfl, hfit₁.covers.addCte hne₁ a.name.value id⟩
    have hne₂ : s₂.frames ≠ [] := by
      rw [← hs₂]
      simp [hfs]
    obtain ⟨hv', -, hfit', hne'⟩ := withClause_sound (env ++ [a.name.value]) rest hM.2 _ _ _ hv₂
      ⟨hfit₂, hne₂⟩ h
    refine ⟨hv', trivial, ?_, hne'⟩
    simpa [Sql.Cte.name] using hfit'

theorem setExpr_sound (env : List String) (kind : ScopeKind) (aliasName : Option String) :
    ∀ t, Mentions.setExpr env t ⊆ M →
      Keeps (Detector.Fits M env) (fun _ _ => True) (fun _ => Detector.Fits M env)
        (setExpr kind aliasName t)
  | .select sel, hM => by
    simp only [setExpr]
    exact select_sound env kind aliasName sel hM
  | .query q, hM => by
    simp only [setExpr]
    exact query_sound env kind aliasName q hM
  | .setOp l _ _ r, hM => by
    intro s id s' hv hfit h
    obtain ⟨hv', -, -⟩ := setExpr_keeps kind aliasName (.setOp l _ _ r) s id s' hv trivial h
    replace hM := List.append_subset.mp hM
    simp only [setExpr] at h
    obtain ⟨id, s₁, h₁, h⟩ := run_bind_ok h
    obtain ⟨rfl, rfl⟩ := enter_ok h₁
    have hv₁ := hv.push kind aliasName
    obtain ⟨left, s₂, h₂, h⟩ := run_bind_ok h
    obtain ⟨hv₂, hq₂, hl⟩ := setExpr_keeps .setOperand none l _ _ _ hv₁ trivial h₂
    obtain ⟨-, -, hfit₂⟩ := setExpr_sound env .setOperand none l hM.1 _ _ _ hv₁
      (hfit.push kind aliasName) h₂
    obtain ⟨right, s₃, h₃, h⟩ := run_bind_ok h
    obtain ⟨hv₃, hq₃, hr⟩ := setExpr_keeps .setOperand none r _ _ _ hv₂ trivial h₃
    obtain ⟨-, -, hfit₃⟩ := setExpr_sound env .setOperand none r hM.2 _ _ _ hv₂ hfit₂ h₃
    have hstack₃ : s₃.arena.stack = s.arena.size :: s.arena.stack := by
      rw [hq₃.1.stack, hq₂.1.stack]
      rfl
    have hops : ∀ {k}, k ∈ [left, right] → s₃.arena.Done k := by
      intro k hk
      rcases List.mem_pair.mp hk with rfl | rfl
      · exact hq₃.1.done hl.1
      · exact hr.1
    obtain ⟨_, s₄, h₄, h⟩ := run_bind_ok h
    cases h₄
    obtain ⟨_, s₅, h₅, h⟩ := run_bind_ok h
    obtain ⟨hv₅, -⟩ := hv₃.modifyScope h₅ (fun _ => rfl)
      (fun _ hk => .inr (hops (setOutputs_reads hk)))
      (fun _ hb hk => by
        rcases List.mem_append.mp hb with hb | hb
        · exact .inl hb
        · right
          apply hops
          simp only [List.mem_cons, List.not_mem_nil, or_false] at hb
          rcases hb with rfl | rfl <;> cases hk
          · exact List.mem_pair.mpr (.inl rfl)
          · exact List.mem_pair.mpr (.inr rfl))
    have hs₅ := Detector.modifyScope_ok h₅
    -- the outputs read the done operands at their places, and wait for no placing
    obtain ⟨hgrounded, hplaced⟩ := Detector.allGrounded_setOutputs (d := s₃) (M := M)
      fun _ hop => hops hop
    have hid : s.arena.size ∈ s₃.arena.stack := hstack₃ ▸ List.mem_cons_self
    have hfit₅ : Detector.Fits M env s₅ := by
      rw [hs₅]
      refine ⟨hfit₃.sound.modify hid (fun _ => rfl) (fun _ => rfl) (fun _ => hgrounded)
        (fun _ hb ht => ?_),
        hfit₃.covers.of_frames rfl⟩
      rcases List.mem_append.mp hb with hb | hb
      · exact .inl hb
      · simp only [List.mem_cons, List.not_mem_nil, or_false] at hb
        rcases hb with rfl | rfl <;> cases ht
    obtain ⟨_, s₆, h₆, h⟩ := run_bind_ok h
    cases h
    refine ⟨hv', trivial, hfit₅.exit hv₅ (by rw [hs₅]; exact hstack₃) (fun hS g hg => ?_) h₆⟩
    rw [hs₅, ScopeArena.get?_modify_self] at hS
    obtain ⟨S, -, rfl⟩ := Option.map_eq_some_iff.mp hS
    exact hplaced g hg
  | .values _ [], _ => by
    simp only [setExpr]
    exact sound_values _ aliasName
      (Keeps.of_pure [] (Detector.Quiet.refl none) fun _ => Detector.ReadsDone.nil _)
      (Keeps.of_pure [] (fun _ => trivial) fun h => ⟨h, Detector.AllGrounded.nil _⟩)
  | .values _ (row :: _), hM => by
    replace hM := List.append_subset.mp hM
    simp only [setExpr]
    exact sound_values _ aliasName (rowFields_keeps 1 row) (rowFields_sound env 1 row hM.1)
  | .insert .., _ => by
    simp only [setExpr]
    exact Keeps.of_throw _
  | .other _, _ => by
    simp only [setExpr]
    exact Keeps.of_throw _

theorem select_sound (env : List String) (kind : ScopeKind) (aliasName : Option String) :
    ∀ sel, Mentions.select env sel ⊆ M →
      Keeps (Detector.Fits M env) (fun _ _ => True) (fun _ => Detector.Fits M env)
        (select kind aliasName sel)
  | .mk _ projection _ from_ _ selection _ having _, hM => by
    intro s r s' hv hfit h
    obtain ⟨hv', -, -⟩ := select_keeps kind aliasName (.mk _ projection _ from_ _ selection _ having _)
      s r s' hv trivial h
    obtain ⟨hfrom, hitems, hwhere, hhaving⟩ := append_subset₄ hM
    simp only [select] at h
    obtain ⟨id, s₁, h₁, h⟩ := run_bind_ok h
    obtain ⟨rfl, rfl⟩ := enter_ok h₁
    have hv₁ := hv.push kind aliasName
    obtain ⟨_, s₂, h₂, h⟩ := run_bind_ok h
    obtain ⟨hv₂, hq₂, -⟩ := fromClause_keeps from_ _ _ _ hv₁ trivial h₂
    obtain ⟨-, -, hfit₂⟩ := fromClause_sound env from_ hfrom _ _ _ hv₁ (hfit.push kind aliasName) h₂
    obtain ⟨fields, s₃, h₃, h⟩ := run_bind_ok h
    obtain ⟨hv₃, hq₃, hreads⟩ := selectItems_keeps projection _ _ _ hv₂ trivial h₃
    obtain ⟨-, -, hfit₃, hfields⟩ := selectItems_sound env projection hitems _ _ _ hv₂ hfit₂ h₃
    -- the new scope stays open, on top, until it is closed
    have hstack₃ : s₃.arena.stack = s.arena.size :: s.arena.stack := by
      rw [hq₃.1.stack, hq₂.1.stack]
      rfl
    have hid : s.arena.size ∈ s₃.arena.stack := hstack₃ ▸ List.mem_cons_self
    obtain ⟨_, s₄, h₄, h⟩ := run_bind_ok h
    obtain ⟨hv₄, hq₄⟩ := hv₃.modifyScope h₄ (fun _ => rfl) (fun _ hk => .inr (hreads _ hk))
      (fun _ hb _ => .inl hb)
    have hfit₄ : Detector.Fits M env s₄ := by
      rw [Detector.modifyScope_ok h₄]
      exact ⟨hfit₃.sound.modify hid (fun _ => rfl) (fun _ => rfl) (fun _ => hfields)
        (fun _ hb _ => .inl hb),
        hfit₃.covers.of_frames rfl⟩
    obtain ⟨_, s₅, h₅, h⟩ := run_bind_ok h
    obtain ⟨hv₅, hq₅, -⟩ := walkOpt_keeps .predicate selection [] _ _ _ hv₄
      (Detector.ReadsDone.nil _) h₅
    obtain ⟨-, -, hfit₅, -⟩ := walkOpt_sound env .predicate selection hwhere [] _ _ _ hv₄
      ⟨hfit₄, Detector.AllGrounded.nil _⟩ h₅
    obtain ⟨_, s₆, h₆, h⟩ := run_bind_ok h
    obtain ⟨hv₆, hq₆, -⟩ := walkOpt_keeps .predicate having [] _ _ _ hv₅
      (Detector.ReadsDone.nil _) h₆
    obtain ⟨-, -, hfit₆, -⟩ := walkOpt_sound env .predicate having hhaving [] _ _ _ hv₅
      ⟨hfit₅, Detector.AllGrounded.nil _⟩ h₆
    have hstack₆ : s₆.arena.stack = s.arena.size :: s.arena.stack := by
      rw [hq₆.1.stack, hq₅.1.stack, hq₄.1.stack]
      exact hstack₃
    obtain ⟨_, s₇, h₇, h⟩ := run_bind_ok h
    obtain ⟨hv₇, hq₇, -⟩ := keeps_finalize _ _ _ _ hv₆ trivial h₇
    obtain ⟨hfit₇, hplaced⟩ := hfit₆.finalize hv₆ (hstack₆ ▸ List.mem_cons_self) h₇
    obtain ⟨_, s₈, h₈, h⟩ := run_bind_ok h
    cases h
    exact ⟨hv', trivial, hfit₇.exit hv₇ (by rw [hq₇.1.stack]; exact hstack₆) hplaced h₈⟩

theorem selectItems_sound (env : List String) :
    ∀ items, Mentions.selectItems env items ⊆ M →
      Keeps (Detector.Fits M env) (fun _ _ => True)
        (fun fs d => d.Fits M env ∧ d.AllGrounded M fs) (selectItems items)
  | [], _ => Keeps.of_pure [] (fun _ => trivial) fun h => ⟨h, Detector.AllGrounded.nil _⟩
  | item :: rest, hM => by
    rw [Mentions.selectItems_cons, List.append_subset] at hM
    intro s fs s' hv hfit h
    simp only [selectItems] at h
    obtain ⟨fs₁, s₁, h₁, h⟩ := run_bind_ok h
    obtain ⟨hv₁, -, -⟩ := selectItem_keeps item _ _ _ hv trivial h₁
    obtain ⟨-, -, hfit₁, hfs₁⟩ := selectItem_sound env item hM.1 _ _ _ hv hfit h₁
    obtain ⟨more, s₂, h₂, h⟩ := run_bind_ok h
    obtain ⟨hv₂, hq₂, -⟩ := selectItems_keeps rest _ _ _ hv₁ trivial h₂
    obtain ⟨-, -, hfit₂, hmore⟩ := selectItems_sound env rest hM.2 _ _ _ hv₁ hfit₁ h₂
    cases h
    exact ⟨hv₂, trivial, hfit₂, (hfs₁.keep hq₂.keepsDone).append hmore⟩

theorem selectItem_sound (env : List String) :
    ∀ item, Mentions.selectItems env [item] ⊆ M →
      Keeps (Detector.Fits M env) (fun _ _ => True)
        (fun fs d => d.Fits M env ∧ d.AllGrounded M fs) (selectItem item)
  | .expr e aliasName, hM => by
    replace hM := (List.append_subset.mp hM).1
    simp only [selectItem]
    split
    · rename_i ref href
      exact Keeps.of_pure _ (fun _ => trivial) fun {d} h => ⟨h, d.allGrounded_written href hM⟩
    · exact Keeps.bind (fun _ _ => trivial) ((walk_sound env .value e hM []).mono
        (fun h => ⟨h, Detector.AllGrounded.nil _⟩) (fun h => h) (fun h => h)) fun inputs =>
          Keeps.of_pure _ (fun _ => trivial) fun h => ⟨h.1, h.2.exprField _ e⟩
  | .wildcard none _, _ => by
    simp only [selectItem]
    intro s fs s' hv hfit h
    obtain ⟨hv', -, -⟩ := keeps_expandWildcard none s fs s' hv trivial h
    exact ⟨hv', trivial, hfit.expandWildcard hv h⟩
  | .wildcard (some name) _, _ => by
    simp only [selectItem]
    split
    · intro s fs s' hv hfit h
      obtain ⟨hv', -, -⟩ := keeps_expandWildcard _ s fs s' hv trivial h
      exact ⟨hv', trivial, hfit.expandWildcard hv h⟩
    · exact Keeps.of_throw _

theorem rowFields_sound (env : List String) (n : Nat) :
    ∀ row, Mentions.exprs env row ⊆ M →
      Keeps (Detector.Fits M env) (fun _ _ => True)
        (fun fs d => d.Fits M env ∧ d.AllGrounded M fs) (rowFields n row)
  | [], _ => Keeps.of_pure [] (fun _ => trivial) fun h => ⟨h, Detector.AllGrounded.nil _⟩
  | e :: rest, hM => by
    replace hM := List.append_subset.mp hM
    intro s fs s' hv hfit h
    simp only [rowFields] at h
    obtain ⟨inputs, s₁, h₁, h⟩ := run_bind_ok h
    obtain ⟨hv₁, -, -⟩ := walk_keeps .value e [] _ _ _ hv (Detector.ReadsDone.nil _) h₁
    obtain ⟨-, -, hfit₁, hinputs⟩ := walk_sound env .value e hM.1 [] _ _ _ hv
      ⟨hfit, Detector.AllGrounded.nil _⟩ h₁
    obtain ⟨more, s₂, h₂, h⟩ := run_bind_ok h
    obtain ⟨hv₂, hq₂, -⟩ := rowFields_keeps (n + 1) rest _ _ _ hv₁ trivial h₂
    obtain ⟨-, -, hfit₂, hmore⟩ := rowFields_sound env (n + 1) rest hM.2 _ _ _ hv₁ hfit₁ h₂
    cases h
    exact ⟨hv₂, trivial, hfit₂, ((hinputs.exprField _ e).keep hq₂.keepsDone).append hmore⟩

theorem fromClause_sound (env : List String) :
    ∀ ts, Mentions.fromClause env ts ⊆ M →
      Keeps (Detector.Fits M env) (fun _ _ => True) (fun _ => Detector.Fits M env) (fromClause ts)
  | [], _ => Keeps.of_pure () (fun _ => trivial) fun h => h
  | t :: rest, hM => by
    replace hM := List.append_subset.mp hM
    simp only [fromClause]
    exact Keeps.bind (fun _ _ => trivial) (tableWithJoins_sound env t hM.1) fun _ =>
      fromClause_sound env rest hM.2

theorem tableWithJoins_sound (env : List String) :
    ∀ t, Mentions.tableWithJoins env t ⊆ M →
      Keeps (Detector.Fits M env) (fun _ _ => True) (fun _ => Detector.Fits M env)
        (tableWithJoins t)
  | .mk relation js, hM => by
    replace hM := List.append_subset.mp hM
    simp only [tableWithJoins]
    exact Keeps.bind (fun _ _ => trivial) (factor_sound env relation hM.1) fun _ =>
      joins_sound env js hM.2

theorem joins_sound (env : List String) :
    ∀ js, Mentions.joins env js ⊆ M →
      Keeps (Detector.Fits M env) (fun _ _ => True) (fun _ => Detector.Fits M env) (joins js)
  | [], _ => Keeps.of_pure () (fun _ => trivial) fun h => h
  | .mk _ kind relation on c :: rest, hM => by
    obtain ⟨hrel, hon, hrest⟩ := append_subset₃ hM
    simp only [joins]
    refine Keeps.bind (fun _ _ => trivial) (factor_sound env relation hrel) fun _ => ?_
    -- the condition of an inner or outer join, or its USING columns
    split
    · split
      · exact Keeps.bind (fun _ _ => trivial) ((walkOpt_sound env .predicate on hon []).mono
          (fun h => ⟨h, Detector.AllGrounded.nil _⟩) (fun h => h) (fun h => h.1)) fun _ =>
            joins_sound env rest hrest
      · exact Keeps.bind (fun _ _ => trivial) (fun s u s' hv hfit h =>
          ⟨(hv.addUsing h).1, trivial, hfit.addUsing h⟩) fun _ => joins_sound env rest hrest
      · exact joins_sound env rest hrest
    · exact joins_sound env rest hrest

theorem factor_sound (env : List String) :
    ∀ t, Mentions.factor env t ⊆ M →
      Keeps (Detector.Fits M env) (fun _ _ => True) (fun _ => Detector.Fits M env) (factor t)
  | .table name _ aliasName _, hM => by
    intro s u s' hv hfit h
    obtain ⟨hv', -, -⟩ := factor_keeps (.table name _ aliasName _) s u s' hv trivial h
    simp only [factor] at h
    simp only [Mentions.factor] at hM
    split at h
    · rename_i t ht
      simp only [ht] at hM
      obtain ⟨r, s₁, h₁, h⟩ := run_bind_ok h
      have hl := h₁
      rw [run_lookupCte] at h₁
      obtain ⟨-, rfl⟩ := Prod.mk.inj h₁
      -- a WITH name in reach binds its scope, any other name its table
      rcases r with _ | k
      · obtain ⟨target, s₂, h₂, h⟩ := run_bind_ok h
        cases h₂
        have htable : Mention.table t ∈ M := hM (by rw [hfit.covers.table hl]; simp)
        exact ⟨hv', trivial, hfit.bind h fun ht' => by cases ht'; exact htable⟩
      · obtain ⟨target, s₂, h₂, h⟩ := run_bind_ok h
        cases h₂
        exact ⟨hv', trivial, hfit.bind h fun ht' => by cases ht'⟩
    · cases h
  | .derived _ q aliasName, hM => by
    intro s u s' hv hfit h
    obtain ⟨hv', -, -⟩ := factor_keeps (.derived _ q aliasName) s u s' hv trivial h
    simp only [factor] at h
    obtain ⟨child, s₁, h₁, h⟩ := run_bind_ok h
    obtain ⟨-, -, hfit₁⟩ := query_sound env .derived _ q hM _ _ _ hv hfit h₁
    exact ⟨hv', trivial, hfit₁.bind h fun ht => by cases ht⟩
  | .nestedJoin inner _, hM => by
    simp only [factor]
    exact tableWithJoins_sound env inner hM
  | .other _, _ => by
    simp only [factor]
    intro s u s' hv hfit h
    cases h
    exact ⟨⟨hv.shaped, hv.closed.reads, hv.closed.targets, hv.closed.ctes⟩, trivial,
      hfit.of_arena rfl rfl rfl⟩

theorem walk_sound (env : List String) (mode : WalkMode) :
    ∀ e, Mentions.expr env e ⊆ M → WalkSound M env (walk mode e)
  | .identifier i, hM => fun acc => by
    rw [walk_identifier]
    split
    · exact Keeps.of_pure _ (fun _ => trivial) fun {d} h =>
        ⟨h.1, h.2.addInput (d.allGrounded_written (e := .identifier i) rfl hM)⟩
    · exact WalkSound.pure acc
  | .compound parts, hM => fun acc => by
    rw [walk_compound]
    split
    · split
      · rename_i ref href
        exact Keeps.of_pure _ (fun _ => trivial) fun {d} h =>
          ⟨h.1, h.2.addInput (d.allGrounded_written href hM)⟩
      · exact WalkSound.pure acc
    · exact WalkSound.pure acc
  | .isTest e _, hM => by
    exact walk_sound env mode e hM
  | .isDistinctFrom a _ b, hM => by
    replace hM := List.append_subset.mp hM
    exact (walk_sound env mode a hM.1).comp (walk_sound env mode b hM.2)
  | .inList e list _, hM => by
    replace hM := List.append_subset.mp hM
    exact (walk_sound env mode e hM.1).comp (walkList_sound env mode list hM.2)
  | .inSubquery e q _, hM => by
    replace hM := List.append_subset.mp hM
    exact WalkSound.after (query_keeps .predicate none q) (query_sound env .predicate none q hM.1)
      (walk_sound env mode e hM.2)
  | .inUnnest e arr _, hM => by
    replace hM := List.append_subset.mp hM
    exact (walk_sound env mode e hM.1).comp (walk_sound env mode arr hM.2)
  | .between e _ lo hi, hM => by
    replace hM := append_subset₃ hM
    exact (walk_sound env mode e hM.1).comp ((walk_sound env mode lo hM.2.1).comp
      (walk_sound env mode hi hM.2.2))
  | .binary l _ r, hM => by
    replace hM := List.append_subset.mp hM
    exact (walk_sound env mode l hM.1).comp (walk_sound env mode r hM.2)
  | .like _ _ _ e p _, hM => by
    replace hM := List.append_subset.mp hM
    exact (walk_sound env mode e hM.1).comp (walk_sound env mode p hM.2)
  | .rlike _ e p _, hM => by
    replace hM := List.append_subset.mp hM
    exact (walk_sound env mode e hM.1).comp (walk_sound env mode p hM.2)
  | .quantified l _ _ r, hM => by
    replace hM := List.append_subset.mp hM
    exact (walk_sound env mode l hM.1).comp (walk_sound env mode r hM.2)
  | .unary _ e, hM => by
    exact walk_sound env mode e hM
  | .postOp e _, hM => by
    exact walk_sound env mode e hM
  | .cast _ e _ _, hM => by
    exact walk_sound env mode e hM
  | .atTimeZone t z, hM => by
    replace hM := List.append_subset.mp hM
    exact (walk_sound env mode t hM.1).comp (walk_sound env mode z hM.2)
  | .extract _ _ e, hM => by
    exact walk_sound env mode e hM
  | .ceilFloor _ e _ _, hM => by
    replace hM := List.append_subset.mp hM
    exact walk_sound env mode e hM.1
  | .position e i, hM => by
    replace hM := List.append_subset.mp hM
    exact (walk_sound env mode e hM.1).comp (walk_sound env mode i hM.2)
  | .substring e f fo _, hM => by
    replace hM := append_subset₃ hM
    exact (walk_sound env mode e hM.1).comp ((walkOpt_sound env mode f hM.2.1).comp
      (walkOpt_sound env mode fo hM.2.2))
  | .trim e _ what chars, hM => by
    replace hM := append_subset₃ hM
    exact (walk_sound env mode e hM.1).comp ((walkOpt_sound env mode what hM.2.1).comp
      (walkList_sound env mode chars hM.2.2))
  | .overlay e w f fo, hM => by
    replace hM := append_subset₄ hM
    exact (walk_sound env mode e hM.1).comp ((walk_sound env mode w hM.2.1).comp
      ((walk_sound env mode f hM.2.2.1).comp (walkOpt_sound env mode fo hM.2.2.2)))
  | .collate e _, hM => by
    exact walk_sound env mode e hM
  | .nested e, hM => by
    exact walk_sound env mode e hM
  | .tuple items, hM => by
    exact walkList_sound env mode items hM
  | .array items _, hM => by
    exact walkList_sound env mode items hM
  | .interval v _, hM => by
    exact walk_sound env mode v hM
  | .function _ params args filter _ window withinGroup _, hM => by
    replace hM := append_subset₅ hM
    exact (walkArgs_sound env mode params hM.1).comp ((walkArgs_sound env mode args hM.2.1).comp
      ((walkOpt_sound env mode filter hM.2.2.1).comp ((walkWindow_sound env mode window hM.2.2.2.1).comp
        (walkOrder_sound env mode withinGroup hM.2.2.2.2))))
  | .namedArg _ _ e, hM => by
    exact walk_sound env mode e hM
  | .exprNamedArg name _ e, hM => by
    replace hM := List.append_subset.mp hM
    exact (walk_sound env mode name hM.1).comp (walk_sound env mode e hM.2)
  | .matchAgainst .., _ => WalkSound.pure
  | .case operand conds results otherwise, hM => by
    replace hM := append_subset₄ hM
    exact (walkOpt_sound env mode operand hM.1).comp ((walkList_sound env mode conds hM.2.1).comp
      ((walkList_sound env mode results hM.2.2.1).comp (walkOpt_sound env mode otherwise hM.2.2.2)))
  | .exists q _, hM => by
    exact WalkSound.after (query_keeps .predicate none q) (query_sound env .predicate none q hM)
      WalkSound.pure
  | .subquery q, hM => fun acc => by
    cases mode
    · -- a scalar subquery feeds the output: its scope is done once walked
      intro s acc' s' hv hs h
      obtain ⟨id, s₁, h₁, h⟩ := run_bind_ok h
      obtain ⟨hv₁, hq₁, hans⟩ := query_keeps .scalar none q s id s₁ hv trivial h₁
      obtain ⟨-, -, hfit₁⟩ := query_sound env .scalar none q hM s id s₁ hv hs.1 h₁
      cases h
      exact ⟨hv₁, trivial, hfit₁,
        (hs.2.keep hq₁.keepsDone).addInput (Detector.AllGrounded.scalar _ hans.1 _ _)⟩
    · exact WalkSound.after (query_keeps .predicate none q) (query_sound env .predicate none q hM)
        WalkSound.pure acc
  | .access root chain, hM => by
    replace hM := List.append_subset.mp hM
    exact (walk_sound env mode root hM.1).comp (walkAccess_sound env mode chain hM.2)
  | .pathAccess e path, hM => by
    replace hM := List.append_subset.mp hM
    exact (walk_sound env mode e hM.1).comp (walkPath_sound env mode path hM.2)
  | .composite e _, hM => by
    exact walk_sound env mode e hM
  | .wildcard, _ => WalkSound.pure
  | .qualifiedWildcard _, _ => WalkSound.pure
  | .introduced .., _ => WalkSound.pure
  | .convert _ e _ _ _ styles, hM => by
    replace hM := List.append_subset.mp hM
    exact (walk_sound env mode e hM.1).comp (walkList_sound env mode styles hM.2)
  | .structLiteral _ values, hM => by
    exact walkList_sound env mode values hM
  | .named e _, hM => by
    exact walk_sound env mode e hM
  | .dictionary _ values, hM => by
    exact walkList_sound env mode values hM
  | .mapLiteral entries, hM => by
    exact walkEntries_sound env mode entries hM
  | .prior e, hM => by
    exact walk_sound env mode e hM
  | .lambda _ _ body, hM => by
    exact walk_sound env mode body hM
  | .outerJoin e, hM => by
    exact walk_sound env mode e hM
  | .method e calls, hM => by
    replace hM := List.append_subset.mp hM
    exact (walk_sound env mode e hM.1).comp (walkList_sound env mode calls hM.2)
  | .value _, _ => WalkSound.pure
  | .typedString .., _ => WalkSound.pure

theorem walkList_sound (env : List String) (mode : WalkMode) :
    ∀ es, Mentions.exprs env es ⊆ M → WalkSound M env (walkList mode es)
  | [], _ => WalkSound.pure
  | e :: rest, hM => by
    replace hM := List.append_subset.mp hM
    exact (walk_sound env mode e hM.1).comp (walkList_sound env mode rest hM.2)

theorem walkAccess_sound (env : List String) (mode : WalkMode) :
    ∀ chain, Mentions.access env chain ⊆ M → WalkSound M env (walkAccess mode chain)
  | [], _ => WalkSound.pure
  | .field e :: rest, hM => by
    replace hM := List.append_subset.mp hM
    exact (walk_sound env mode e hM.1).comp (walkAccess_sound env mode rest hM.2)
  | .index e :: rest, hM => by
    replace hM := List.append_subset.mp hM
    exact (walk_sound env mode e hM.1).comp (walkAccess_sound env mode rest hM.2)
  | .slice lower upper stride :: rest, hM => by
    replace hM := append_subset₄ hM
    exact (walkOpt_sound env mode lower hM.1).comp ((walkOpt_sound env mode upper hM.2.1).comp
      ((walkOpt_sound env mode stride hM.2.2.1).comp (walkAccess_sound env mode rest hM.2.2.2)))

theorem walkClauses_sound (env : List String) (mode : WalkMode) :
    ∀ clauses, Mentions.clauses env clauses ⊆ M → WalkSound M env (walkClauses mode clauses)
  | [], _ => WalkSound.pure
  | .mk _ e _ :: rest, hM => by
    replace hM := List.append_subset.mp hM
    exact (walkOpt_sound env mode e hM.1).comp (walkClauses_sound env mode rest hM.2)

theorem walkEntries_sound (env : List String) (mode : WalkMode) :
    ∀ entries, Mentions.mapEntries env entries ⊆ M → WalkSound M env (walkEntries mode entries)
  | [], _ => WalkSound.pure
  | .mk key v :: rest, hM => by
    replace hM := append_subset₃ hM
    exact (walk_sound env mode key hM.1).comp ((walk_sound env mode v hM.2.1).comp
      (walkEntries_sound env mode rest hM.2.2))

theorem walkPath_sound (env : List String) (mode : WalkMode) :
    ∀ path, Mentions.pathSteps env path ⊆ M → WalkSound M env (walkPath mode path)
  | [], _ => WalkSound.pure
  | .key _ _ :: rest, hM => by
    exact walkPath_sound env mode rest hM
  | .bracket e :: rest, hM => by
    replace hM := List.append_subset.mp hM
    exact (walk_sound env mode e hM.1).comp (walkPath_sound env mode rest hM.2)

theorem walkOpt_sound (env : List String) (mode : WalkMode) :
    ∀ e, Mentions.opt env e ⊆ M → WalkSound M env (walkOpt mode e)
  | none, _ => WalkSound.pure
  | some e, hM => by
    exact walk_sound env mode e hM

theorem walkArgs_sound (env : List String) (mode : WalkMode) :
    ∀ args, Mentions.callArgs env args ⊆ M → WalkSound M env (walkArgs mode args)
  | .list _ args _ orderBy limit clauses, hM => by
    replace hM := append_subset₄ hM
    exact (walkList_sound env mode args hM.1).comp ((walkOrder_sound env mode orderBy hM.2.1).comp
      ((walkOpt_sound env mode limit hM.2.2.1).comp (walkClauses_sound env mode clauses hM.2.2.2)))
  | .none, _ => WalkSound.pure
  | .subquery _, _ => WalkSound.pure

theorem walkOrder_sound (env : List String) (mode : WalkMode) :
    ∀ items, Mentions.order env items ⊆ M → WalkSound M env (walkOrder mode items)
  | [], _ => WalkSound.pure
  | .mk e _ _ fill :: rest, hM => by
    replace hM := append_subset₃ hM
    exact (walk_sound env mode e hM.1).comp ((walkFill_sound env mode fill hM.2.1).comp
      (walkOrder_sound env mode rest hM.2.2))

theorem walkFill_sound (env : List String) (mode : WalkMode) :
    ∀ fill, Mentions.withFill env fill ⊆ M → WalkSound M env (walkFill mode fill)
  | some (.mk start stop step), hM => by
    replace hM := append_subset₃ hM
    exact (walkOpt_sound env mode start hM.1).comp ((walkOpt_sound env mode stop hM.2.1).comp
      (walkOpt_sound env mode step hM.2.2))
  | none, _ => WalkSound.pure

theorem walkWindow_sound (env : List String) (mode : WalkMode) :
    ∀ window, Mentions.windowSpec env window ⊆ M → WalkSound M env (walkWindow mode window)
  | some (.spec _ partitionBy orderBy _ _ startExpr _ endExpr), hM => by
    replace hM := append_subset₄ hM
    exact (walkList_sound env mode partitionBy hM.1).comp ((walkOrder_sound env mode orderBy hM.2.1).comp
      ((walkOpt_sound env mode startExpr hM.2.2.1).comp (walkOpt_sound env mode endExpr hM.2.2.2)))
  | some (.named _), _ => WalkSound.pure
  | none, _ => WalkSound.pure

end

/-! ### Statements -/

section Statements

variable {β : Type} {pre : Detector → Prop} {post : β → Detector → Prop}

theorem Detector.Valid.of_arena {d d' : Detector} (h : d.Valid) (ha : d'.arena = d.arena)
    (hf : d'.frames = d.frames) : d'.Valid := by
  refine ⟨ha ▸ h.shaped, fun hk => ?_, fun hk => ?_, fun hf' hk => ?_⟩
  · rw [ha] at hk ⊢
    exact h.closed.reads hk
  · rw [ha] at hk ⊢
    exact h.closed.targets hk
  · rw [hf] at hf'
    rw [ha]
    exact h.closed.ctes hf' hk

/-- A fresh detector holds no scope and no WITH name. -/
theorem Detector.valid_new (catalog : Catalog) (maxDepth : Nat) :
    (Detector.new catalog maxDepth).Valid := by
  have hnone : ∀ {i S}, (Detector.new catalog maxDepth).arena.get? i ≠ some S := fun {i _} hS => by
    rw [ScopeArena.get?_eq_none (Nat.zero_le i)] at hS
    cases hS
  refine ⟨⟨fun hS => absurd hS hnone, fun hi => ?_, List.nodup_nil⟩,
    fun ⟨_, _, hS, _⟩ => absurd hS hnone, fun ⟨_, _, _, hS, _⟩ => absurd hS hnone, fun hf => ?_⟩
  · cases hi
  · cases hf

theorem Keeps.get_bind {R : Detector → Detector → Prop} {f : Detector → Detect β}
    (h : ∀ s₀, Keeps pre R post (f s₀)) : Keeps pre R post (get >>= f) := by
  intro s a s' hv hs hr
  rw [run_bind_of_ok (run_get s)] at hr
  exact h s s a s' hv hs hr

theorem Keeps.throw_bind {γ : Type} {R : Detector → Detector → Prop} (e : LineageError)
    (f : γ → Detect β) : Keeps pre R post (throw e >>= f) := by
  intro s a s' _ _ hr
  rw [run_bind_of_error (run_throw e s)] at hr
  cases hr

/-- The walk keeps the catalog it was given. -/
def SameCatalog (d d' : Detector) : Prop := d'.catalog = d.catalog

theorem SameCatalog.refl (d : Detector) : SameCatalog d d := rfl

theorem SameCatalog.trans {d₁ d₂ d₃ : Detector} (h₁ : SameCatalog d₁ d₂) (h₂ : SameCatalog d₂ d₃) :
    SameCatalog d₁ d₃ :=
  Eq.trans h₂ h₁

/-- Recording something of the statement beside its scopes keeps the arena
sound. -/
theorem keeps_record (f : Detector → Detector)
    (hf : ∀ d, (f d).arena = d.arena ∧ (f d).frames = d.frames ∧ (f d).catalog = d.catalog) :
    Keeps (Detector.Sound M) SameCatalog (fun _ => Detector.Sound M) (modify f) := by
  intro s u s' hv hs hr
  rw [run_modify] at hr
  cases hr
  exact ⟨hv.of_arena (hf s).1 (hf s).2.1, (hf s).2.2, hs.of_arena (hf s).1 (hf s).2.2⟩

/-- The walk of a statement's query, the query recorded as its root: it leaves
the arena sound, and passes the final check only with every scope closed. -/
theorem root_sound (q : Sql.Query) (hq : Mentions.query [] q ⊆ M) :
    Keeps (Detector.Sound M) SameCatalog (fun _ d => d.Sound M ∧ d.arena.stack = []) (do
      let r ← query .query none q
      modify fun d => { d with root := some r }
      if (← get).arena.depth != 0 then throw (.malformed "scopes left open after traversal")) := by
  intro s u s' hv hs h
  obtain ⟨r, s₁, h₁, h⟩ := run_bind_ok h
  obtain ⟨hv₁, hq₁, -⟩ := query_keeps .query none q s r s₁ hv trivial h₁
  obtain ⟨-, -, hfit₁⟩ := query_sound [] .query none q hq s r s₁ hv ⟨hs, fun _ hn => by cases hn⟩ h₁
  obtain ⟨_, s₂, h₂, h⟩ := run_bind_ok h
  rw [run_modify] at h₂
  cases h₂
  rw [run_bind_of_ok (run_get _)] at h
  split at h
  · cases h
  · rename_i hdepth
    cases h
    refine ⟨hv₁.of_arena rfl rfl, hq₁.1.catalog, hfit₁.sound.of_arena rfl rfl, ?_⟩
    simpa [ScopeArena.depth] using hdepth

/-- The walk over a statement keeps the arena sound for the names the
statement writes, and succeeds only with every scope closed. -/
theorem statement_sound (st : Sql.Statement) :
    Keeps (Detector.Sound st.mentions) SameCatalog
      (fun _ d => d.Sound st.mentions ∧ d.arena.stack = []) (Detect.statement st) := by
  have hrecord := fun f hf => keeps_record (M := st.mentions) f hf
  have htrans : ∀ {d₁ d₂ d₃ : Detector}, SameCatalog d₁ d₂ → SameCatalog d₂ d₃ →
      SameCatalog d₁ d₃ := SameCatalog.trans
  simp only [Detect.statement]
  refine Keeps.get_bind fun _ => ?_
  split
  · exact Keeps.throw_bind _ _
  refine Keeps.bind htrans (hrecord _ fun _ => ⟨rfl, rfl, rfl⟩) fun _ => ?_
  -- every kind of statement either fails at once or walks its query at the top
  split
  · exact root_sound _ (by simp [Sql.Statement.mentions])
  · split
    · split
      · refine Keeps.bind htrans (Keeps.of_pure _ SameCatalog.refl fun h => h)
          fun _ => Keeps.bind htrans (hrecord _ fun _ => ⟨rfl, rfl, rfl⟩) fun _ =>
            Keeps.bind htrans (hrecord _ fun _ => ⟨rfl, rfl, rfl⟩) fun _ => ?_
        split
        · exact Keeps.throw_bind _ _
        · exact root_sound _ (by simp_all [Sql.Statement.mentions, Mentions.optQuery])
      · exact Keeps.throw_bind _ _
    · exact Keeps.throw_bind _ _
  · split
    · exact Keeps.throw_bind _ _
    · exact Keeps.bind htrans (hrecord _ fun _ => ⟨rfl, rfl, rfl⟩) fun _ =>
        root_sound _ (by simp_all [Sql.Statement.mentions, Mentions.optQuery])
  · exact Keeps.bind htrans (hrecord _ fun _ => ⟨rfl, rfl, rfl⟩) fun _ =>
      root_sound _ (by simp [Sql.Statement.mentions])
  · exact Keeps.throw_bind _ _

/-- **A walk that succeeds leaves a sound arena.** Walking a statement from a
fresh detector, when it succeeds, keeps the catalog, closes every scope and
leaves an arena sound for the names the statement writes. -/
theorem detect_sound {catalog : Catalog} {maxDepth : Nat} {st : Sql.Statement} {d : Detector}
    (h : (Detector.new catalog maxDepth).detect st = (.ok (), d)) :
    d.Valid ∧ d.catalog = catalog ∧ d.arena.stack = [] ∧ d.Sound st.mentions := by
  obtain ⟨hv, hcat, hs, hstack⟩ := statement_sound st _ _ _ (Detector.valid_new catalog maxDepth)
    (Detector.sound_of_size rfl rfl) h
  exact ⟨hv, hcat, hstack, hs⟩

end Statements

end ColumnLineage
