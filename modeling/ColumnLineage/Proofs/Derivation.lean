import ColumnLineage.Proofs.Run
import ColumnLineage.Proofs.Renaming
/-
ColumnLineage/Proofs/Derivation.lean

Where the walk to sources finds its sources. `Derives` says, with one rule
for each way the walk ends or goes on, which sources a field may have and
which a name of a scope may have: a column placed in a table is that table's
column, a column read from a scope has the sources of that scope's output of
the name, a computed field those of its inputs, and so on. It mentions no
depth, no table of found names and no failure.

Main statement (`field_derives`): whatever the depth, the limit and the table
of found names it starts from, the walk gives a field only sources that
derive for it, as long as every entry of the table derives for its name;
and it keeps the table so. The lineage of a statement's outputs then has only
derived sources (`resolveOutputs_derive`), and facts about sources follow by
induction over `Derives`.
-/

namespace ColumnLineage.Resolve

open Run

/-- What the walk is asked: the sources of a field, or those of the output
`name` of scope `id`, at a place if one is known. -/
inductive Ask where
  | field (f : Field)
  | named (id : Nat) (name : String) (position : Option Nat)

/-- The sources an ask may have in `arena`. A name that the scope does not
output is looked for through the scope's one wildcard, which either reads
another scope (`link`) or stands for a table or nothing (`star`). -/
inductive Derives (arena : ScopeArena) : Ask → Source → Prop where
  | table {n : String} {ref : ColumnRef} {p : Transformation} {t : TableName} :
      ref.origin = .table t →
      Derives arena (.field (.column n ref p)) { table := some t, field := ref.column }
  | scope {n : String} {ref : ColumnRef} {p : Transformation} {c : Nat} {s : Source} :
      ref.origin = .scope c → Derives arena (.named c ref.column ref.position) s →
      Derives arena (.field (.column n ref p)) s
  | ambiguous {n : String} {ref : ColumnRef} {p : Transformation} {labels : List String} :
      ref.origin = .ambiguous labels →
      Derives arena (.field (.column n ref p))
        { table := ref.qualifier, field := ref.column, kind := .ambiguous }
  | unbound {n : String} {ref : ColumnRef} {p : Transformation} :
      ref.origin = .unbound →
      Derives arena (.field (.column n ref p))
        { table := ref.qualifier, field := ref.column, kind := .unresolved }
  | pending {n : String} {ref : ColumnRef} {p : Transformation} :
      ref.origin = .pending →
      Derives arena (.field (.column n ref p))
        { table := ref.qualifier, field := ref.column, kind := .unresolved }
  | derived {n : String} {deps : List Field} {p : Transformation} {g : Field} {s : Source} :
      g ∈ deps → Derives arena (.field g) s → Derives arena (.field (.derived n deps p)) s
  | scalar {n : String} {c : Nat} {p : Transformation} {S : Scope} {g : Field} {s : Source} :
      arena.get? c = some S → g ∈ S.fields → Derives arena (.field g) s →
      Derives arena (.field (.scalar n c p)) s
  | constant {n : String} {p : Transformation} :
      Derives arena (.field (.constant n p)) { table := none, field := n, kind := .literal }
  | wildcard {n : String} {t : Option TableName} {p : Transformation} :
      Derives arena (.field (.wildcard n t p))
        { table := t, field := "*", kind := .unresolvedWildcard }
  | chosen {id : Nat} {name : String} {position : Option Nat} {S : Scope} {f : Field}
      {s : Source} :
      arena.get? id = some S → (chooseField S.fields name position).1 = some f →
      Derives arena (.field f) s → Derives arena (.named id name position) s
  | link {id : Nat} {name : String} {position : Option Nat} {S : Scope} {n : String}
      {ref : ColumnRef} {p : Transformation} {child : Nat} {s : Source} :
      arena.get? id = some S → (chooseField S.fields name position).1 = none →
      S.fields.filter Field.isStar = [.column n ref p] → ref.origin = .scope child →
      Derives arena (.named child name none) s → Derives arena (.named id name position) s
  | star {id : Nat} {name : String} {position : Option Nat} {S : Scope} {star : Field}
      {s : Source} :
      arena.get? id = some S → (chooseField S.fields name position).1 = none →
      S.fields.filter Field.isStar = [star] →
      (∀ n ref p, star = .column n ref p → ∀ child, ref.origin ≠ .scope child) →
      s ∈ starSource star name → Derives arena (.named id name position) s
  | missing {id : Nat} {name : String} {position : Option Nat} {S : Scope} :
      arena.get? id = some S → (chooseField S.fields name position).1 = none →
      S.fields.filter Field.isStar = [] →
      Derives arena (.named id name position) { table := none, field := name, kind := .unresolved }
  | several {id : Nat} {name : String} {position : Option Nat} {S : Scope} :
      arena.get? id = some S → (chooseField S.fields name position).1 = none →
      2 ≤ (S.fields.filter Field.isStar).length →
      Derives arena (.named id name position) { table := none, field := name, kind := .ambiguous }

/-! ### Choosing the field a name designates -/

/-- The field at the place a name gives is chosen when it has the name. -/
theorem chooseField_at {fs : List Field} {name : String} {p : Nat} {g : Field}
    (hg : fs[p]? = some g) (hname : g.name = name) :
    (chooseField fs name (some p)).1 = some g := by
  simp [chooseField, hg, Option.filter_some, hname]

/-- A name that designates no field is the name of no output. -/
theorem chooseField_none {fs : List Field} {name : String} {position : Option Nat}
    (h : (chooseField fs name position).1 = none) : ∀ g ∈ fs, g.name ≠ name := by
  intro g hg hname
  unfold chooseField at h
  dsimp only at h
  split at h
  · cases h
  · have hnil : (fs.filter (·.name == name)).head? = none := by
      simp only [Option.orElse_eq_orElse, Option.orElse_eq_or, Option.or_eq_none_iff] at h
      exact h.1
    rw [List.head?_eq_none_iff, List.filter_eq_nil_iff] at hnil
    exact hnil g hg (by simp [hname])

/-- Sources in the union of two sets are in one of them. -/
theorem SourceSet.mem_of_mem_union {s : Source} {a b : SourceSet} (h : s ∈ SourceSet.union a b) :
    s ∈ a ∨ s ∈ b := by
  fun_induction SourceSet.union a b with
  | case1 ys => exact .inr h
  | case2 x xs => exact .inl h
  | case3 x xs y ys _ ih =>
    rcases List.mem_cons.mp h with rfl | h
    · exact .inl List.mem_cons_self
    · rcases ih h with h | h
      · exact .inl (List.mem_cons_of_mem _ h)
      · exact .inr h
  | case4 x xs y ys _ ih =>
    rcases List.mem_cons.mp h with rfl | h
    · exact .inr List.mem_cons_self
    · rcases ih h with h | h
      · exact .inl h
      · exact .inr (List.mem_cons_of_mem _ h)
  | case5 x xs y ys _ ih =>
    rcases List.mem_cons.mp h with rfl | h
    · exact .inl List.mem_cons_self
    · rcases ih h with h | h
      · exact .inl (List.mem_cons_of_mem _ h)
      · exact .inr (List.mem_cons_of_mem _ h)

theorem SourceKind.rank_injective : Function.Injective SourceKind.rank := by
  intro a b h
  cases a <;> cases b <;> first | rfl | cases h

theorem TableName.eq_of_cmp_eq {a b : TableName} (h : a.cmp b = .eq) : a = b := by
  obtain ⟨da, na⟩ := a
  obtain ⟨db, nb⟩ := b
  simp only [TableName.cmp, Ordering.then_eq_eq] at h
  rw [Std.LawfulEqOrd.eq_of_compare h.1, Std.LawfulEqOrd.eq_of_compare h.2]

/-- Sources the order puts at one place are the same source. -/
theorem Source.eq_of_cmp_eq {a b : Source} (h : a.cmp b = .eq) : a = b := by
  obtain ⟨ta, fa, ka⟩ := a
  obtain ⟨tb, fb, kb⟩ := b
  simp only [Source.cmp, Ordering.then_eq_eq] at h
  obtain ⟨⟨ht, hf⟩, hk⟩ := h
  rw [Std.LawfulEqOrd.eq_of_compare hf, SourceKind.rank_injective (Nat.compare_eq_eq.mp hk)]
  cases ta <;> cases tb <;> simp only [reduceCtorEq] at ht
  · rfl
  · rw [TableName.eq_of_cmp_eq ht]

/-- The union keeps every source of either set. -/
theorem SourceSet.mem_union_of_mem {s : Source} {a b : SourceSet} (h : s ∈ a ∨ s ∈ b) :
    s ∈ SourceSet.union a b := by
  fun_induction SourceSet.union a b with
  | case1 ys => simpa using h
  | case2 x xs => simpa using h
  | case3 x xs y ys _ ih =>
    rcases h with h | h
    · rcases List.mem_cons.mp h with rfl | h
      · exact List.mem_cons_self
      · exact List.mem_cons_of_mem _ (ih (.inl h))
    · exact List.mem_cons_of_mem _ (ih (.inr h))
  | case4 x xs y ys _ ih =>
    rcases h with h | h
    · exact List.mem_cons_of_mem _ (ih (.inl h))
    · rcases List.mem_cons.mp h with rfl | h
      · exact List.mem_cons_self
      · exact List.mem_cons_of_mem _ (ih (.inr h))
  | case5 x xs y ys heq ih =>
    -- a source in both is kept once, as the first set has it
    obtain rfl := Source.eq_of_cmp_eq heq
    rcases h with h | h <;> rcases List.mem_cons.mp h with rfl | h
    · exact List.mem_cons_self
    · exact List.mem_cons_of_mem _ (ih (.inl h))
    · exact List.mem_cons_self
    · exact List.mem_cons_of_mem _ (ih (.inr h))

theorem SourceSet.union_nil (a : SourceSet) : SourceSet.union a [] = a := by
  cases a <;> rw [SourceSet.union]

theorem SourceSet.mem_union {s : Source} {a b : SourceSet} :
    s ∈ SourceSet.union a b ↔ s ∈ a ∨ s ∈ b :=
  ⟨SourceSet.mem_of_mem_union, SourceSet.mem_union_of_mem⟩

/-! ### The walk gives derived sources -/

section Walk

variable {arena : ScopeArena} {maxDepth : Nat}

variable (arena) in
/-- Every entry of the table of found names derives for its name. -/
def Stored (σ : ResolverState) : Prop :=
  ∀ e ∈ σ.found, ∀ s ∈ e.2, Derives arena (.named e.1.1 e.1.2.1 e.1.2.2) s

variable (arena) in
/-- From a state whose table is stored, a run of `x` that succeeds keeps the
table stored and gives sources that satisfy `P`. -/
def Gives (P : Source → Prop) (x : Resolve SourceSet) : Prop :=
  ∀ σ r σ', Stored arena σ → x.run.run σ = (.ok r, σ') → Stored arena σ' ∧ ∀ s ∈ r, P s

theorem Gives.pure {P : Source → Prop} {r : SourceSet} (h : ∀ s ∈ r, P s) :
    Gives arena P (Pure.pure r) := by
  intro σ r' σ' hσ hr
  cases hr
  exact ⟨hσ, h⟩

theorem Gives.single {P : Source → Prop} {s : Source} (h : P s) : Gives arena P (Pure.pure [s]) :=
  Gives.pure fun _ hs => List.mem_singleton.mp hs ▸ h

theorem Gives.throw {P : Source → Prop} (e : LineageError) : Gives arena P (MonadExcept.throw e) := by
  intro σ r σ' _ hr
  cases hr

theorem Gives.mono {P Q : Source → Prop} {x : Resolve SourceSet} (h : Gives arena P x)
    (hPQ : ∀ {s}, P s → Q s) : Gives arena Q x := by
  intro σ r σ' hσ hr
  obtain ⟨hσ', hP⟩ := h σ r σ' hσ hr
  exact ⟨hσ', fun s hs => hPQ (hP s hs)⟩

/-- The warning of a duplicate name leaves the table alone. -/
theorem Gives.duplicate_bind {P : Source → Prop} {c : Prop} [Decidable c] (column : String)
    (scope : Nat) {k : Resolve SourceSet} (hk : Gives arena P k) :
    Gives arena P (if c then duplicateOutput column scope >>= fun _ => k else k) := by
  by_cases hc : c
  · intro σ r σ' hσ hr
    simp only [hc, if_true, duplicateOutput] at hr
    rw [run_bind_of_ok (run_modify _ σ)] at hr
    refine hk _ r σ' ?_ hr
    split <;> exact hσ
  · simp only [hc, if_false]
    exact hk

mutual

theorem field_derives (d : Nat) (f : Field) :
    Gives arena (Derives arena (.field f)) (field arena maxDepth d f) := by
  match f with
  | .column n ref p =>
    rcases ho : ref.origin with _ | t | child | labels | _ <;> simp only [field, ho]
    case pending => exact Gives.single (.pending ho)
    case table => exact Gives.single (.table ho)
    case scope => exact (named_derives (d + 1) child ref.column ref.position).mono (.scope ho)
    case ambiguous => exact Gives.single (.ambiguous ho)
    case unbound => exact Gives.single (.unbound ho)
  | .derived n deps p =>
    simp only [field]
    exact (fields_derives d deps).mono fun ⟨_, hg, hs⟩ => .derived hg hs
  | .scalar n child p =>
    simp only [field]
    by_cases hlim : maxDepth < d + 1
    · rw [dif_pos hlim]
      exact Gives.throw _
    · rw [dif_neg hlim]
      cases hS : arena.get? child with
      | none => exact Gives.throw _
      | some S =>
        simp only [fieldsDeeper]
        exact (fields_derives (d + 1) S.fields).mono fun ⟨_, hg, hs⟩ => .scalar hS hg hs
  | .constant n p =>
    simp only [field]
    exact Gives.single .constant
  | .wildcard n t p =>
    simp only [field]
    exact Gives.single .wildcard
termination_by (maxDepth + 1 - d, sizeOf f, 1)
decreasing_by
  all_goals (simp only [Prod.lex_def, Field.column.sizeOf_spec, Field.derived.sizeOf_spec,
    true_and]; omega)

theorem fields_derives (d : Nat) (fs : List Field) :
    Gives arena (fun s => ∃ g ∈ fs, Derives arena (.field g) s) (fields arena maxDepth d fs) := by
  match fs with
  | [] =>
    simp only [fields]
    exact Gives.pure fun s hs => absurd hs List.not_mem_nil
  | f :: rest =>
    intro σ r σ' hσ hr
    simp only [fields] at hr
    obtain ⟨a, σ₁, h₁, hr⟩ := run_bind_ok hr
    obtain ⟨b, σ₂, h₂, hr⟩ := run_bind_ok hr
    obtain ⟨hσ₁, ha⟩ := field_derives d f σ a σ₁ hσ h₁
    obtain ⟨hσ₂, hb⟩ := fields_derives d rest σ₁ b σ₂ hσ₁ h₂
    cases hr
    refine ⟨hσ₂, fun s hs => ?_⟩
    -- a source of the union comes from the head or from the rest
    rcases SourceSet.mem_of_mem_union hs with hs | hs
    · exact ⟨f, List.mem_cons_self, ha s hs⟩
    · obtain ⟨g, hg, hgs⟩ := hb s hs
      exact ⟨g, List.mem_cons_of_mem _ hg, hgs⟩
termination_by (maxDepth + 1 - d, sizeOf fs, 1)
decreasing_by all_goals (simp only [Prod.lex_def, List.cons.sizeOf_spec, true_and]; omega)

theorem named_derives (d id : Nat) (name : String) (position : Option Nat) :
    Gives arena (Derives arena (.named id name position))
      (named arena maxDepth d id name position) := by
  intro σ r σ' hσ hr
  simp only [named] at hr
  rw [run_bind_of_ok (run_get σ)] at hr
  cases hfound : σ.found.lookup (id, name, position) with
  | some sources =>
    -- a hit: the stored sources derive for the name
    rw [hfound] at hr
    cases hr
    obtain ⟨l₁, l₂, hl, -⟩ := List.lookup_eq_some_iff.mp hfound
    have hmem : ((id, name, position), r) ∈ σ.found := by
      rw [hl]
      exact List.mem_append_right _ List.mem_cons_self
    exact ⟨hσ, hσ _ hmem⟩
  | none =>
    rw [hfound] at hr
    dsimp only at hr
    by_cases hlim : maxDepth < d
    · rw [dif_pos hlim] at hr
      cases hr
    · rw [dif_neg hlim] at hr
      obtain ⟨sources, σ₁, h₁, hr⟩ := run_bind_ok hr
      obtain ⟨hσ₁, hsources⟩ := lookup_derives d id name position hlim σ sources σ₁ hσ h₁
      rw [run_bind_of_ok (run_modify _ σ₁)] at hr
      cases hr
      -- a miss: the new entry is what the lookup found
      refine ⟨?_, hsources⟩
      rintro e (_ | ⟨_, he⟩)
      · exact hsources
      · exact hσ₁ e he
termination_by (maxDepth + 2 - d, 0, 1)
decreasing_by all_goals (simp only [Prod.lex_def, true_and]; omega)

theorem lookup_derives (d id : Nat) (name : String) (position : Option Nat)
    (h : ¬ maxDepth < d) :
    Gives arena (Derives arena (.named id name position))
      (lookup arena maxDepth d id name position h) := by
  simp only [lookup]
  cases hS : arena.get? id with
  | none => exact Gives.throw _
  | some S =>
    refine Gives.duplicate_bind name id ?_
    cases hc : (chooseField S.fields name position).1 with
    | some f => exact (field_derives d f).mono (.chosen hS hc)
    | none =>
      match hstars : S.fields.filter Field.isStar with
      | [] => exact Gives.single (.missing hS hc hstars)
      | [star] =>
        have hthrough : ∀ (hlink : ∀ n ref p, star = .column n ref p → ∀ child,
            ref.origin ≠ .scope child), Gives arena (Derives arena (.named id name position))
              (Pure.pure (starSource star name)) := fun hlink =>
          Gives.pure fun s hs => .star hS hc hstars hlink hs
        match star with
        | .column _ { origin := .scope child, .. } _ =>
          exact (named_derives (d + 1) child name none).mono (.link hS hc hstars rfl)
        | .column _ { origin := .table _, .. } _ | .column _ { origin := .pending, .. } _
        | .column _ { origin := .ambiguous _, .. } _ | .column _ { origin := .unbound, .. } _ =>
          exact hthrough (by rintro _ _ _ ⟨⟩ _ ⟨⟩)
        | .derived .. | .scalar .. | .constant .. | .wildcard .. =>
          exact hthrough (by rintro _ _ _ ⟨⟩)
      | _ :: _ :: _ => exact Gives.single (.several hS hc (by simp [hstars]))
termination_by (maxDepth + 2 - d, 0, 0)
decreasing_by all_goals (simp only [Prod.lex_def]; omega)

end

/-- The walk from the top gives a field only sources that derive for it. -/
theorem sourcesOf_derives (f : Field) :
    Gives arena (Derives arena (.field f)) (sourcesOf arena maxDepth f) :=
  field_derives 0 f

/-- **The lineage of outputs has derived sources.** Following named outputs
in turn, every entry found has only sources that derive for its output. -/
theorem resolveOutputs_derive (table : Option TableName) :
    ∀ (outs : List (Field × String)) σ r σ', Stored arena σ →
      (resolveOutputs arena maxDepth table outs).run.run σ = (.ok r, σ') →
      ∀ e ∈ r.1, ∃ o ∈ outs, ∀ s ∈ e.sources, Derives arena (.field o.1) s
  | [], σ, r, σ', _, hr => by
    simp only [resolveOutputs] at hr
    cases hr
    intro e he
    cases he
  | (f, name) :: rest, σ, r, σ', hσ, hr => by
    simp only [resolveOutputs] at hr
    rw [run_bind_of_ok (run_catch _ _)] at hr
    rcases hf : (sourcesOf arena maxDepth f).run.run σ with ⟨_ | sources, σ₁⟩ <;>
      rw [hf] at hr <;> dsimp only at hr
    · -- the output failed: nothing more is found
      cases hr
      intro e he
      cases he
    · obtain ⟨hσ₁, hsources⟩ := sourcesOf_derives f σ sources σ₁ hσ hf
      obtain ⟨more, σ₂, hmore, hr⟩ := run_bind_ok hr
      have hrest := resolveOutputs_derive table rest σ₁ more σ₂ hσ₁ hmore
      cases hr
      intro e he
      rcases List.mem_cons.mp he with rfl | he
      · exact ⟨(f, name), List.mem_cons_self, hsources⟩
      · obtain ⟨o, ho, hos⟩ := hrest e he
        exact ⟨o, List.mem_cons_of_mem _ ho, hos⟩

end Walk

end ColumnLineage.Resolve
