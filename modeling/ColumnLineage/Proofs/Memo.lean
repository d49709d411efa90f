import ColumnLineage.Proofs.Evaluate
/-
ColumnLineage/Proofs/Memo.lean

What the table of found names does to the walk to sources. `Resolve.named`
hands back the sources stored for a name of a scope instead of looking the
name up again. The key of the table is the scope, the name and the place,
not the depth at which the sources were found, so a name stored at a small
depth is handed back even where a fresh lookup would go past the limit.

Main statement (`sourcesOfEach_eq_fresh`): over any arena and any list of
fields read in turn, the memoising walk gives the outcome of every field and
the warnings of the fresh walk (`Resolve.Fresh`) whenever the fresh walk
stops at the limit for none of them. The comparison carries an invariant:
both walks hold the same warnings, and every entry of the table is what a
fresh lookup of its name gives, from any depth and from any state that holds
those warnings, unless that lookup stops at the limit (`Agrees`).

Where the fresh walk does stop at the limit, the table can hide it
(`memo_hides_depth_limit`): a chain of two WITH names read once from the
top and once from a scalar subquery fits the limit of 2 only through the
table.
-/

namespace ColumnLineage.Resolve

open Run

section

variable (arena : ScopeArena) (maxDepth : Nat)

/-- An entry of the table is sound for the warnings `W` when a fresh lookup of
its name, at any depth and from any state holding `W`, gives its sources and
changes nothing, or else stops at the depth limit. -/
def SoundEntry (W : List LineageError) (entry : (Nat × String × Option Nat) × SourceSet) :
    Prop :=
  ∀ d τ, W ⊆ τ.warnings →
    (Fresh.named arena maxDepth d entry.1.1 entry.1.2.1 entry.1.2.2).run.run τ =
        (.ok entry.2, τ) ∨
      ((Fresh.named arena maxDepth d entry.1.1 entry.1.2.1 entry.1.2.2).run.run τ).1 =
        .error (.depthExceeded maxDepth)

/-- The state `σ` of the memoising walk agrees with the state `τ` of the
fresh walk: the same warnings, and a table of sound entries. -/
structure Agrees (σ τ : ResolverState) : Prop where
  warnings : σ.warnings = τ.warnings
  sound : ∀ e ∈ σ.found, SoundEntry arena maxDepth σ.warnings e

/-- The memoising step `x` tracks the fresh step `y`: from agreeing states,
whenever `y` does not stop at the limit, `x` gives the answer of `y` and the
states after agree again. -/
def Tracks {α : Type} (x y : Resolve α) : Prop :=
  ∀ σ τ r τ', Agrees arena maxDepth σ τ → y.run.run τ = (r, τ') →
    r ≠ .error (.depthExceeded maxDepth) →
    ∃ σ', x.run.run σ = (r, σ') ∧ Agrees arena maxDepth σ' τ'

end

variable {arena : ScopeArena} {maxDepth : Nat}

/-! ### Sound entries -/

theorem SoundEntry.mono {W W' : List LineageError} (hW : W ⊆ W') {e}
    (h : SoundEntry arena maxDepth W e) : SoundEntry arena maxDepth W' e :=
  fun d τ hτ => h d τ (List.Subset.trans hW hτ)

/-- **A fresh lookup makes a sound entry.** What a lookup found at one depth is
what it finds at every depth where it does not stop at the limit, and what it
finds again, unchanged, once its warnings are there. -/
theorem soundEntry_of_fresh (d : Nat) {id : Nat} {name : String} {position : Option Nat}
    {sources : SourceSet} {τ τ' : ResolverState}
    (h : (Fresh.named arena maxDepth d id name position).run.run τ = (.ok sources, τ')) :
    SoundEntry arena maxDepth τ'.warnings ((id, name, position), sources) := by
  intro d' τ'' hw
  have again := (Fresh.named_settled d id name position τ _ _ h).2 τ'' hw
  by_cases hd : d' ≤ d
  · exact .inl (Fresh.named_shallower hd id name position τ'' _ _ again (by simp))
  · rcases hrun : (Fresh.named arena maxDepth d' id name position).run.run τ'' with ⟨r, τ₃⟩
    by_cases hr : r = .error (.depthExceeded maxDepth)
    · exact .inr (by simp [hr])
    · -- below the limit, the deeper lookup answers as the shallower one did
      have back := Fresh.named_shallower (by omega : d ≤ d') id name position τ'' r τ₃ hrun hr
      rw [again] at back
      obtain ⟨rfl, rfl⟩ := Prod.mk.inj back
      exact .inl rfl

theorem Agrees.grow {σ τ : ResolverState} (h : Agrees arena maxDepth σ τ)
    {W : List LineageError} (hW : σ.warnings ⊆ W) :
    Agrees arena maxDepth { σ with warnings := W } { τ with warnings := W } :=
  ⟨rfl, fun e he => (h.sound e he).mono hW⟩

/-! ### Tracking rules -/

section Rules

variable {α β : Type}

theorem Tracks.pure (a : α) : Tracks arena maxDepth (pure a) (pure a) := by
  intro σ τ r τ' hag hy _
  obtain ⟨rfl, rfl⟩ := Prod.mk.inj hy
  exact ⟨σ, rfl, hag⟩

theorem Tracks.throw (e : LineageError) :
    Tracks arena maxDepth (throw e : Resolve α) (throw e) := by
  intro σ τ r τ' hag hy _
  obtain ⟨rfl, rfl⟩ := Prod.mk.inj hy
  exact ⟨σ, rfl, hag⟩

theorem Tracks.bind {x y : Resolve α} {f g : α → Resolve β}
    (hx : Tracks arena maxDepth x y) (hf : ∀ a, Tracks arena maxDepth (f a) (g a)) :
    Tracks arena maxDepth (x >>= f) (y >>= g) := by
  intro σ τ r τ' hag hy hr
  rcases hyτ : y.run.run τ with ⟨_ | a, τ₁⟩
  · rename_i e
    rw [run_bind_of_error hyτ] at hy
    obtain ⟨rfl, rfl⟩ := Prod.mk.inj hy
    have he : (Except.error e : Except LineageError α) ≠ .error (.depthExceeded maxDepth) := by
      rintro ⟨⟩
      exact hr rfl
    obtain ⟨σ₁, hx₁, hag₁⟩ := hx σ τ _ _ hag hyτ he
    exact ⟨σ₁, run_bind_of_error hx₁, hag₁⟩
  · rw [run_bind_of_ok hyτ] at hy
    obtain ⟨σ₁, hx₁, hag₁⟩ := hx σ τ _ _ hag hyτ (by simp)
    obtain ⟨σ', hf₁, hag'⟩ := hf a σ₁ τ₁ r τ' hag₁ hy hr
    exact ⟨σ', by rw [run_bind_of_ok hx₁]; exact hf₁, hag'⟩

theorem Tracks.ite_bind {c : Prop} [Decidable c] {y : Resolve Unit} {k k' : Resolve α}
    (hy : Tracks arena maxDepth y y) (hk : Tracks arena maxDepth k k') :
    Tracks arena maxDepth (if c then y >>= fun _ => k else k)
      (if c then y >>= fun _ => k' else k') := by
  by_cases hc : c
  · simp only [hc, if_true]
    exact Tracks.bind hy fun _ => hk
  · simp only [hc, if_false]
    exact hk

/-- Both walks warn of a duplicate name in the same way, and the table does
not change. -/
theorem tracks_duplicateOutput (column : String) (scope : Nat) :
    Tracks arena maxDepth (duplicateOutput column scope) (duplicateOutput column scope) := by
  intro σ τ r τ' hag hy _
  simp only [duplicateOutput, run_modify] at hy ⊢
  obtain ⟨rfl, rfl⟩ := Prod.mk.inj hy
  refine ⟨_, rfl, ?_⟩
  have hw := hag.warnings
  by_cases hc : τ.warnings.contains (.duplicateOutput column scope) = true
  · simp only [hw, hc, if_true]
    exact hag
  · simp only [hw, hc, Bool.false_eq_true, if_false]
    exact hag.grow (by rw [hw]; exact List.subset_append_left _ _)

end Rules

/-! ### The walk tracks the fresh walk -/

/-- A name found in the table: the fresh lookup gives the stored sources. -/
theorem tracks_hit {d id : Nat} {name : String} {position : Option Nat} {sources : SourceSet}
    {σ τ : ResolverState} (hag : Agrees arena maxDepth σ τ)
    (hfound : σ.found.lookup (id, name, position) = some sources) {r τ'}
    (hy : (Fresh.named arena maxDepth d id name position).run.run τ = (r, τ'))
    (hr : r ≠ .error (.depthExceeded maxDepth)) : r = .ok sources ∧ τ' = τ := by
  obtain ⟨l₁, l₂, hl, -⟩ := List.lookup_eq_some_iff.mp hfound
  have hmem : ((id, name, position), sources) ∈ σ.found := by
    rw [hl]
    exact List.mem_append_right _ List.mem_cons_self
  rcases hag.sound _ hmem d τ (by rw [hag.warnings]; exact List.Subset.refl _) with hok | hdepth
  · rw [hy] at hok
    exact Prod.mk.inj hok
  · rw [hy] at hdepth
    exact absurd hdepth hr

mutual

theorem field_tracks (d : Nat) (f : Field) :
    Tracks arena maxDepth (field arena maxDepth d f) (Fresh.field arena maxDepth d f) := by
  match f with
  | .column n ref p =>
    rcases ho : ref.origin with _ | t | child | labels | _ <;>
      simp only [field, Fresh.field, ho]
    case scope => exact named_tracks (d + 1) child ref.column ref.position
    all_goals exact Tracks.pure _
  | .derived n deps p =>
    simp only [field, Fresh.field]
    exact fields_tracks d deps
  | .scalar n child p =>
    simp only [field, Fresh.field]
    by_cases hlim : maxDepth < d + 1
    · rw [dif_pos hlim, dif_pos hlim]
      exact Tracks.throw _
    · rw [dif_neg hlim, dif_neg hlim]
      cases arena.get? child with
      | none => exact Tracks.throw _
      | some s =>
        simp only [fieldsDeeper, Fresh.fieldsDeeper]
        exact fields_tracks (d + 1) s.fields
  | .constant n p =>
    simp only [field, Fresh.field]
    exact Tracks.pure _
  | .wildcard n t p =>
    simp only [field, Fresh.field]
    exact Tracks.pure _
termination_by (maxDepth + 1 - d, sizeOf f, 1)
decreasing_by
  all_goals (simp only [Prod.lex_def, Field.column.sizeOf_spec, Field.derived.sizeOf_spec,
    true_and]; omega)

theorem fields_tracks (d : Nat) (fs : List Field) :
    Tracks arena maxDepth (fields arena maxDepth d fs) (Fresh.fields arena maxDepth d fs) := by
  match fs with
  | [] =>
    simp only [fields, Fresh.fields]
    exact Tracks.pure _
  | f :: rest =>
    simp only [fields, Fresh.fields]
    exact Tracks.bind (field_tracks d f) fun a =>
      Tracks.bind (fields_tracks d rest) fun b => Tracks.pure _
termination_by (maxDepth + 1 - d, sizeOf fs, 1)
decreasing_by all_goals (simp only [Prod.lex_def, List.cons.sizeOf_spec, true_and]; omega)

theorem named_tracks (d id : Nat) (name : String) (position : Option Nat) :
    Tracks arena maxDepth (named arena maxDepth d id name position)
      (Fresh.named arena maxDepth d id name position) := by
  intro σ τ r τ' hag hy hr
  simp only [named]
  rw [run_bind_of_ok (run_get σ)]
  cases hfound : σ.found.lookup (id, name, position) with
  | some sources =>
    -- a hit: the fresh lookup finds the stored sources again
    obtain ⟨rfl, rfl⟩ := tracks_hit hag hfound hy hr
    exact ⟨σ, rfl, hag⟩
  | none =>
    simp only [Fresh.named] at hy
    by_cases hlim : maxDepth < d
    · rw [dif_pos hlim] at hy
      obtain ⟨rfl, rfl⟩ := Prod.mk.inj hy
      exact absurd rfl hr
    · rw [dif_neg hlim] at hy
      simp only [dif_neg hlim]
      obtain ⟨σ₁, hx₁, hag₁⟩ := lookup_tracks d id name position hlim σ τ r τ' hag hy hr
      rcases r with e | sources
      · exact ⟨σ₁, run_bind_of_error hx₁, hag₁⟩
      · -- a miss: the new entry is what the fresh lookup found
        have hnew : SoundEntry arena maxDepth σ₁.warnings ((id, name, position), sources) := by
          rw [hag₁.warnings]
          exact soundEntry_of_fresh d (by simp only [Fresh.named, dif_neg hlim]; exact hy)
        refine ⟨{ σ₁ with found := ((id, name, position), sources) :: σ₁.found },
          by rw [run_bind_of_ok hx₁]; rfl, hag₁.warnings, ?_⟩
        rintro e (_ | ⟨_, he⟩)
        · exact hnew
        · exact hag₁.sound e he
termination_by (maxDepth + 2 - d, 0, 1)
decreasing_by all_goals (simp only [Prod.lex_def, true_and]; omega)

theorem lookup_tracks (d id : Nat) (name : String) (position : Option Nat)
    (h : ¬ maxDepth < d) :
    Tracks arena maxDepth (lookup arena maxDepth d id name position h)
      (Fresh.lookup arena maxDepth d id name position h) := by
  simp only [lookup, Fresh.lookup]
  cases arena.get? id with
  | none => exact Tracks.throw _
  | some s =>
    refine Tracks.ite_bind (tracks_duplicateOutput name id) ?_
    cases (chooseField s.fields name position).1 with
    | some f => exact field_tracks d f
    | none =>
      match s.fields.filter Field.isStar with
      | [] => exact Tracks.pure _
      | [star] =>
        match star with
        | .column _ { origin := .scope child, .. } _ =>
          exact named_tracks (d + 1) child name none
        | .column _ { origin := .table _, .. } _ | .column _ { origin := .pending, .. } _
        | .column _ { origin := .ambiguous _, .. } _ | .column _ { origin := .unbound, .. } _
        | .derived .. | .scalar .. | .constant .. | .wildcard .. => exact Tracks.pure _
      | _ :: _ :: _ => exact Tracks.pure _
termination_by (maxDepth + 2 - d, 0, 0)
decreasing_by all_goals (simp only [Prod.lex_def]; omega)

end

/-! ### Fields read in turn -/

/-- Fields read in turn with one memoising walk give the outcomes of the fresh
walk, as long as none of those is a stop at the limit. -/
theorem each_tracks (fs : List Field) {σ τ τ' : ResolverState}
    {outcomes : List (Except LineageError SourceSet)} (hag : Agrees arena maxDepth σ τ)
    (hy : (fs.mapM fun f => tryCatch (Except.ok <$> Fresh.field arena maxDepth 0 f)
      (fun e => pure (Except.error e))).run.run τ = (.ok outcomes, τ'))
    (hlim : .error (.depthExceeded maxDepth) ∉ outcomes) :
    ∃ σ', (fs.mapM fun f => tryCatch (Except.ok <$> sourcesOf arena maxDepth f)
      (fun e => pure (Except.error e))).run.run σ = (.ok outcomes, σ') ∧
      Agrees arena maxDepth σ' τ' := by
  induction fs generalizing σ τ outcomes with
  | nil =>
    rw [List.mapM_nil, run_pure] at hy
    obtain ⟨hout, rfl⟩ := Prod.mk.inj hy
    cases hout
    exact ⟨σ, rfl, hag⟩
  | cons f rest ih =>
    rw [List.mapM_cons, run_bind_of_ok (run_catch _ _)] at hy
    obtain ⟨more, τ₂, hrest, hy'⟩ := run_bind_ok hy
    obtain ⟨hout, rfl⟩ := Prod.mk.inj hy'
    cases hout
    -- the head field: its fresh outcome is no stop at the limit
    rcases hfresh : (Fresh.field arena maxDepth 0 f).run.run τ with ⟨r, τ₁⟩
    rw [hfresh] at hrest
    have hr : r ≠ .error (.depthExceeded maxDepth) := fun he =>
      hlim (he ▸ hfresh ▸ List.mem_cons_self)
    obtain ⟨σ₁, hmemo, hag₁⟩ := field_tracks 0 f σ τ r τ₁ hag hfresh hr
    obtain ⟨σ₂, hmemo', hag₂⟩ :=
      ih hag₁ hrest fun hin => hlim (List.mem_cons_of_mem _ hin)
    refine ⟨σ₂, ?_, hag₂⟩
    have hhead : (sourcesOf arena maxDepth f).run.run σ = (r, σ₁) := hmemo
    rw [List.mapM_cons, run_bind_of_ok (run_catch _ _), hhead, run_bind_of_ok hmemo']
    rfl

/-- **Memoisation below the limit.** For every arena, every depth limit and
every list of fields read in turn by one walk, the walk with its table of
found names gives each field the outcome of the walk without it, and ends
with the same warnings, whenever the walk without the table stops at the
depth limit for none of the fields. -/
theorem sourcesOfEach_eq_fresh (arena : ScopeArena) (maxDepth : Nat) (fs : List Field)
    (hlim : .error (.depthExceeded maxDepth) ∉ (Fresh.sourcesOfEach arena maxDepth fs).1) :
    sourcesOfEach arena maxDepth fs = Fresh.sourcesOfEach arena maxDepth fs := by
  obtain ⟨outcomes, τ', hy⟩ := run_mapM_catch (Fresh.field arena maxDepth 0) fs {}
  have hempty : Agrees arena maxDepth {} {} := ⟨rfl, fun _ he => absurd he List.not_mem_nil⟩
  simp only [Fresh.sourcesOfEach, hy] at hlim ⊢
  obtain ⟨σ', hmemo, hag⟩ := each_tracks fs hempty hy hlim
  simp only [sourcesOfEach, hmemo, hag.warnings]

/-! ### Where the table hides the limit -/

/-- `WITH c AS (SELECT a FROM t), d AS (SELECT a FROM c)
SELECT a, (SELECT a FROM d) AS s FROM d`: the column `a` of `d` is read from
the top and again from a scalar subquery, one level deeper. -/
def chainedWith : Sql.Statement :=
  let column (n : String) : Sql.SelectItem := .expr (.identifier { value := n }) none
  let selectFrom (items : List Sql.SelectItem) (t : String) : Sql.Query :=
    .mk none [] (.select (.mk "" items "" [.mk (.table [{ value := t }] "" none "") []]
      "" none "" none "")) ""
  .query (.mk (some false)
    [.mk { name := { value := "c" } } (selectFrom [column "a"] "t") none none,
     .mk { name := { value := "d" } } (selectFrom [column "a"] "c") none none]
    (.select (.mk "" [column "a", .expr (.subquery (selectFrom [column "a"] "d"))
      (some { value := "s" })] "" [.mk (.table [{ value := "d" }] "" none "") []]
      "" none "" none "")) "")

/-- With the limit 3 the fresh walk fits, and both walks agree. -/
theorem chainedWith_agrees_within_three :
    sourcesOfEach (Bounded.rootOutputs {} 3 chainedWith).1 3 (Bounded.rootOutputs {} 3 chainedWith).2 =
      Fresh.sourcesOfEach (Bounded.rootOutputs {} 3 chainedWith).1 3
        (Bounded.rootOutputs {} 3 chainedWith).2 := by
  have hfresh : Fresh.sourcesOfEach (Bounded.rootOutputs {} 3 chainedWith).1 3
      (Bounded.rootOutputs {} 3 chainedWith).2 =
        ([.ok [{ table := some { database := none, name := "t" }, field := "a" }],
          .ok [{ table := some { database := none, name := "t" }, field := "a" }]], []) :=
    Bounded.fresh_sourcesOfEach_of_bounded 16 (by decide +kernel)
  exact sourcesOfEach_eq_fresh _ 3 _ (by rw [hfresh]; decide)

/-- With the limit 2 the walk of `chainedWith` succeeds, the fresh walk
stops at the limit on the scalar subquery, and the memoising walk, having
stored the sources of `a` of `d` from the top, hands them back there. -/
theorem memo_hides_depth_limit :
    ((Detector.new {} 2).detect chainedWith).1 = .ok () ∧
    sourcesOfEach (Bounded.rootOutputs {} 2 chainedWith).1 2 (Bounded.rootOutputs {} 2 chainedWith).2 =
      ([.ok [{ table := some { database := none, name := "t" }, field := "a" }],
        .ok [{ table := some { database := none, name := "t" }, field := "a" }]], []) ∧
    Fresh.sourcesOfEach (Bounded.rootOutputs {} 2 chainedWith).1 2
        (Bounded.rootOutputs {} 2 chainedWith).2 =
      ([.ok [{ table := some { database := none, name := "t" }, field := "a" }],
        .error (.depthExceeded 2)], []) :=
  ⟨by decide +kernel, Bounded.sourcesOfEach_of_bounded 16 (by decide +kernel),
    Bounded.fresh_sourcesOfEach_of_bounded 16 (by decide +kernel)⟩

end ColumnLineage.Resolve
