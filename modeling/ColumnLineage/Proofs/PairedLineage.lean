import ColumnLineage.Proofs.PairedWalk
import ColumnLineage.Proofs.ResolveRenaming
/-
ColumnLineage/Proofs/PairedLineage.lean

From two walks in step to the same lineage. Where two statements were walked
into arenas whose matched scopes agree, and their outermost scopes are
matched, following the outputs of the one gives the sources that following
the outputs of the other gives, output for output (`lineage_of_matched`).

The analysis of a statement is taken apart once (`analyzeStatement_ok`,
`analyzeStatement_of_ok`): a statement reports no error exactly when its walk
succeeds, its target names fit, and every output is followed to its sources;
its lineage is then what following the outputs in turn gives. The outputs are
followed in turn with one table of found names (`resolveOutputs_of_steps`):
two such runs give the same lineage when each step of the second answers as
the step of the first from states related as the steps go.
-/

namespace ColumnLineage

open Run Detect Resolve

section Matched

variable {ρ : Renaming}

mutual

/-- A scope an agreeing field reads by name is matched. -/
theorem FieldAgree.reads_matched {named : Bool} : ∀ {f f' : Field}, FieldAgree ρ named f f' →
    ∀ {k}, f.ReadsScope k → ∃ k', ρ.map k = some k'
  | .column _ r _, .column _ r' _, h, k, hk => by
    have ho := h.2.1.origin
    simp only [Field.ReadsScope] at hk
    rw [hk] at ho
    cases hr' : r'.origin <;> simp only [hr', OriginRel] at ho
    exact ⟨_, ho⟩
  | .derived _ _ _, .derived _ _ _, h, _, hk => FieldsRel.reads_matched h.2.1 hk
  | .scalar .., .scalar .., _, _, hk => hk.elim
  | .constant .., _, _, _, hk => hk.elim
  | .wildcard .., _, _, _, hk => hk.elim

theorem FieldsRel.reads_matched : ∀ {fs fs' : List Field}, FieldsRel ρ fs fs' → ∀ {k},
    Field.ListReadsScope fs k → ∃ k', ρ.map k = some k'
  | _ :: _, _ :: _, h, _, hk => hk.elim (FieldAgree.reads_matched h.1) (FieldsRel.reads_matched h.2)

end

variable {A A' : ScopeArena}

theorem ScopesRel.outputs (h : ScopesRel ρ A A') : OutputsRel ρ A A' := by
  intro i j hij
  obtain ⟨S, S', hS, hS', hr⟩ := h hij
  rw [hS, hS']
  exact .some hr.fields

/-- The scopes that matched scopes with agreeing outputs read by name are
matched, and are among those that some scope reads. -/
theorem OutputsRel.readsWithin (h : OutputsRel ρ A A') {Q : Nat → Prop}
    (hQ : ∀ {k}, A.Reads k → Q k) :
    ReadsWithin ρ (fun k => (∃ k', ρ.map k = some k') ∧ Q k) A := by
  intro i j S hij hS k hk
  have hrel := h hij
  rw [hS] at hrel
  generalize A'.get? j = o at hrel
  cases hrel with
  | some hfs =>
    exact ⟨FieldsRel.reads_matched (fieldsRel_iff.mpr (hfs.imp fun _ _ hf => hf.input)) hk,
      hQ ⟨i, S, hS, hk⟩⟩

theorem ScopesRel.readsWithin (h : ScopesRel ρ A A') {Q : Nat → Prop}
    (hQ : ∀ {k}, A.Reads k → Q k) :
    ReadsWithin ρ (fun k => (∃ k', ρ.map k = some k') ∧ Q k) A :=
  OutputsRel.readsWithin (ScopesRel.outputs h) hQ

/-- Agreeing outputs have the same names, in order. -/
theorem FieldRel.map_name_eq {fs fs' : List Field} (h : List.Forall₂ (FieldRel ρ) fs fs') :
    fs'.map Field.name = fs.map Field.name := by
  induction h with
  | nil => rfl
  | cons hf _ ih => rw [List.map_cons, List.map_cons, hf.name_eq, ih]

/-- Agreeing outputs are given the same target names. -/
theorem targetNames_rel {fs fs' : List Field} (h : List.Forall₂ (FieldRel ρ) fs fs')
    (t : Option Target) : targetNames fs' t = targetNames fs t := by
  unfold targetNames
  rw [FieldRel.map_name_eq h, h.length_eq]

end Matched

/-- Two related lists, each paired with the same names, stay related: the
names agree and the paired elements are related. -/
theorem Forall₂.zip_names {α β : Type} {R : α → β → Prop} {l : List α} {l' : List β}
    (h : List.Forall₂ R l l') (names : List String) :
    List.Forall₂ (fun a b => b.2 = a.2 ∧ R a.1 b.1) (l.zip names) (l'.zip names) := by
  induction h generalizing names with
  | nil => exact .nil
  | cons hr _ ih =>
    cases names with
    | nil => exact .nil
    | cons name names => exact .cons ⟨rfl, hr⟩ (ih names)

/-- Related lists are related at every place. -/
theorem Forall₂.rel_of_getElem? {α β : Type} {R : α → β → Prop} {l : List α} {l' : List β}
    (h : List.Forall₂ R l l') {i : Nat} {a : α} {b : β} (ha : l[i]? = some a)
    (hb : l'[i]? = some b) : R a b := by
  induction h generalizing i with
  | nil => cases ha
  | cons hr _ ih =>
    cases i with
    | zero =>
      cases ha
      cases hb
      exact hr
    | succ i => exact ih ha hb

/-! ### Outputs followed in turn -/

theorem run_resolveOutputs_cons (A : ScopeArena) (m : Nat) (t : Option TableName) (f : Field)
    (name : String) (rest : List (Field × String)) (σ : ResolverState) :
    (resolveOutputs A m t ((f, name) :: rest)).run.run σ =
      match (sourcesOf A m f).run.run σ with
      | (.ok sources, σ₁) =>
        match (resolveOutputs A m t rest).run.run σ₁ with
        | (.ok (more, err), σ₂) =>
          (.ok ({ target := { table := t, field := name }, sources, transformation := f.process } ::
            more, err), σ₂)
        | (.error e, σ₂) => (.error e, σ₂)
      | (.error e, σ₁) => (.ok ([], some e), σ₁) := by
  rw [resolveOutputs, Run.run_bind, run_catch]
  rcases (sourcesOf A m f).run.run σ with ⟨_ | sources, σ₁⟩
  · rfl
  · dsimp only
    rw [Run.run_bind]
    rcases (resolveOutputs A m t rest).run.run σ₁ with ⟨_ | ⟨more, err⟩, σ₂⟩ <;> rfl

/-- **Outputs followed in turn.** Two lists of named outputs with the same
names, where each output of the second is followed to the sources of the
output at its place in the first, from states related by `I` at that place,
and transforms as `g` makes of the transformation of the first: when the
first finds the sources of every output, so does the second, with the same
lineage up to `g`. -/
theorem resolveOutputs_of_steps {A A' : ScopeArena} {m m' : Nat} {t : Option TableName}
    {I : Nat → ResolverState → ResolverState → Prop} (g : Transformation → Transformation) :
    ∀ (k : Nat) {xs ys : List (Field × String)},
      List.Forall₂ (fun a b => b.2 = a.2 ∧ b.1.process = g a.1.process) xs ys →
      (∀ i a b, xs[i]? = some a → ys[i]? = some b → ∀ σ σ' r σ₁, I (k + i) σ σ' →
        (sourcesOf A m a.1).run.run σ = (.ok r, σ₁) →
        ∃ σ₁', (sourcesOf A' m' b.1).run.run σ' = (.ok r, σ₁') ∧ I (k + i + 1) σ₁ σ₁') →
      ∀ σ σ' L σ₁, I k σ σ' → (resolveOutputs A m t xs).run.run σ = (.ok (L, none), σ₁) →
        ∃ σ₁', (resolveOutputs A' m' t ys).run.run σ' =
          (.ok (L.map fun e => { e with transformation := g e.transformation }, none), σ₁')
  | _, [], [], .nil, _, σ, σ', L, σ₁, _, h => by
    obtain ⟨hL, -⟩ := Prod.mk.inj h
    cases hL
    exact ⟨σ', rfl⟩
  | k, (f, name) :: rest, (f', name') :: rest', .cons ⟨hname, hproc⟩ hrest, hstep,
      σ, σ', L, σ₂, hI, h => by
    rw [run_resolveOutputs_cons] at h
    rcases hf : (sourcesOf A m f).run.run σ with ⟨_ | sources, σ₁⟩ <;> rw [hf] at h
    · cases h
    dsimp only at h
    rcases hr : (resolveOutputs A m t rest).run.run σ₁ with ⟨_ | ⟨more, err⟩, σ₂'⟩ <;>
      rw [hr] at h
    · cases h
    obtain ⟨hL, -⟩ := Prod.mk.inj h
    cases hL
    obtain ⟨σ₁', hf', hI₁⟩ := hstep 0 (f, name) (f', name') rfl rfl σ σ' sources σ₁ hI hf
    -- the rest of the outputs, from the next place on
    have hstep' : ∀ i a b, rest[i]? = some a → rest'[i]? = some b → ∀ τ τ' r τ₁,
        I (k + 1 + i) τ τ' → (sourcesOf A m a.1).run.run τ = (.ok r, τ₁) →
        ∃ τ₁', (sourcesOf A' m' b.1).run.run τ' = (.ok r, τ₁') ∧ I (k + 1 + i + 1) τ₁ τ₁' := by
      intro i a b ha hb
      have e : k + 1 + i = k + (i + 1) := by omega
      rw [e]
      exact hstep (i + 1) a b ha hb
    obtain ⟨σ₂', hr'⟩ := resolveOutputs_of_steps g (k + 1) hrest hstep' σ₁ σ₁' more σ₂' hI₁ hr
    refine ⟨σ₂', ?_⟩
    rw [run_resolveOutputs_cons, hf']
    dsimp only
    rw [hr']
    simp only at hname hproc
    rw [hname, hproc]
    rfl

/-- A step that follows another, as a step of outputs followed in turn. -/
theorem Follows.step {α : Type} {K : Nat → Prop} {x y : Resolve α} (h : Follows ρ K x y)
    (σ σ' : ResolverState) (r : α) (σ₁ : ResolverState) (hI : FoundRel ρ K σ.found σ'.found)
    (hx : x.run.run σ = (.ok r, σ₁)) :
    ∃ σ₁', y.run.run σ' = (.ok r, σ₁') ∧ FoundRel ρ K σ₁.found σ₁'.found := by
  obtain ⟨σ₁', hy, hg⟩ := h σ σ' r σ₁ hI hx
  exact ⟨σ₁', hy, hI.grow hg⟩

/-! ### The analysis of a statement -/

/-- A statement whose analysis reports no error: its walk succeeded, it has
an outermost scope, its target names fit its outputs, and every output was
followed to its sources. -/
theorem analyzeStatement_ok {cat : Catalog} {m idx : Nat} {st : Sql.Statement}
    (h : (analyzeStatement cat m idx st).error = none) :
    ∃ d root names σ, (Detector.new cat m).detect st = (.ok (), d) ∧
      d.root.bind d.arena.get? = some root ∧ targetNames root.fields d.target = (names, none) ∧
      (resolveOutputs d.arena m (d.target.bind (·.table)) (root.fields.zip names)).run.run {} =
        (.ok ((analyzeStatement cat m idx st).lineage, none), σ) := by
  unfold analyzeStatement at h ⊢
  rcases hd : (Detector.new cat m).detect st with ⟨_ | _, d⟩
  · simp [hd] at h
  simp only [hd] at h ⊢
  rcases hr : d.root.bind d.arena.get? with _ | root
  · simp [hr] at h
  simp only [hr] at h ⊢
  rcases hn : targetNames root.fields d.target with ⟨names, mismatch⟩
  simp only [hn] at h ⊢
  rcases hres : (resolveOutputs d.arena m (if mismatch.isSome = true then none else
      d.target.bind fun x => x.table) (root.fields.zip names)).run.run {} with
    ⟨_ | ⟨L, err⟩, σ⟩
  · simp [hres] at h
  simp only [hres] at h ⊢
  have hnone : err = none ∧ mismatch = none := by simpa using h
  obtain ⟨rfl, rfl⟩ := hnone
  exact ⟨d, root, names, σ, rfl, hr, hn, by simpa using hres⟩

/-- The converse: a statement whose walk succeeds, whose target names fit,
and whose outputs are all followed to their sources reports no error, and
this lineage. -/
theorem analyzeStatement_of_ok {cat : Catalog} {m idx : Nat} {st : Sql.Statement} {d : Detector}
    {root : Scope} {names : List String} {σ : ResolverState} {L : List TargetLineage}
    (hd : (Detector.new cat m).detect st = (.ok (), d)) (hr : d.root.bind d.arena.get? = some root)
    (hn : targetNames root.fields d.target = (names, none))
    (hres : (resolveOutputs d.arena m (d.target.bind (·.table)) (root.fields.zip names)).run.run {} =
      (.ok (L, none), σ)) :
    (analyzeStatement cat m idx st).error = none ∧ (analyzeStatement cat m idx st).lineage = L := by
  unfold analyzeStatement
  simp [hd, hr, hn, hres]

/-! ### Walks in step give the same lineage -/

/-- Two detectors after two walks: their scopes agree under `ρ`, their
outermost scopes are matched and their targets are the same. -/
structure Detector.Matched (ρ : Renaming) (d d' : Detector) : Prop where
  scopes : ScopesRel ρ d.arena d'.arena
  root : Option.Rel (fun r r' => ρ.map r = some r') d.root d'.root
  target : d'.target = d.target

/-- **Matched walks give the same lineage.** Two statements walked into
matched detectors: when the analysis of the first reports no error, neither
does that of the second, and both give the same lineage. -/
theorem lineage_of_matched {cat : Catalog} {m idx : Nat} {st st' : Sql.Statement}
    {d d' : Detector} {ρ : Renaming} (hd : (Detector.new cat m).detect st = (.ok (), d))
    (hd' : (Detector.new cat m).detect st' = (.ok (), d')) (hm : d.Matched ρ d')
    (h : (analyzeStatement cat m idx st).error = none) :
    (analyzeStatement cat m idx st').error = none ∧
      (analyzeStatement cat m idx st').lineage = (analyzeStatement cat m idx st).lineage := by
  obtain ⟨d₀, root, names, σ, hd₀, hr, hn, hres⟩ := analyzeStatement_ok h
  rw [hd] at hd₀
  obtain ⟨-, rfl⟩ := Prod.mk.inj hd₀
  obtain ⟨r, hr₁, hroot₁⟩ := Option.bind_eq_some_iff.mp hr
  -- the outermost scope of the second walk, matched with that of the first
  have hroot := hm.root
  rw [hr₁] at hroot
  obtain ⟨r', hr', hrr⟩ : ∃ r', d'.root = some r' ∧ ρ.map r = some r' := by
    cases h₀ : d'.root with
    | none => rw [h₀] at hroot; cases hroot
    | some r' => rw [h₀] at hroot; cases hroot with | some h => exact ⟨r', rfl, h⟩
  obtain ⟨S, S', hS, hS', hrel⟩ := hm.scopes hrr
  rw [hS] at hroot₁
  cases hroot₁
  -- every scope an output reads is matched, and the tables of found names stay in step
  have hK : ReadsWithin ρ (fun k => (∃ k', ρ.map k = some k') ∧ True) d.arena :=
    hm.scopes.readsWithin fun _ => trivial
  have hzip := Forall₂.zip_names hrel.fields names
  have hstep : ∀ (i : Nat) (a b : Field × String), (root.fields.zip names)[i]? = some a →
      (S'.fields.zip names)[i]? = some b →
      ∀ τ τ' r τ₁, FoundRel ρ (fun k => (∃ k', ρ.map k = some k') ∧ True) τ.found τ'.found →
        (sourcesOf d.arena m a.1).run.run τ = (.ok r, τ₁) →
        ∃ τ₁', (sourcesOf d'.arena m b.1).run.run τ' = (.ok r, τ₁') ∧
          FoundRel ρ (fun k => (∃ k', ρ.map k = some k') ∧ True) τ₁.found τ₁'.found := by
    intro i a b ha hb τ τ' r τ₁ hI hx
    have hab := Forall₂.rel_of_getElem? hzip ha hb
    have ha₁ : a.1 ∈ root.fields := (List.of_mem_zip (List.mem_of_getElem? ha)).1
    have hf : Follows ρ (fun k => (∃ k', ρ.map k = some k') ∧ True)
        (sourcesOf d.arena m a.1) (sourcesOf d'.arena m b.1) :=
      field_follows hm.scopes.outputs hK (Nat.le_refl _) a.1 b.1 hab.2
        fun k hk => hK.of_mem hrr hS ha₁ hk
    exact Follows.step hf τ τ' r τ₁ hI hx
  obtain ⟨σ', hres'⟩ := resolveOutputs_of_steps (I := fun _ σ σ' => FoundRel ρ _ σ.found σ'.found)
    id 0 (hzip.imp fun _ _ h => ⟨h.1, h.2.process_eq⟩) hstep {} {} _ σ (fun _ _ => by simp) hres
  -- the transformations are kept as they are
  rw [show (fun e : TargetLineage => { e with transformation := id e.transformation }) = id from rfl,
    List.map_id] at hres'
  -- the second walk names its outputs alike and follows them to the same sources
  have hn' : targetNames S'.fields d'.target = (names, none) := by
    rw [targetNames_rel hrel.fields, hm.target]
    exact hn
  have hres'' : (resolveOutputs d'.arena m (d'.target.bind (·.table)) (S'.fields.zip names)).run.run {} =
      (.ok ((analyzeStatement cat m idx st).lineage, none), σ') := by
    rw [hm.target]
    exact hres'
  exact analyzeStatement_of_ok hd' (by rw [hr']; exact hS') hn' hres''

end ColumnLineage
