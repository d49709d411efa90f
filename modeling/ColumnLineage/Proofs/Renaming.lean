import Mathlib.Data.List.Forall2
import ColumnLineage.Lineage.Resolve
/-
ColumnLineage/Proofs/Renaming.lean

Scopes of two arenas matched by their ids. Walking the same query in two
places builds the same scopes under other ids: a query walked as a derived
table gets the ids after those of the query around it, and a condition walked
in one statement and not in another shifts every later id. A `Renaming` is a
partial map from the ids of one arena to those of the other that sends no two
ids to one; scopes it leaves out are the ones a walk builds in one place only.

Under a renaming, two fields agree when they have the same name and
transformation and their column references point to matched scopes
(`FieldRel`). What a lookup by name reads of a scope's output (names, places,
which fields are wildcards) is the same for agreeing outputs, and so is the
choice of the field a name designates (`chooseField_rel`).
-/

namespace ColumnLineage

/-- A matching of the scopes of one arena with scopes of another: a partial
map of ids that sends no two ids to one. -/
structure Renaming where
  map : Nat → Option Nat
  injective : ∀ {i i' j : Nat}, map i = some j → map i' = some j → i = i'

namespace Renaming

/-- `ρ'` matches every scope that `ρ` matches, in the same way. -/
def Extends (ρ ρ' : Renaming) : Prop :=
  ∀ {i j : Nat}, ρ.map i = some j → ρ'.map i = some j

theorem Extends.refl (ρ : Renaming) : ρ.Extends ρ := fun h => h

theorem Extends.trans {ρ₁ ρ₂ ρ₃ : Renaming} (h₁ : ρ₁.Extends ρ₂) (h₂ : ρ₂.Extends ρ₃) :
    ρ₁.Extends ρ₃ := fun h => h₂ (h₁ h)

/-- Matches `i` with `j` as well, where no id was matched with `j` before. -/
def extend (ρ : Renaming) (i j : Nat) (hj : ∀ i', ρ.map i' ≠ some j) : Renaming where
  map k := if k = i then some j else ρ.map k
  injective := by
    intro k k' l hk hk'
    by_cases h : k = i <;> by_cases h' : k' = i
    · rw [h, h']
    · simp only [h, if_true, h', if_false, Option.some.injEq] at hk hk'
      exact absurd (hk ▸ hk') (hj k')
    · simp only [h, if_false, h', if_true, Option.some.injEq] at hk hk'
      exact absurd (hk' ▸ hk) (hj k)
    · simp only [h, if_false, h'] at hk hk'
      exact ρ.injective hk hk'

theorem extend_extends {ρ : Renaming} {i j : Nat} (hj : ∀ i', ρ.map i' ≠ some j)
    (hi : ρ.map i = none) : ρ.Extends (ρ.extend i j hj) := by
  intro k l hk
  have hki : k ≠ i := by
    rintro rfl
    rw [hi] at hk
    cases hk
  simp only [extend, hki, if_false]
  exact hk

@[simp] theorem extend_map_self {ρ : Renaming} {i j : Nat} (hj : ∀ i', ρ.map i' ≠ some j) :
    (ρ.extend i j hj).map i = some j := by
  simp [extend]

/-- Every id moved up by `k`: the scopes of a query walked after `k` others. -/
def shift (k : Nat) : Renaming where
  map i := some (i + k)
  injective := by
    intro i i' j h h'
    simp only [Option.some.injEq] at h h'
    omega

end Renaming

variable (ρ : Renaming)

/-- Two origins of a column reference agree: the same table, or matched
scopes, or both not placed, or both ambiguous (whatever the labels). -/
def OriginRel : Origin → Origin → Prop
  | .pending, o' => o' = .pending
  | .table t, o' => o' = .table t
  | .scope i, .scope j => ρ.map i = some j
  | .ambiguous _, .ambiguous _ => True
  | .unbound, o' => o' = .unbound
  | _, _ => False

/-- Two column references agree: the same text and place, agreeing origins. -/
structure RefRel (r r' : ColumnRef) : Prop where
  qualifier : r'.qualifier = r.qualifier
  column : r'.column = r.column
  position : r'.position = r.position
  origin : OriginRel ρ r.origin r'.origin

mutual

/-- Two fields agree: the same shape, name and transformation, with agreeing
inputs and matched scopes. Where `named` is false, two scalar subqueries of
matched scopes agree whatever their names: that is how the inputs of a
computed field are compared, since a scalar subquery is named by its text and
nothing is ever looked up by the name of an input. -/
def FieldAgree (named : Bool) : Field → Field → Prop
  | .column n r p, .column n' r' p' => n' = n ∧ RefRel ρ r r' ∧ p' = p
  | .derived n ds p, .derived n' ds' p' => n' = n ∧ FieldsRel ds ds' ∧ p' = p
  | .scalar n i p, .scalar n' j p' => (named = true → n' = n) ∧ ρ.map i = some j ∧ p' = p
  | .constant n p, f' => f' = .constant n p
  | .wildcard n t p, f' => f' = .wildcard n t p
  | _, _ => False

/-- Two lists of inputs of computed fields agree input for input. -/
def FieldsRel : List Field → List Field → Prop
  | [], [] => True
  | f :: fs, f' :: fs' => FieldAgree false f f' ∧ FieldsRel fs fs'
  | _, _ => False

end

/-- Two outputs agree: as fields, names of scalar subqueries included. -/
def FieldRel (f f' : Field) : Prop := FieldAgree ρ true f f'

/-- Two targets of a binding agree: the same table, or matched scopes. -/
def TargetRel : BindingTarget → BindingTarget → Prop
  | .table t, b' => b' = .table t
  | .scope i, .scope j => ρ.map i = some j
  | .scope _, .table _ => False

/-- Two bindings agree: the same name, agreeing targets. -/
def BindingRel (b b' : Binding) : Prop :=
  b'.aliasName = b.aliasName ∧ TargetRel ρ b.target b'.target

variable {ρ}

/-! ### Agreeing fields -/

theorem fieldsRel_iff {fs fs' : List Field} :
    FieldsRel ρ fs fs' ↔ List.Forall₂ (FieldAgree ρ false) fs fs' := by
  induction fs generalizing fs' with
  | nil => cases fs' <;> simp [FieldsRel]
  | cons f fs ih => cases fs' <;> simp [FieldsRel, ih]

/-- Agreeing fields have the same transformation and wildcard shape, and the
same name unless both are scalar subqueries compared as inputs. -/
theorem FieldAgree.same {named : Bool} {f f' : Field} (h : FieldAgree ρ named f f') :
    f'.process = f.process ∧ f'.isStar = f.isStar ∧ (named = true → f'.name = f.name) := by
  cases f <;> cases f' <;> simp only [FieldAgree] at h
  case column.column r _ _ r' _ _ =>
    obtain ⟨rfl, hr, rfl⟩ := h
    simp [Field.name, Field.process, Field.isStar, hr.column]
  case derived.derived =>
    obtain ⟨rfl, -, rfl⟩ := h
    simp [Field.name, Field.process, Field.isStar]
  case scalar.scalar =>
    obtain ⟨hn, -, rfl⟩ := h
    exact ⟨rfl, rfl, hn⟩
  all_goals first | exact absurd h Field.noConfusion | (cases h; simp)

/-- Agreeing outputs have the same name, transformation and wildcard shape. -/
theorem FieldRel.same {f f' : Field} (h : FieldRel ρ f f') :
    f'.name = f.name ∧ f'.process = f.process ∧ f'.isStar = f.isStar :=
  have hs := FieldAgree.same h
  ⟨hs.2.2 rfl, hs.1, hs.2.1⟩

theorem FieldRel.name_eq {f f' : Field} (h : FieldRel ρ f f') : f'.name = f.name := h.same.1

theorem FieldRel.process_eq {f f' : Field} (h : FieldRel ρ f f') : f'.process = f.process :=
  h.same.2.1

theorem FieldRel.isStar_eq {f f' : Field} (h : FieldRel ρ f f') : f'.isStar = f.isStar :=
  h.same.2.2

/-- Agreeing outputs agree as inputs too. -/
theorem FieldRel.input {f f' : Field} (h : FieldRel ρ f f') : FieldAgree ρ false f f' := by
  cases f <;> cases f' <;> simp only [FieldRel, FieldAgree] at h ⊢
  case scalar.scalar => exact ⟨fun hf => absurd hf Bool.false_ne_true, h.2⟩
  all_goals exact h

theorem OriginRel.mono {ρ' : Renaming} (hρ : ρ.Extends ρ') {o o' : Origin}
    (h : OriginRel ρ o o') : OriginRel ρ' o o' := by
  cases o <;> cases o' <;> simp only [OriginRel] at h ⊢
  all_goals first | exact h | exact hρ h

mutual

theorem FieldAgree.mono {named : Bool} {ρ' : Renaming} (hρ : ρ.Extends ρ') :
    ∀ {f f' : Field}, FieldAgree ρ named f f' → FieldAgree ρ' named f f'
  | .column .., .column .., h =>
    ⟨h.1, ⟨h.2.1.qualifier, h.2.1.column, h.2.1.position, h.2.1.origin.mono hρ⟩, h.2.2⟩
  | .derived .., .derived .., h => ⟨h.1, FieldsRel.mono hρ h.2.1, h.2.2⟩
  | .scalar _ _ _, .scalar _ _ _, h => ⟨h.1, hρ h.2.1, h.2.2⟩
  | .constant .., _, h => h
  | .wildcard .., _, h => h

theorem FieldsRel.mono {ρ' : Renaming} (hρ : ρ.Extends ρ') :
    ∀ {fs fs' : List Field}, FieldsRel ρ fs fs' → FieldsRel ρ' fs fs'
  | [], [], _ => trivial
  | _ :: _, _ :: _, h => ⟨FieldAgree.mono hρ h.1, FieldsRel.mono hρ h.2⟩

end

theorem FieldRel.mono {ρ' : Renaming} (hρ : ρ.Extends ρ') {f f' : Field} (h : FieldRel ρ f f') :
    FieldRel ρ' f f' :=
  FieldAgree.mono hρ h

/-- Agreeing lists of fields agree at every place. -/
theorem Forall₂.getElem? {fs fs' : List Field} (h : List.Forall₂ (FieldRel ρ) fs fs') (k : Nat) :
    Option.Rel (FieldRel ρ) fs[k]? fs'[k]? := by
  induction h generalizing k with
  | nil => exact Option.Rel.none
  | cons hf _ ih =>
    cases k with
    | zero => exact Option.Rel.some hf
    | succ k => exact ih k

theorem Option.Rel.filter {o o' : Option Field} (h : Option.Rel (FieldRel ρ) o o')
    {p : Field → Bool} (hp : ∀ {f f'}, FieldRel ρ f f' → p f' = p f) :
    Option.Rel (FieldRel ρ) (o.filter p) (o'.filter p) := by
  cases h with
  | none => exact Option.Rel.none
  | some hf =>
    rename_i f f'
    by_cases hpf : p f = true
    · simp only [Option.filter, hpf, hp hf, if_true]
      exact Option.Rel.some hf
    · simp only [Option.filter, hpf, hp hf, Bool.false_eq_true, if_false]
      exact Option.Rel.none

/-- Filtering agreeing outputs by name keeps them agreeing. -/
theorem Forall₂.filter_name {fs fs' : List Field} (h : List.Forall₂ (FieldRel ρ) fs fs')
    (name : String) :
    List.Forall₂ (FieldRel ρ) (fs.filter (·.name == name)) (fs'.filter (·.name == name)) :=
  List.rel_filter (fun _ _ hf => by simp [hf.name_eq]) h

/-- Filtering agreeing outputs for wildcards keeps them agreeing. -/
theorem Forall₂.filter_isStar {fs fs' : List Field} (h : List.Forall₂ (FieldRel ρ) fs fs') :
    List.Forall₂ (FieldRel ρ) (fs.filter Field.isStar) (fs'.filter Field.isStar) :=
  List.rel_filter (fun _ _ hf => by simp [hf.isStar_eq]) h

theorem Forall₂.head? {fs fs' : List Field} (h : List.Forall₂ (FieldRel ρ) fs fs') :
    Option.Rel (FieldRel ρ) fs.head? fs'.head? := by
  cases h with
  | nil => exact Option.Rel.none
  | cons hf _ => exact Option.Rel.some hf

/-- A name designates agreeing fields of agreeing outputs, and is output more
than once by both or by neither. -/
theorem chooseField_rel {fs fs' : List Field} (h : List.Forall₂ (FieldRel ρ) fs fs')
    (name : String) (position : Option Nat) :
    Option.Rel (FieldRel ρ) (Resolve.chooseField fs name position).1
        (Resolve.chooseField fs' name position).1 ∧
      (Resolve.chooseField fs' name position).2 = (Resolve.chooseField fs name position).2 := by
  have hplace : Option.Rel (FieldRel ρ) (position.bind (fs[·]?)) (position.bind (fs'[·]?)) := by
    cases position with
    | none => exact Option.Rel.none
    | some k => exact Forall₂.getElem? h k
  have hnamed := Forall₂.filter_name h name
  unfold Resolve.chooseField
  generalize position.bind (fs[·]?) = a at hplace ⊢
  generalize position.bind (fs'[·]?) = a' at hplace ⊢
  dsimp only
  have hat := Option.Rel.filter hplace (p := (·.name == name)) (fun hf => by rw [hf.name_eq])
  generalize a.filter (·.name == name) = b at hat ⊢
  generalize a'.filter (·.name == name) = b' at hat ⊢
  cases hat with
  | some hf => exact ⟨Option.Rel.some hf, rfl⟩
  | none =>
    refine ⟨?_, by rw [hnamed.length_eq]⟩
    have hhead := Forall₂.head? hnamed
    generalize (fs.filter (·.name == name)).head? = c at hhead ⊢
    generalize (fs'.filter (·.name == name)).head? = c' at hhead ⊢
    cases hhead with
    | some hf => exact Option.Rel.some hf
    | none =>
      exact Option.Rel.filter hplace (p := (!·.isStar)) (fun hf => by rw [hf.isStar_eq])

/-- The field a name designates is an output of the scope. -/
theorem chooseField_mem {fs : List Field} {name : String} {position : Option Nat} {g : Field}
    (h : (Resolve.chooseField fs name position).1 = some g) : g ∈ fs := by
  have hplace : ∀ g, position.bind (fs[·]?) = some g → g ∈ fs := by
    intro g hg
    cases position with
    | none => cases hg
    | some k => exact List.mem_of_getElem? hg
  unfold Resolve.chooseField at h
  dsimp only at h
  split at h
  · rename_i f hf
    cases h
    exact hplace _ (Option.filter_eq_some_iff.mp hf).1
  · simp only [Option.orElse_eq_orElse, Option.orElse_eq_or] at h
    rcases Option.or_eq_some_iff.mp h with hg | ⟨-, hg⟩
    · exact (List.mem_filter.mp (List.mem_of_mem_head? hg)).1
    · exact hplace _ (Option.filter_eq_some_iff.mp hg).1

/-- The source a name has through an agreeing wildcard is the same. -/
theorem starSource_eq {f f' : Field} (h : FieldRel ρ f f') (name : String) :
    Resolve.starSource f' name = Resolve.starSource f name := by
  cases f <;> cases f' <;> simp only [FieldRel, FieldAgree] at h
  case column.column _ r _ _ r' _ =>
    obtain ⟨-, hr, -⟩ := h
    have ho := hr.origin
    rcases r with ⟨q, c, pos, o⟩
    rcases r' with ⟨q', c', pos', o'⟩
    cases o <;> cases o' <;> simp only [OriginRel] at ho <;> simp_all [Resolve.starSource]
  all_goals first | exact absurd h Field.noConfusion | (cases h; rfl)

/-- A column over a derived scope agrees only with the same column over the
scope the renaming maps that scope to. -/
theorem FieldRel.of_scope_left {n c : String} {q : Option TableName} {pos : Option Nat}
    {child : Nat} {p : Transformation} {f' : Field}
    (h : FieldRel ρ (.column n ⟨q, c, pos, .scope child⟩ p) f') :
    ∃ child', ρ.map child = some child' ∧ f' = .column n ⟨q, c, pos, .scope child'⟩ p := by
  cases f' <;> simp only [FieldRel, FieldAgree] at h
  case column n' r' p' =>
    obtain ⟨rfl, ⟨hq, hc, hpos, ho⟩, rfl⟩ := h
    rcases r' with ⟨q', c', pos', o'⟩
    dsimp only at hq hc hpos ho
    subst hq hc hpos
    cases o' <;> simp only [OriginRel] at ho
    exact ⟨_, ho, rfl⟩

/-- Only a column over a derived scope agrees with a column over a derived
scope. -/
theorem FieldRel.of_scope_right {f : Field} {n c : String} {q : Option TableName}
    {pos : Option Nat} {child' : Nat} {p : Transformation}
    (h : FieldRel ρ f (.column n ⟨q, c, pos, .scope child'⟩ p)) :
    ∃ child, f = .column n ⟨q, c, pos, .scope child⟩ p := by
  cases f <;> simp only [FieldRel, FieldAgree] at h
  case column n₀ r p₀ =>
    obtain ⟨rfl, ⟨hq, hc, hpos, ho⟩, rfl⟩ := h
    rcases r with ⟨q₀, c₀, pos₀, o⟩
    dsimp only at hq hc hpos ho
    subst hq hc hpos
    cases o <;> simp only [OriginRel, reduceCtorEq] at ho
    exact ⟨_, rfl⟩
  all_goals exact absurd h Field.noConfusion

end ColumnLineage
