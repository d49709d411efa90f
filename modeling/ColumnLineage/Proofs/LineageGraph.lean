import ColumnLineage.Report.Text
import ColumnLineage.Proofs.CatalogHistory
/-
ColumnLineage/Proofs/LineageGraph.lean

The graph of a lineage, said directly. Its labels are met in order, each
target column and then its sources; the graph has one node for each distinct
label, in the order the labels are first met, so that a target and a source
written alike share a node, and one edge for each source of each target
column, from the source's node to the column's node, labelled with the
column's transformation, in order (`Graph.ofLineage`).

The graph is built by looking each label up among the nodes made so far and
adding it when it is new. The invariant of the build (`Graph.Draws`) is that
the nodes are the labels met so far with repeats dropped, and the edges those
met so far, drawn between the nodes of their labels. A label once given a
node keeps its index when more nodes are added, so the edges drawn early
still point where the finished graph says.

Main statement (`lineageGraph_draws`): the text of the graph of any lineage
is the rendering of `Graph.ofLineage`, whose nodes are the labels met, each
once.
-/

namespace ColumnLineage

/-- The labels of a lineage in the order they are met: each target column,
then its sources in order. -/
def labelsMet (items : List TargetLineage) : List String :=
  items.flatMap fun l => l.target.render :: l.sources.map (·.render)

/-- The edges of a lineage, between labels: from each source of each target
column to that column, with the column's transformation, in order. -/
def edgesMet (items : List TargetLineage) : List (String × String × String) :=
  items.flatMap fun l => l.sources.map fun s => (s.render, l.target.render, l.transformation.name)

namespace Graph

/-- An edge between labels, drawn between the nodes of those labels. -/
def edgeAt (nodes : List String) (e : String × String × String) : Nat × Nat × String :=
  (nodes.idxOf e.1, nodes.idxOf e.2.1, e.2.2)

/-- The graph of a lineage: one node per distinct label, in the order the
labels are first met, and one edge per source of each target column. -/
def ofLineage (items : List TargetLineage) : Graph :=
  { nodes := (labelsMet items).eraseDups.toArray
    edges := ((edgesMet items).map (edgeAt (labelsMet items).eraseDups)).toArray }

/-- The graph `g` has a node for each label of `labels`, in the order they are
first met, and an edge for each of `links`, whose ends are among `labels`. -/
structure Draws (g : Graph) (labels : List String) (links : List (String × String × String)) :
    Prop where
  nodes : g.nodes.toList = labels.eraseDups
  edges : g.edges.toList = links.map (edgeAt labels.eraseDups)
  ends : ∀ e ∈ links, e.1 ∈ labels ∧ e.2.1 ∈ labels

section Build

variable {g : Graph} {labels : List String} {links : List (String × String × String)}

/-- A label met before keeps its node when another label is met. -/
theorem idxOf_eraseDups_concat {x : String} (hx : x ∈ labels) (y : String) :
    (labels ++ [y]).eraseDups.idxOf x = labels.eraseDups.idxOf x := by
  rw [eraseDups_concat]
  split
  · rfl
  · rw [List.idxOf_append, if_pos (List.mem_eraseDups.2 hx)]

theorem edgeAt_concat {e : String × String × String} (he : e.1 ∈ labels ∧ e.2.1 ∈ labels)
    (y : String) : edgeAt (labels ++ [y]).eraseDups e = edgeAt labels.eraseDups e := by
  simp only [edgeAt, idxOf_eraseDups_concat he.1, idxOf_eraseDups_concat he.2]

/-- Meeting a label: the graph draws it too, and the index answered is its node. -/
theorem node_draws (h : g.Draws labels links) (x : String) :
    (g.node x).2.Draws (labels ++ [x]) links ∧
      (g.node x).1 = (labels ++ [x]).eraseDups.idxOf x := by
  have hedges : links.map (edgeAt (labels ++ [x]).eraseDups) = links.map (edgeAt labels.eraseDups) :=
    List.map_congr_left fun e he => edgeAt_concat (h.ends e he) x
  have hends : ∀ e ∈ links, e.1 ∈ labels ++ [x] ∧ e.2.1 ∈ labels ++ [x] := fun e he =>
    ⟨List.mem_append_left _ (h.ends e he).1, List.mem_append_left _ (h.ends e he).2⟩
  rcases g with ⟨⟨nodes⟩, ⟨drawn⟩⟩
  have hnodes : nodes = labels.eraseDups := h.nodes
  cases hfind : nodes.findIdx? (· == x) with
  | some i =>
    -- met before: the graph stays as it is
    obtain ⟨hlt, hidx⟩ := List.findIdx?_eq_some_iff_findIdx_eq.1 hfind
    have hx : x ∈ labels := by
      have : nodes.idxOf x < nodes.length := by
        show nodes.findIdx (· == x) < nodes.length
        rw [hidx]
        exact hlt
      simpa [hnodes] using List.idxOf_lt_length_iff.1 this
    have hsame : (labels ++ [x]).eraseDups = labels.eraseDups := by
      rw [eraseDups_concat, if_pos hx]
    simp only [node, List.findIdx?_toArray, hfind]
    refine ⟨⟨?_, ?_, hends⟩, ?_⟩
    · rw [hsame]; exact h.nodes
    · rw [hsame]; exact h.edges
    · rw [hsame, ← hnodes, ← hidx]; rfl
  | none =>
    -- new: a node is added at the end
    have hx : x ∉ labels := by
      intro hx
      have := List.findIdx?_eq_none_iff.1 hfind x (by simpa [hnodes] using hx)
      simp at this
    have hgrown : (labels ++ [x]).eraseDups = labels.eraseDups ++ [x] := by
      rw [eraseDups_concat, if_neg hx]
    simp only [node, List.findIdx?_toArray, hfind, List.size_toArray]
    refine ⟨⟨?_, ?_, hends⟩, ?_⟩
    · simp [hgrown, hnodes]
    · rw [hedges]; exact h.edges
    · rw [hgrown, List.idxOf_append, if_neg (by simpa using hx), hnodes]
      simp

/-- Drawing an edge between two labels met. -/
theorem draws_push (h : g.Draws labels links) {s t : String} (hs : s ∈ labels) (ht : t ∈ labels)
    (name : String) :
    ({ g with edges := g.edges.push (labels.eraseDups.idxOf s, labels.eraseDups.idxOf t, name) } :
      Graph).Draws labels (links ++ [(s, t, name)]) where
  nodes := h.nodes
  edges := by simp [h.edges, edgeAt]
  ends := by
    intro e he
    rcases List.mem_append.1 he with he | he
    · exact h.ends e he
    · simp only [List.mem_singleton] at he
      exact he ▸ ⟨hs, ht⟩

/-- The sources of one target column, met in order, each drawn with an edge to
the column's node `i`. -/
theorem foldl_sources_draws (target name : String) (i : Nat) (srcs : List Source)
    (h : g.Draws labels links) (ht : target ∈ labels) (hi : i = labels.eraseDups.idxOf target) :
    (srcs.foldl (fun g s =>
        let (j, g) := g.node s.render
        { g with edges := g.edges.push (j, i, name) }) g).Draws
      (labels ++ srcs.map (·.render)) (links ++ srcs.map fun s => (s.render, target, name)) := by
  induction srcs generalizing g labels links with
  | nil => simpa using h
  | cons s rest ih =>
    obtain ⟨hnode, hidx⟩ := node_draws h s.render
    have ht' : target ∈ labels ++ [s.render] := List.mem_append_left _ ht
    have hi' : i = (labels ++ [s.render]).eraseDups.idxOf target := by
      rw [idxOf_eraseDups_concat ht, hi]
    have hpushed := draws_push hnode (List.mem_append_right _ (List.mem_singleton_self _)) ht' name
    rw [← hidx, ← hi'] at hpushed
    simpa using ih hpushed ht' hi'

/-- One target column: its node, then its sources and their edges. -/
theorem addLineage_draws (h : g.Draws labels links) (l : TargetLineage) :
    (g.addLineage l).Draws (labels ++ labelsMet [l]) (links ++ edgesMet [l]) := by
  obtain ⟨hnode, hidx⟩ := node_draws h l.target.render
  have hdrawn := foldl_sources_draws l.target.render l.transformation.name _ l.sources hnode
    (List.mem_append_right _ (List.mem_singleton_self _)) hidx
  simpa [addLineage, labelsMet, edgesMet] using hdrawn

theorem foldl_addLineage_draws (items : List TargetLineage) (h : g.Draws labels links) :
    (items.foldl addLineage g).Draws (labels ++ labelsMet items) (links ++ edgesMet items) := by
  induction items generalizing g labels links with
  | nil => simpa [labelsMet, edgesMet] using h
  | cons l rest ih =>
    have := ih (addLineage_draws h l)
    simpa [labelsMet, edgesMet] using this

end Build

/-- The graph built for a lineage is `ofLineage`. -/
theorem foldl_addLineage_eq (items : List TargetLineage) :
    items.foldl addLineage {} = ofLineage items := by
  have hempty : Draws {} [] [] := ⟨rfl, rfl, by simp⟩
  have h := foldl_addLineage_draws items hempty
  simp only [List.nil_append] at h
  rcases hg : items.foldl addLineage {} with ⟨nodes, drawn⟩
  rw [hg] at h
  have hnodes : nodes = (labelsMet items).eraseDups.toArray := by
    rw [← h.nodes, Array.toArray_toList]
  have hdrawn : drawn = ((edgesMet items).map (edgeAt (labelsMet items).eraseDups)).toArray := by
    rw [← h.edges, Array.toArray_toList]
  rw [hnodes, hdrawn, ofLineage]

end Graph

/-- The graph of a lineage is drawn as `Graph.ofLineage` says: one node per
distinct label of its target columns and sources, in the order first met, and
one edge per source of each column, from the source's node to the column's,
labelled with its transformation. -/
theorem lineageGraph_draws (items : List TargetLineage) :
    lineageGraph items = (Graph.ofLineage items).render ∧
    (Graph.ofLineage items).nodes.toList.Nodup ∧
    ∀ x, x ∈ (Graph.ofLineage items).nodes.toList ↔ x ∈ labelsMet items := by
  refine ⟨by rw [lineageGraph, Graph.foldl_addLineage_eq], ?_, ?_⟩
  · exact nodup_eraseDups _
  · intro x
    simp [Graph.ofLineage]

/- The target `t.a` of one column is the source of the next: both are one node. -/
example :
    let items : List TargetLineage :=
      [{ target := ⟨some ⟨none, "t"⟩, "a"⟩, sources := [{ table := some ⟨none, "u"⟩, field := "b" }],
          transformation := .direct },
        { target := ⟨none, "c"⟩, sources := [{ table := some ⟨none, "t"⟩, field := "a" }],
          transformation := .aliased }]
    (Graph.ofLineage items).nodes.toList = ["t.a", "u.b", "c"] ∧
      (Graph.ofLineage items).edges.toList = [(1, 0, "direct"), (0, 2, "alias")] := by
  decide

end ColumnLineage
