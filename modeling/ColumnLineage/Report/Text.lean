import ColumnLineage.Lineage.Analyze
/-
ColumnLineage/Report/Text.lean

Lineage as text for people and as a graph for Graphviz.

The text of a statement starts with a blank line and a heading (the source
it came from, its number counted from one, and the table it writes to); then
each target column with its transformation, each source on a line of its
own under it; then the warnings and the error.

The graph has one node per distinct label, created in the order labels are
first met (each target, then its sources), and one edge from each source to
its target labelled with the transformation.
-/

namespace ColumnLineage

/-- The text of one statement's report, as found in `source`. -/
def formatStatement (source : String) (r : StatementReport) : String :=
  let target := match r.targetTable with
    | some t => " → " ++ t.render
    | none => ""
  let heading := "\n" ++ source ++ " #" ++ toString (r.index + 1) ++ target ++ "\n"
  let items := r.lineage.map fun l =>
    "  " ++ l.target.render ++ " [" ++ l.transformation.name ++ "]\n" ++
      String.join (l.sources.map fun s => "    ← " ++ s.render ++ "\n")
  let warnings := r.warnings.map fun w => "  warning: " ++ w.message ++ "\n"
  let error := match r.error with
    | some e => "  error: " ++ e.message ++ "\n"
    | none => ""
  heading ++ String.join items ++ String.join warnings ++ error

/-- A label as it is written in a graph: quotes and backslashes escaped, line
feeds written as left-justified breaks. -/
def escapeLabel (s : String) : String :=
  String.join (s.toList.map fun c =>
    match c with
    | '"' => "\\\""
    | '\\' => "\\\\"
    | '\n' => "\\l"
    | c => String.singleton c)

/-- A graph under construction: its node labels, by index, and its edges. -/
structure Graph where
  nodes : Array String := #[]
  edges : Array (Nat × Nat × String) := #[]
  deriving Repr, Inhabited

namespace Graph

/-- The node labelled `label`, added when it is new. -/
def node (g : Graph) (label : String) : Nat × Graph :=
  match g.nodes.findIdx? (· == label) with
  | some i => (i, g)
  | none => (g.nodes.size, { g with nodes := g.nodes.push label })

/-- Adds the edges of one target column's lineage. -/
def addLineage (g : Graph) (l : TargetLineage) : Graph :=
  let (t, g) := g.node l.target.render
  l.sources.foldl (fun g s =>
    let (i, g) := g.node s.render
    { g with edges := g.edges.push (i, t, l.transformation.name) }) g

/-- The graph in the DOT language. -/
def render (g : Graph) : String :=
  let nodes := g.nodes.toList.zipIdx.map fun (label, i) =>
    "    " ++ toString i ++ " [ label = \"" ++ escapeLabel label ++ "\" ]\n"
  let edges := g.edges.toList.map fun (s, t, label) =>
    "    " ++ toString s ++ " -> " ++ toString t ++ " [ label = \"" ++ escapeLabel label ++
      "\" ]\n"
  "digraph \x7b\n" ++ String.join nodes ++ String.join edges ++ "\x7d\n"

end Graph

/-- The graph of the lineage of many target columns, in the DOT language. -/
def lineageGraph (items : List TargetLineage) : String :=
  (items.foldl Graph.addLineage {}).render

end ColumnLineage
