import ColumnLineage.Sql.Parse.Statement
import ColumnLineage.Log.Event
/-
ColumnLineage/Sql/Read.lean

Reading SQL text into statements. The text is split into tokens, each token
is given its line and column, and the statements are read one after another,
separated by semicolons.

The layers of the reader are stacked here: every layer reaches nested
constructs through the layer below, and the bottom layer fails. A construct
that takes no token before it descends is one of a handful (a statement
opens a query, a query a body, a body a select, a select an expression, an
expression its prefix), and every round of descent through them takes a
token, so eight layers for every token, and a margin, are more than any text
can use.
-/

namespace ColumnLineage.Sql

namespace Parse

/-- The bottom of the tower: every entry point fails as too deep. -/
def exhausted : Knots where
  expr _ := throw .tooDeep
  leading := throw .tooDeep
  query := throw .tooDeep
  body _ := throw .tooDeep
  factor := throw .tooDeep
  tableJoins := throw .tooDeep
  dataType := throw .tooDeep
  statement := throw .tooDeep

/-- One layer of the reader over the layer `k` below it. -/
def layer (k : Knots) : Knots where
  expr := exprLayer k
  leading := prefixLayer k
  query := queryLayer k
  body := bodyLayer k
  factor := factorLayer k
  tableJoins := tableJoinsLayer k
  dataType := dataTypeLayer k
  statement := statementLayer k

/-- `n` layers stacked on `k`. -/
def stack : Nat → Knots → Knots
  | 0, k => k
  | n + 1, k => stack n (layer k)

end Parse

/-- The place after the characters `cs`, starting from `loc`. -/
def Location.advance (loc : Location) (cs : List Char) : Location :=
  cs.foldl
    (fun loc c => if c == '\n' then { line := loc.line + 1, column := 1 }
      else { loc with column := loc.column + 1 })
    loc

/-- The tokens of `text` with their places, computed in one pass over the
text: the lexemes come in the order of their offsets. -/
def locate (text : String) (lexemes : Array Lexeme) : Array Found :=
  let step := fun (st : List Char × Nat × Location × Array Found) (lx : Lexeme) =>
    let (cs, pos, loc, acc) := st
    let gap := lx.offset - pos
    let loc := loc.advance (cs.take gap)
    (cs.drop gap, pos + gap, loc, acc.push { token := lx.token, loc := some loc, spaced := lx.spaced })
  (lexemes.foldl step (text.toList, 0, { line := 1, column := 1 }, #[])).2.2.2

/-- The event logged each time SQL text is about to be read: the text
itself, under the reader's log target. The reader's events pass through a
bridge that gives each of them hidden fields of its own. -/
def readingEvent (text : String) : Log.Event :=
  { level := .debug, target := "sqlparser::parser", message := "Parsing sql '" ++ text ++ "'...",
    hidden := ["log.target", "log.module_path", "log.file", "log.line"] }

/-- How many statements, queries and expressions may be open at once. -/
def nestingLimit : Nat := 50

/-- The statements of `text` in dialect `d`. -/
def readStatements (d : Dialect) (text : String) : Except ParseError (List Statement) :=
  match tokenize d text with
  | .error e =>
    .error (.lexical (e.message ++ (Location.ofOffset text.toList e.offset).suffix))
  | .ok lexemes =>
    let tokens := locate text lexemes
    let k := Parse.stack (8 * (tokens.size + 8)) Parse.exhausted
    (Parse.statements k { dialect := d, tokens := tokens, budget := nestingLimit }).run' 0

end ColumnLineage.Sql
