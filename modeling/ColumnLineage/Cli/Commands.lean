import ColumnLineage.Cli.Files
import ColumnLineage.Cli.Arguments
import ColumnLineage.Config.Yaml
import ColumnLineage.Report.Json
import ColumnLineage.Report.Text
import ColumnLineage.Log.Filter
/-
ColumnLineage/Cli/Commands.lean

What `lflow` does once its arguments are read.

The settings come from the file given with `--config`, which must exist,
or else from `lineage.yaml` in the working directory when there is one, or
else are the defaults; `--dialect` overrides the configured dialect.

`lineage` reads SQL from `--sql`, or from `--path`: a file taken as it is,
or every file under a directory whose extension is exactly `sql`, in path
order. Each source is read in the configured dialect; a source that does
not parse is reported with its error and the others go on. The lineage is
printed as text, as JSON, or as a Graphviz graph. `scopes` prints the scope
tree built for each statement of `--sql` as JSON. `version` prints a banner.

A failure prints `Error: ` and its message, each cause after a colon, on
standard error, and exits with 1; what was printed before it stays.

Events are logged as the work goes on: SQL text about to be read, a source
that does not parse, and the events of the analysis of each statement. The
log filter comes from `RUST_LOG` when it is set and can be read, and
otherwise from `--verbose`; what the events it writes leave (see
`Log.Event.keptLines`) goes to standard error, source after source.
-/

namespace ColumnLineage.Cli

open Text

/-- What a run printed and its exit code. -/
structure Outcome where
  stdout : String := ""
  stderr : String := ""
  code : Nat := 0
  deriving DecidableEq, Repr, Inhabited

/-- A run of a command over the files of `m`: it prints as it goes, and a
failure ends it with a message. -/
abbrev Run (m : Type → Type) := ExceptT String (StateT Outcome m)

/-- The name of the settings file looked for in the working directory. -/
def settingsFileName : String := "lineage.yaml"

/-- The banner of `version`. -/
def banner : String :=
  "\n" ++
  "  _    _ _  _ ____ ____ ____ ____    ____ _    ____ _ _ _\n" ++
  "  |    | |\\ | |___ |__| | __ |___    |___ |    |  | | | |\n" ++
  "  |___ | | \\| |___ |  | |__] |___    |    |___ |__| |_|_|\n" ++
  "    "

section Running

variable {m : Type → Type} [Monad m] [MonadFiles m]

/-- Prints a line on standard output. -/
def sayLine (s : String) : Run m Unit :=
  modify fun o => { o with stdout := o.stdout ++ s ++ "\n" }

/-- Prints on standard output. -/
def say (s : String) : Run m Unit :=
  modify fun o => { o with stdout := o.stdout ++ s }

/-- Logs events: what those the filter writes leave goes to standard
error. -/
def logEvents (filter : Log.Filter) (events : List Log.Event) : Run m Unit :=
  modify fun o => { o with stderr := o.stderr ++ filter.kept events }

/-- Whether a path names anything. -/
def exists? (path : String) : Run m Bool := do
  return (← (MonadFiles.entry path : m _)).isSome

/-- The text of a file; `shown` is how failures name it. -/
def readText (path shown : String) : Run m String := do
  match ← (MonadFiles.readBytes path : m _) with
  | .error e => throw ("Failed to read " ++ shown ++ ": " ++ e)
  | .ok bytes =>
    match String.fromUTF8? bytes with
    | some text => pure text
    | none => throw ("Failed to read " ++ shown ++ ": stream did not contain valid UTF-8")

/-- The settings: from the given file, or from the settings file of the
working directory if there is one, or the defaults. -/
def readSettings (given : Option String) : Run m Config := do
  let path? ← match given with
    | some p =>
      if !(← exists? p) then throw ("Configuration file not found at: " ++ p)
      pure (some p)
    | none =>
      let candidate := joinPath (← (MonadFiles.workingDir : m _)) settingsFileName
      if (← exists? candidate) then pure (some candidate) else pure none
  match path? with
  | none => pure {}
  | some p =>
    let text ← readText p p
    match Config.ofYaml text with
    | .ok c => pure c
    | .error e => throw ("Invalid configuration in " ++ p ++ ": " ++ e)

/-- The settings with the dialect of the command line, if given. -/
def loadSettings (given dialect : Option String) : Run m Config := do
  let c ← readSettings given
  match dialect with
  | some d => pure { c with dialect := d }
  | none => pure c

/-- The files under a directory with extension `sql`, each with the
components of its path below the directory. -/
def sqlFilesUnder : Nat → String → List String → m (List (List String × String))
  | 0, _, _ => pure []
  | fuel + 1, dir, below => do
    let names ← (MonadFiles.children dir : m _)
    let found ← names.mapM fun name => do
      let path := joinPath dir name
      match ← (MonadFiles.entry path : m _) with
      | some .file =>
        pure (if extension? name == some "sql" then [(below ++ [name], path)] else [])
      | some .directory => sqlFilesUnder fuel path (below ++ [name])
      | none => pure []
    pure found.flatten

/-- How deep a directory walk goes. -/
def walkDepth : Nat := 4096

/-- The SQL files a path names: itself if it is a file, otherwise the files
under it with extension `sql`, in path order. -/
def findSqlFiles (path : String) : m (List String) := do
  match ← (MonadFiles.entry path : m _) with
  | some .file => pure [path]
  | _ =>
    let found ← sqlFilesUnder walkDepth path []
    pure ((found.mergeSort fun x y => componentsLe x.1 y.1).map (·.2))

/-- The sources of the SQL: the inline text, or the files of a path, read
in order. -/
def collectSources (sql path : Option String) : Run m (List (String × String)) := do
  match sql, path with
  | some s, _ => pure [("inline", s)]
  | none, some p =>
    if !(← exists? p) then throw ("Path not found: " ++ p)
    let files ← (findSqlFiles p : m _)
    sayLine ("Found " ++ toString files.length ++ " SQL files in: " ++ p)
    files.mapM fun f => do pure (f, ← readText f f)
  | none, none => throw "Either --sql or --path is required"

/-- The lineage of one source: its reports, or the message of why it does
not parse, with the events logged while it was read and analysed. -/
structure SourceReport where
  source : String
  parseError : Option String
  statements : List StatementReport
  events : List Log.Event
  deriving Inhabited

/-- The warning logged for a source that does not parse. -/
def parseFailureEvent (source message : String) : Log.Event :=
  { level := .warn, target := "lflow::commands::lineage", message := "failed to parse SQL",
    fields := [("source", source), ("error", message)] }

/-- Analyses one source in the configured dialect. -/
def analyzeSource (c : Config) (source sql : String) : Except String SourceReport := do
  let d ← match c.sqlDialect with
    | .ok d => pure d
    | .error e => throw e.message
  let reading := Sql.readingEvent sql
  match Sql.readStatements d sql with
  | .ok sts =>
    let reports := analyzeStatements c.catalog c.maxDepth sts
    pure { source, parseError := none, statements := reports,
           events := reading :: reports.flatMap (·.events) }
  | .error e =>
    pure { source, parseError := some e.message, statements := [],
           events := [reading, parseFailureEvent source e.message] }

/-- A source's report as JSON: the source, its parse error if any, and its
statements. -/
def SourceReport.toJson (r : SourceReport) : Json :=
  .obj ([("source", .str r.source)] ++
    (match r.parseError with
      | some e => [("parse_error", .str e)]
      | none => []) ++
    [("statements", .arr (r.statements.map StatementReport.toJson))])

/-- The reports as text: a heading, then each source's statements or its
parse error. -/
def textReport (results : List SourceReport) : String :=
  "\n--- Column Lineage ---\n" ++ String.join (results.map fun r =>
    match r.parseError with
    | some e => "\n" ++ r.source ++ " parse error: " ++ e ++ "\n"
    | none => String.join (r.statements.map (formatStatement r.source)))

/-- `lflow lineage`, logging through `filter`. -/
def runLineage (filter : Log.Filter) (sql path : Option String) (format : String)
    (dialect config : Option String) : Run m Unit := do
  let c ← loadSettings config dialect
  let sources ← collectSources sql path
  let results ← sources.mapM fun (source, text) =>
    match analyzeSource c source text with
    | .ok r => do
      logEvents filter r.events
      pure r
    | .error e => throw e
  if format == "text" then say (textReport results)
  else if format == "json" then sayLine (Json.pretty 0 (.arr (results.map SourceReport.toJson)))
  else if format == "dot" then
    sayLine (lineageGraph (results.flatMap fun r => r.statements.flatMap (·.lineage)))
  else
    sayLine ("Unsupported output format: " ++ format ++ ". Using text format instead.")
    say (textReport results)

/-- The walk over each statement, with its index: its outcome and the
detector after it. -/
def walkEach (c : Config) (sts : List Sql.Statement) :
    List (Nat × Except LineageError Unit × Detector) :=
  sts.zipIdx.map fun (st, i) => (i, (Detector.new c.catalog c.maxDepth).detect st)

/-- The scope tree of each statement as JSON: its index, its root scope, the
error that stopped it if any, and its scopes. -/
def scopesReport (walks : List (Nat × Except LineageError Unit × Detector)) : Json :=
  .arr (walks.map fun (i, outcome, d) =>
    .obj ([("statement_index", .num i), ("root", Json.opt .num d.root)] ++
      (match outcome with
        | .error e => [("error", .str e.message)]
        | .ok () => []) ++
      [("scopes", .arr (d.arena.scopes.toList.map Scope.toJson))]))

/-- `lflow scopes`, logging through `filter`. -/
def runScopes (filter : Log.Filter) (sql : String) (dialect config : Option String) :
    Run m Unit := do
  let c ← loadSettings config dialect
  if let .ok _ := c.sqlDialect then logEvents filter [Sql.readingEvent sql]
  match c.readSql sql with
  | .error e => throw e.message
  | .ok sts =>
    let walks := walkEach c sts
    logEvents filter (walks.flatMap fun (_, _, d) => d.events)
    sayLine (Json.pretty 0 (scopesReport walks))

/-- `lflow version`. -/
def runVersion : Run m Unit := do
  sayLine banner
  sayLine "LineageFlow CLI version 0.1.0"
  sayLine "Column-level lineage for SQL"
  sayLine "Repository: https://github.com/datastx/FeatherFlow"

/-- Runs the command line `args` (without the program name), with the log
setting `rustLog` (the value of `RUST_LOG`) if one is set. -/
def runCommandLine (args : List String) (rustLog : Option String) : m Outcome :=
  match parseCommandLine args with
  | .error n =>
    pure (if n.toStdout then { stdout := n.text, code := n.code } else { stderr := n.text, code := n.code })
  | .ok cl => do
    let filter := Log.Filter.ofSetting rustLog cl.verbose
    let run : Run m Unit := match cl.invocation with
      | .lineage sql path format dialect config =>
        runLineage filter sql path format dialect config
      | .scopes sql dialect config => runScopes filter sql dialect config
      | .version => runVersion
    let (r, out) ← (run.run).run {}
    match r with
    | .ok () => pure out
    | .error msg => pure { out with stderr := out.stderr ++ "Error: " ++ msg ++ "\n", code := 1 }

end Running

end ColumnLineage.Cli
