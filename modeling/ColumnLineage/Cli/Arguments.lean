/-
ColumnLineage/Cli/Arguments.lean

Reading the command line of `lflow`: a global `-v`/`--verbose` switch and
one of the commands `lineage`, `scopes`, `version` and `help`.

Arguments are read left to right. A long option takes its value after `=`
or as the next argument, a short one attached or as the next argument, and
switches may be clustered (`-vh`). An option waiting for its value is
settled when the next option starts or the arguments end, and fails then
if no value came. `-h`/`--help` prints the help of the command it is given
to, `-V`/`--version` the version, each as soon as it is read. After the
arguments are read, a command checks that no two of its arguments exclude
each other and that the required ones were given.

A usage error names the problem, may suggest a name that is close to the
one given (by Jaro similarity above 0.7), and shows a usage line: the full
one, or, once arguments were used, one built from the required arguments
and those used. Errors go to standard error with exit code 2; help and the
version go to standard output with exit code 0, except that running
`lflow` with no arguments at all prints its help as an error.
-/

namespace ColumnLineage.Cli

/-- What an argument does when it is given. -/
inductive Action where
  | switch
  | option
  | help
  | version
  deriving DecidableEq, Repr, Inhabited

/-- An argument a command accepts. -/
structure ArgSpec where
  id : String
  short : Option Char
  long : String
  action : Action
  valueName : String := ""
  deriving DecidableEq, Repr, Inhabited

/-- An argument as messages name it: `--sql <SQL>`, `--verbose`. -/
def ArgSpec.render (a : ArgSpec) : String :=
  if a.action == .option then "--" ++ a.long ++ " <" ++ a.valueName ++ ">" else "--" ++ a.long

/-- A command: its name, its arguments, the ids of those required (an
argument or a one-of group), its one-of group, its subcommands, its help,
and its full usage line. -/
structure CommandSpec where
  name : String
  args : List ArgSpec
  required : List String := []
  group : Option (String × List String) := none
  subcommands : List String := []
  help : String
  usage : String
  deriving Repr, Inhabited

/-- What the command line asks for. -/
inductive Invocation where
  | lineage (sql path : Option String) (format : String) (dialect config : Option String)
  | scopes (sql : String) (dialect config : Option String)
  | version
  deriving DecidableEq, Repr, Inhabited

/-- Text printed instead of running a command: help or the version on
standard output, a usage error on standard error, and the exit code. -/
structure Notice where
  text : String
  toStdout : Bool
  code : Nat
  deriving DecidableEq, Repr, Inhabited

/-- The switch shared by every command. -/
def verboseArg : ArgSpec := { id := "verbose", short := some 'v', long := "verbose", action := .switch }

/-- The help switch. -/
def helpArg : ArgSpec := { id := "help", short := some 'h', long := "help", action := .help }

/-- The help of `lflow`. -/
def mainHelp : String :=
  "LineageFlow - column-level SQL lineage\n\n" ++
  "Usage: lflow [OPTIONS] <COMMAND>\n\n" ++
  "Commands:\n" ++
  "  lineage  Trace every output column back to its source table columns\n" ++
  "  scopes   Dump the scope tree built for each statement as JSON\n" ++
  "  version  Show version information\n" ++
  "  help     Print this message or the help of the given subcommand(s)\n\n" ++
  "Options:\n" ++
  "  -v, --verbose  Enable debug logging (RUST_LOG takes precedence)\n" ++
  "  -h, --help     Print help\n" ++
  "  -V, --version  Print version\n"

/-- The help of `lflow lineage`. -/
def lineageHelp : String :=
  "Trace every output column back to its source table columns\n\n" ++
  "Usage: lflow lineage [OPTIONS] <--sql <SQL>|--path <PATH>>\n\n" ++
  "Options:\n" ++
  "      --sql <SQL>          SQL text to analyze\n" ++
  "  -v, --verbose            Enable debug logging (RUST_LOG takes precedence)\n" ++
  "  -p, --path <PATH>        A .sql file or a directory searched recursively for .sql files\n" ++
  "  -f, --format <FORMAT>    Output format (text, json, dot) [default: text]\n" ++
  "  -d, --dialect <DIALECT>  SQL dialect, overrides the config file\n" ++
  "  -c, --config <CONFIG>    Path to the configuration file (defaults to ./lineage.yaml)\n" ++
  "  -h, --help               Print help\n"

/-- The help of `lflow scopes`. -/
def scopesHelp : String :=
  "Dump the scope tree built for each statement as JSON\n\n" ++
  "Usage: lflow scopes [OPTIONS] --sql <SQL>\n\n" ++
  "Options:\n" ++
  "      --sql <SQL>          SQL text to analyze\n" ++
  "  -v, --verbose            Enable debug logging (RUST_LOG takes precedence)\n" ++
  "  -d, --dialect <DIALECT>  SQL dialect, overrides the config file\n" ++
  "  -c, --config <CONFIG>    Path to the configuration file (defaults to ./lineage.yaml)\n" ++
  "  -h, --help               Print help\n"

/-- The help of `lflow version`. -/
def versionHelp : String :=
  "Show version information\n\n" ++
  "Usage: lflow version [OPTIONS]\n\n" ++
  "Options:\n" ++
  "  -v, --verbose  Enable debug logging (RUST_LOG takes precedence)\n" ++
  "  -h, --help     Print help\n"

/-- The help of `lflow help`. -/
def helpHelp : String :=
  "Print this message or the help of the given subcommand(s)\n\n" ++
  "Usage: lflow help [COMMAND]...\n\n" ++
  "Arguments:\n" ++
  "  [COMMAND]...  Print help for the subcommand(s)\n"

/-- The option naming the SQL text. -/
def sqlArg : ArgSpec := { id := "sql", short := none, long := "sql", action := .option, valueName := "SQL" }

/-- The option naming the configuration file. -/
def configArg : ArgSpec :=
  { id := "config", short := some 'c', long := "config", action := .option, valueName := "CONFIG" }

/-- The option naming the dialect. -/
def dialectArg : ArgSpec :=
  { id := "dialect", short := some 'd', long := "dialect", action := .option, valueName := "DIALECT" }

/-- `lflow` itself. -/
def mainCommand : CommandSpec where
  name := "lflow"
  args := [verboseArg, helpArg,
    { id := "version", short := some 'V', long := "version", action := .version }]
  subcommands := ["lineage", "scopes", "version", "help"]
  help := mainHelp
  usage := "lflow [OPTIONS] <COMMAND>"

/-- `lflow lineage`. -/
def lineageCommand : CommandSpec where
  name := "lflow lineage"
  args := [sqlArg,
    { id := "path", short := some 'p', long := "path", action := .option, valueName := "PATH" },
    { id := "format", short := some 'f', long := "format", action := .option, valueName := "FORMAT" },
    dialectArg, configArg, helpArg, verboseArg]
  required := ["input"]
  group := some ("input", ["sql", "path"])
  help := lineageHelp
  usage := "lflow lineage [OPTIONS] <--sql <SQL>|--path <PATH>>"

/-- `lflow scopes`. -/
def scopesCommand : CommandSpec where
  name := "lflow scopes"
  args := [sqlArg, dialectArg, configArg, helpArg, verboseArg]
  required := ["sql"]
  help := scopesHelp
  usage := "lflow scopes [OPTIONS] --sql <SQL>"

/-- `lflow version`. -/
def versionCommand : CommandSpec where
  name := "lflow version"
  args := [helpArg, verboseArg]
  help := versionHelp
  usage := "lflow version [OPTIONS]"

/-- `lflow help`. -/
def helpCommand : CommandSpec where
  name := "lflow help"
  args := []
  help := helpHelp
  usage := "lflow help [COMMAND]..."

/-- The subcommand of `lflow` with a name. -/
def subcommand? (name : String) : Option CommandSpec :=
  if name == "lineage" then some lineageCommand
  else if name == "scopes" then some scopesCommand
  else if name == "version" then some versionCommand
  else if name == "help" then some helpCommand
  else none

/-! ### Suggestions -/

/-- The Jaro similarity of two strings, as the fraction
`(m * m * b + m * m * a + (m - t) * a * b) / (3 * a * b * m)` for lengths
`a` and `b`, `m` matching characters and `t` half-transpositions; zero is
`(0, 1)` and two empty strings are `(1, 1)`. -/
def jaro (s t : String) : Nat × Nat :=
  let a := s.toList.toArray
  let b := t.toList.toArray
  if a.size == 0 && b.size == 0 then (1, 1)
  else if a.size == 0 || b.size == 0 then (0, 1)
  else
    let range := max a.size b.size / 2 - 1
    let step := fun (st : Array Bool × Array Bool × Nat) (i : Nat) =>
      let (aFlags, bFlags, m) := st
      let lo := i - range
      let hi := min b.size (i + range + 1)
      let j? := (List.range hi).find? fun j =>
        lo ≤ j && a[i]! == b[j]! && !bFlags[j]!
      match j? with
      | some j => (aFlags.set! i true, bFlags.set! j true, m + 1)
      | none => (aFlags, bFlags, m)
    let (aFlags, bFlags, m) :=
      (List.range a.size).foldl step (Array.replicate a.size false, Array.replicate b.size false, 0)
    if m == 0 then (0, 1)
    else
      let aMatched := (List.range a.size).filter (aFlags[·]!) |>.map (a[·]!)
      let bMatched := (List.range b.size).filter (bFlags[·]!) |>.map (b[·]!)
      let half := ((aMatched.zip bMatched).filter fun (x, y) => x != y).length
      let t := half / 2
      let la := a.size
      let lb := b.size
      (m * m * lb + m * m * la + (m - t) * la * lb, 3 * la * lb * m)

/-- Whether a similarity is above 0.7. -/
def similar (f : Nat × Nat) : Bool := 10 * f.1 > 7 * f.2

/-- The candidate most similar to `s` above 0.7; of equally similar ones,
the last. -/
def closest (s : String) (candidates : List String) : Option String :=
  let scored := candidates.filterMap fun c => let f := jaro s c; if similar f then some (f, c) else none
  (scored.foldl (fun best (f, c) =>
    match best with
    | none => some (f, c)
    | some (g, d) => if f.1 * g.2 ≥ g.1 * f.2 then some (f, c) else some (g, d)) none).map (·.2)

/-- The candidates similar to `s` above 0.7, least similar first. -/
def similarNames (s : String) (candidates : List String) : List String :=
  let scored := candidates.filterMap fun c => let f := jaro s c; if similar f then some (f, c) else none
  (scored.mergeSort fun (f, _) (g, _) => f.1 * g.2 ≤ g.1 * f.2).map (·.2)

/-! ### Messages -/

/-- A usage error: the message, its tips, its usage line if any. -/
def usageError (message : String) (tips : List String) (usage : Option String) : Notice :=
  let tipText := if tips.isEmpty then "" else "\n" ++ String.join (tips.map ("\n  tip: " ++ ·))
  let usageText := match usage with
    | some u => "\n\nUsage: " ++ u
    | none => ""
  { text := "error: " ++ message ++ tipText ++ usageText ++ "\n\nFor more information, try '--help'.\n"
    toStdout := false, code := 2 }

/-- Help printed on request. -/
def helpNotice (spec : CommandSpec) : Notice := { text := spec.help, toStdout := true, code := 0 }

/-- The arguments given so far, in the order first given, with their values;
a group is recorded after the first of its members. -/
abbrev Matched := List (String × List String)

namespace CommandSpec

/-- The argument with a long name. -/
def findLong (spec : CommandSpec) (name : String) : Option ArgSpec :=
  spec.args.find? (·.long == name)

/-- The argument with a short name. -/
def findShort (spec : CommandSpec) (c : Char) : Option ArgSpec :=
  spec.args.find? (·.short == some c)

/-- The argument with an id. -/
def findId (spec : CommandSpec) (id : String) : Option ArgSpec :=
  spec.args.find? (·.id == id)

/-- The members of the group with an id. -/
def groupMembers (spec : CommandSpec) (id : String) : Option (List String) :=
  match spec.group with
  | some (g, members) => if g == id then some members else none
  | none => none

/-- The group as usage shows it: `<--sql <SQL>|--path <PATH>>`. -/
def groupText (spec : CommandSpec) (members : List String) : String :=
  "<" ++ "|".intercalate (members.filterMap fun m => (spec.findId m).map ArgSpec.render) ++ ">"

/-- The required arguments and those in `used`, as usage names them: the
arguments outside the groups (leaving out those in `present`), then the
groups. -/
def requiredUsage (spec : CommandSpec) (used present : List String) : List String :=
  let ids := spec.required ++ used
  let groups := ids.filterMap spec.groupMembers
  let inGroup := fun (id : String) => groups.any (·.contains id)
  let dedupe := fun (xs : List String) => xs.foldl (fun acc x => if acc.contains x then acc else acc ++ [x]) []
  let opts := dedupe (ids.filterMap fun id =>
    if inGroup id || present.contains id then none else (spec.findId id).map ArgSpec.render)
  opts ++ dedupe (groups.map spec.groupText)

/-- The usage line of an error: the full one when nothing was used, else one
built from the required arguments and those used. -/
def usageFor (spec : CommandSpec) (used : List String) : String :=
  if used.isEmpty then spec.usage
  else
    let parts := spec.requiredUsage used []
    spec.name ++ String.join (parts.map (" " ++ ·)) ++
      (if spec.subcommands.isEmpty then "" else " <COMMAND>")

end CommandSpec

/-! ### Reading arguments -/

/-- Where reading a command's arguments stands: what was given, and an
option still to be settled, with its value once it came. -/
structure ArgState where
  matched : Matched := []
  pending : Option (ArgSpec × Option String) := none
  deriving Repr, Inhabited

namespace ArgState

/-- The ids given on the command line, groups included. -/
def given (st : ArgState) : List String := st.matched.map (·.1)

/-- The ids of the arguments given, groups left out. -/
def givenArgs (spec : CommandSpec) (st : ArgState) : List String :=
  st.given.filter fun id => (spec.findId id).isSome

/-- Records an argument: an option needs a value, and an argument may be
given once. -/
def record (spec : CommandSpec) (st : ArgState) (a : ArgSpec) (values : List String) :
    Except Notice ArgState := do
  if a.action == .help then throw (helpNotice spec)
  if a.action == .version then throw { text := "lflow 0.1.0\n", toStdout := true, code := 0 }
  if a.action == .option && values.isEmpty then
    throw (usageError ("a value is required for '" ++ a.render ++ "' but none was supplied") [] none)
  if st.given.contains a.id then
    throw (usageError ("the argument '" ++ a.render ++ "' cannot be used multiple times") []
      (some spec.usage))
  let matched := st.matched ++ [(a.id, values)]
  let matched := match spec.group with
    | some (g, members) =>
      if members.contains a.id && !(matched.any (·.1 == g)) then matched ++ [(g, [])] else matched
    | none => matched
  pure { st with matched }

/-- Settles the option waiting for its value. -/
def settle (spec : CommandSpec) (st : ArgState) : Except Notice ArgState :=
  match st.pending with
  | none => pure st
  | some (a, v) => record spec { st with pending := none } a v.toList

/-- Settles the option waiting for its value, keeping the state as it was if
that fails. -/
def settleQuietly (spec : CommandSpec) (st : ArgState) : ArgState :=
  match settle spec st with
  | .ok st => st
  | .error _ => { st with pending := none }

/-- Gives an argument: a switch at once, an option with its value or
waiting for one. -/
def give (spec : CommandSpec) (st : ArgState) (a : ArgSpec) (value : Option String) :
    Except Notice ArgState := do
  let st ← settle spec st
  if a.action == .option then
    match value with
    | some v => record spec st a [v]
    | none => pure { st with pending := some (a, none) }
  else record spec st a []

end ArgState

/-- The error for an argument that is neither an option nor a subcommand:
a subcommand is suggested if one is close, otherwise a command with
subcommands reports an unknown subcommand. -/
def strayArgument (spec : CommandSpec) (arg : String) (trailing : Bool) : Notice :=
  if !spec.subcommands.isEmpty then
    if trailing then
      if spec.subcommands.contains arg then
        usageError "unexpected argument '--' found"
          ["subcommand '" ++ arg ++ "' exists; to use it, remove the '--' before it"] (some spec.usage)
      else usageError ("unrecognized subcommand '" ++ arg ++ "'") [] (some spec.usage)
    else
      match similarNames arg spec.subcommands with
      | [] => usageError ("unrecognized subcommand '" ++ arg ++ "'") [] (some spec.usage)
      | [one] =>
        usageError ("unrecognized subcommand '" ++ arg ++ "'")
          ["a similar subcommand exists: '" ++ one ++ "'"] (some spec.usage)
      | many =>
        usageError ("unrecognized subcommand '" ++ arg ++ "'")
          ["some similar subcommands exist: " ++ ", ".intercalate (many.map fun n => "'" ++ n ++ "'")]
          (some spec.usage)
  else usageError ("unexpected argument '" ++ arg ++ "' found") [] (some spec.usage)

/-- The error for an unknown long option: a close option of the command is
suggested (and counts as used), or else a close option of a subcommand
named later on the command line. -/
def unknownLong (spec : CommandSpec) (st : ArgState) (name : String) (rest : List String) :
    Notice :=
  let used := st.given.filter fun id => (spec.findId id).isSome || (spec.groupMembers id).isSome
  match closest name (spec.args.map (·.long)) with
  | some long =>
    let usedMore := match spec.findLong long with
      | some a => if used.contains a.id then used else used ++ [a.id]
      | none => used
    usageError ("unexpected argument '--" ++ name ++ "' found")
      ["a similar argument exists: '--" ++ long ++ "'"] (some (spec.usageFor usedMore))
  | none =>
    let fromSub := spec.subcommands.filterMap fun sub =>
      match subcommand? sub, rest.findIdx? (· == sub) with
      | some sc, some pos => (closest name (sc.args.map (·.long))).map fun long => (pos, sub, long)
      | _, _ => none
    let best := fromSub.foldl (fun acc x =>
      match acc with
      | none => some x
      | some y => if x.1 < y.1 then some x else some y) none
    let tips := match best with
      | some (_, sub, long) => ["'" ++ sub ++ " --" ++ long ++ "' exists"]
      | none => []
    usageError ("unexpected argument '--" ++ name ++ "' found") tips (some (spec.usageFor used))

/-- Reads a cluster of short switches, the last of which may be an option
with its value attached (`-fjson`, `-f=json`). -/
def readShorts (spec : CommandSpec) : List Char → ArgState → Except Notice ArgState
  | [], st => pure st
  | c :: more, st =>
    match spec.findShort c with
    | none =>
      throw (usageError ("unexpected argument '-" ++ String.singleton c ++ "' found") []
        (some spec.usage))
    | some a =>
      if a.action == .option then
        let attached := String.ofList more
        if attached.isEmpty then ArgState.give spec st a none
        else
          let v := if attached.startsWith "=" then (attached.drop 1).toString else attached
          ArgState.give spec st a (some v)
      else do
        let st ← ArgState.give spec st a none
        readShorts spec more st

/-- Reads the arguments of a command up to a subcommand, if one is named:
what was given, and the subcommand with the arguments after it. -/
def readArgs (spec : CommandSpec) :
    List String → ArgState → Bool → Except Notice (ArgState × Option (String × List String))
  | [], st, _ => pure (st, none)
  | arg :: rest, st, trailing => do
    if !trailing && spec.subcommands.contains arg then
      return (st, some (arg, rest))
    if !trailing && arg == "--" then
      let st ← ArgState.settle spec st
      return ← readArgs spec rest st true
    if !trailing && arg.startsWith "--" then
      let body := (arg.drop 2).toString
      let name := (body.splitOn "=").headD ""
      let value := if body.contains '=' then some (body.drop (name.length + 1)).toString else none
      if name.isEmpty then return ← readArgs spec rest st trailing
      match spec.findLong name with
      | some a =>
        if a.action != .option then
          if let some v := value then
            let st ← ArgState.settle spec st
            let used := ArgState.givenArgs spec st ++ [a.id]
            throw (usageError ("unexpected value '" ++ v ++ "' for '" ++ a.render ++
              "' found; no more were expected") [] (some (spec.usageFor used)))
        let st ← ArgState.give spec st a value
        return ← readArgs spec rest st trailing
      | none =>
        throw (unknownLong spec (ArgState.settleQuietly spec st) name rest)
    if !trailing && arg.startsWith "-" && arg.length > 1 then
      let st ← (match readShorts spec (arg.drop 1).toString.toList st with
        | .ok st => pure st
        | .error n => throw n)
      return ← readArgs spec rest st trailing
    match st.pending with
    | some (a, none) => readArgs spec rest { st with pending := some (a, some arg) } trailing
    | _ => throw (strayArgument spec arg trailing)

/-- Checks a command's arguments once read: no two members of its group,
and every required argument. -/
def validate (spec : CommandSpec) (st : ArgState) : Except Notice Unit := do
  let given := ArgState.givenArgs spec st
  if let some (_, members) := spec.group then
    let present := given.filter members.contains
    match present with
    | first :: second :: _ =>
      let former := (spec.findId first).map ArgSpec.render |>.getD first
      let other := (spec.findId second).map ArgSpec.render |>.getD second
      let used := given.filter fun id => !(present.drop 1).contains id
      throw (usageError ("the argument '" ++ former ++ "' cannot be used with '" ++ other ++ "'") []
        (some (spec.usageFor used)))
    | _ => pure ()
  let missing := spec.required.filter fun r =>
    match spec.groupMembers r with
    | some members => !(members.any given.contains)
    | none => !(given.contains r)
  if !missing.isEmpty then
    let names := spec.requiredUsage missing given
    let used := given ++ missing
    throw (usageError ("the following required arguments were not provided:" ++
      String.join (names.map ("\n  " ++ ·))) [] (some (spec.usageFor used)))

/-- Reads the arguments of a subcommand. -/
def readCommand (spec : CommandSpec) (args : List String) : Except Notice Matched := do
  let (st, _) ← readArgs spec args {} false
  let st ← ArgState.settle spec st
  validate spec st
  pure st.matched

/-- The help a `help` subcommand asks for: each name must be a subcommand
of the one before. -/
def helpFor (names : List String) : Notice :=
  let rec go : List String → CommandSpec → Notice
    | [], spec => helpNotice spec
    | n :: rest, spec =>
      let sub := if spec.name == "lflow" then subcommand? n else none
      match sub with
      | some sc => go rest sc
      | none => usageError ("unrecognized subcommand '" ++ n ++ "'") [] (some spec.usage)
  go names mainCommand

/-- The value of an option, if given. -/
def valueOf (m : Matched) (id : String) : Option String :=
  (m.find? (·.1 == id)).bind fun (_, vs) => vs.head?

/-- A command line read: the command to run, and whether `--verbose` was
given, before the command or after it. -/
structure CommandLine where
  invocation : Invocation
  verbose : Bool
  deriving DecidableEq, Repr, Inhabited

/-- Reads the whole command line (without the program name). -/
def parseCommandLine (args : List String) : Except Notice CommandLine := do
  let (st, sub) ← readArgs mainCommand args {} false
  match sub with
  | some ("help", rest) => throw (helpFor rest)
  | some (name, rest) =>
    let spec := (subcommand? name).getD versionCommand
    let m ← readCommand spec rest
    let st ← ArgState.settle mainCommand st
    let verbose := st.given.contains "verbose" || m.any (·.1 == "verbose")
    let invocation :=
      if name == "lineage" then
        Invocation.lineage (valueOf m "sql") (valueOf m "path") ((valueOf m "format").getD "text")
          (valueOf m "dialect") (valueOf m "config")
      else if name == "scopes" then
        .scopes ((valueOf m "sql").getD "") (valueOf m "dialect") (valueOf m "config")
      else .version
    pure { invocation, verbose }
  | none =>
    let st ← ArgState.settle mainCommand st
    if st.matched.isEmpty then throw { text := mainHelp, toStdout := false, code := 2 }
    throw (usageError ("'lflow' requires a subcommand but one was not provided\n" ++
      "  [subcommands: lineage, scopes, version, help]") [] (some mainCommand.usage))

end ColumnLineage.Cli
