import ColumnLineage.Sql.Parse.DataType
/-
ColumnLineage/Sql/Parse/Expr.lean

Reading expressions by precedence climbing. An expression is a prefix (a
literal, a name, a call, a parenthesized expression or subquery, or one of the
special forms such as CASE, CAST and EXTRACT) followed by infix operators,
each taken while it binds tighter than the operator that encloses it.

A few words are special only where their special form follows: `ceil` alone is
a column, `ceil(x)` the ceiling. So a special form is tried first and, when it
fails, the word is read again as a plain name, unless the word is one that
can never name a column (`EXISTS`, `INTERVAL`, `STRUCT`, `TRIM`).

A type name followed by a string is a typed literal (`DATE '2020-01-01'`); it
is tried before anything else, and given up when no string follows.
-/

namespace ColumnLineage.Sql

namespace Parse

/-- Binding strengths of the infix operators. -/
def precOr : Nat := 5
def precAnd : Nat := 10
def precNot : Nat := 15
def precPgOther : Nat := 16
def precIs : Nat := 17
def precLike : Nat := 19
def precBetween : Nat := 20
def precEq : Nat := 20
def precPipe : Nat := 21
def precCaret : Nat := 22
def precAmpersand : Nat := 23
def precXor : Nat := 24
def precPlusMinus : Nat := 30
def precMulDiv : Nat := 40
def precAtTz : Nat := 41
def precDoubleColon : Nat := 50

/-- How tightly the next token binds as an infix operator; zero when it is
none. -/
def nextPrecedence : Parse Nat := do
  let d ← dialect
  let t ← peek
  match t.token with
  | .word w =>
    match w.keyword with
    | some "OR" => return precOr
    | some "AND" => return precAnd
    | some "XOR" => return precXor
    | some "AT" =>
      if (← peekNth 1).token.isKw "TIME" && (← peekNth 2).token.isKw "ZONE" then
        return precAtTz
      else return 0
    | some "NOT" =>
      match (← peekNth 1).token with
      | .word v =>
        match v.keyword with
        | some "IN" | some "BETWEEN" => return precBetween
        | some "LIKE" | some "ILIKE" | some "RLIKE" | some "REGEXP" | some "SIMILAR" =>
          return precLike
        | _ => return 0
      | _ => return 0
    | some "IS" => return precIs
    | some "IN" | some "BETWEEN" | some "OVERLAPS" | some "OPERATOR" => return precBetween
    | some "LIKE" | some "ILIKE" | some "RLIKE" | some "REGEXP" | some "SIMILAR" =>
      return precLike
    | some "DIV" => return precMulDiv
    | _ => return 0
  | .sym s =>
    match s with
    | .eq | .lt | .ltEq | .neq | .gt | .gtEq | .doubleEq | .spaceship
    | .tilde | .tildeStar | .bangTilde | .bangTildeStar | .doubleTilde | .doubleTildeStar
    | .bangDoubleTilde | .bangDoubleTildeStar => return precEq
    | .pipe => return precPipe
    | .caret | .sharp | .shiftRight | .shiftLeft => return precCaret
    | .ampersand => return precAmpersand
    | .plus | .minus => return precPlusMinus
    | .mul | .div | .intDiv | .mod | .concat => return precMulDiv
    | .doubleColon | .bang | .lBracket | .overlap | .caretAt => return precDoubleColon
    | .colon => return (if d == .snowflake then precDoubleColon else 0)
    | .arrow | .longArrow | .hashArrow | .hashLongArrow | .atArrow | .arrowAt | .hashMinus
    | .atQuestion | .atAt | .question | .questionAnd | .questionPipe => return precPgOther
    | _ => return 0
  | .customOp _ => return precPgOther
  | _ => return 0

/-- The binary operator a token stands for, written as it is printed. -/
def binaryOperator (d : Dialect) (t : Token) : Option String :=
  match t with
  | .sym s =>
    match s with
    | .spaceship => some "<=>"
    | .doubleEq | .eq => some "="
    | .neq => some "<>"
    | .gt => some ">"
    | .gtEq => some ">="
    | .lt => some "<"
    | .ltEq => some "<="
    | .plus => some "+"
    | .minus => some "-"
    | .mul => some "*"
    | .mod => some "%"
    | .concat => some "||"
    | .pipe => some "|"
    | .caret => some "^"
    | .ampersand => some "&"
    | .div => some "/"
    | .intDiv => if d == .duckdb || d == .generic then some "//" else none
    | .shiftLeft => if d == .postgresql || d == .duckdb || d == .generic then some "<<" else none
    | .shiftRight => if d == .postgresql || d == .duckdb || d == .generic then some ">>" else none
    | .sharp => if d == .postgresql then some "#" else none
    | .overlap => if d == .postgresql || d == .generic then some "&&" else none
    | .caretAt => if d == .postgresql || d == .generic then some "^@" else none
    | .tilde => some "~"
    | .tildeStar => some "~*"
    | .bangTilde => some "!~"
    | .bangTildeStar => some "!~*"
    | .doubleTilde => some "~~"
    | .doubleTildeStar => some "~~*"
    | .bangDoubleTilde => some "!~~"
    | .bangDoubleTildeStar => some "!~~*"
    | .arrow => some "->"
    | .longArrow => some "->>"
    | .hashArrow => some "#>"
    | .hashLongArrow => some "#>>"
    | .atArrow => some "@>"
    | .arrowAt => some "<@"
    | .hashMinus => some "#-"
    | .atQuestion => some "@?"
    | .atAt => some "@@"
    | .question => some "?"
    | .questionAnd => some "?&"
    | .questionPipe => some "?|"
    | _ => none
  | .customOp s => some s
  | .word w =>
    match w.keyword with
    | some "AND" => some "AND"
    | some "OR" => some "OR"
    | some "XOR" => some "XOR"
    | some "OVERLAPS" => some "OVERLAPS"
    | _ => none
  | _ => none

/-- The name a token has in a message about an operator without a reading. -/
def tokenKindName (t : Token) : String :=
  match t with
  | .sym s => s.kindName
  | .word w =>
    "Word(Word \x7b value: \"" ++ w.value ++ "\", quote_style: None, keyword: " ++
      w.keyword.getD "NoKeyword" ++ " \x7d)"
  | .customOp s => "CustomBinaryOperator(\"" ++ s ++ "\")"
  | other => other.text

/-- A field of a date or time: a unit keyword, or in some dialects any name
or a quoted string. -/
def dateTimeField : Parse String := do
  let d ← dialect
  let t ← next
  let custom : Bool := match d with
    | .generic | .postgresql | .snowflake | .duckdb | .redshift => true
    | _ => false
  match t.token with
  | .word w =>
    match w.keyword with
    | some k =>
      if ["YEAR", "YEARS", "MONTH", "MONTHS", "WEEKS", "DAY", "DAYOFWEEK", "DAYOFYEAR", "DAYS",
          "DATE", "DATETIME", "HOUR", "HOURS", "MINUTE", "MINUTES", "SECOND", "SECONDS",
          "CENTURY", "DECADE", "DOY", "DOW", "EPOCH", "ISODOW", "ISOYEAR", "ISOWEEK", "JULIAN",
          "MICROSECOND", "MICROSECONDS", "MILLENIUM", "MILLENNIUM", "MILLISECOND",
          "MILLISECONDS", "NANOSECOND", "NANOSECONDS", "QUARTER", "TIME", "TIMEZONE",
          "TIMEZONE_ABBR", "TIMEZONE_HOUR", "TIMEZONE_MINUTE", "TIMEZONE_REGION"].contains k then
        return k
      else if k == "WEEK" then
        if (← given (d == .bigquery || d == .generic) (symbol .lParen)) then
          let day ← ident
          expectSym .rParen
          return "WEEK(" ++ day.render ++ ")"
        else return "WEEK"
      else if custom then
        back
        return (← ident).render
      else expected "date/time field" t
    | none =>
      if custom then
        back
        return (← ident).render
      else expected "date/time field" t
  | .singleQuoted _ =>
    match d with
    | .generic | .postgresql | .snowflake | .duckdb | .redshift =>
      back
      return (← ident).render
    | _ => expected "date/time field" t
  | _ => expected "date/time field" t

/-- Whether the next token is a unit that may follow an interval value. -/
def peekTemporalUnit : Parse Bool := do
  match (← peek).token with
  | .word w =>
    match w.keyword with
    | some k =>
      return ["YEAR", "YEARS", "MONTH", "MONTHS", "WEEK", "WEEKS", "DAY", "DAYS", "HOUR",
        "HOURS", "MINUTE", "MINUTES", "SECOND", "SECONDS", "CENTURY", "DECADE", "DOW", "DOY",
        "EPOCH", "ISODOW", "ISOYEAR", "JULIAN", "MICROSECOND", "MICROSECONDS", "MILLENIUM",
        "MILLENNIUM", "MILLISECOND", "MILLISECONDS", "NANOSECOND", "NANOSECONDS", "QUARTER",
        "TIMEZONE", "TIMEZONE_HOUR", "TIMEZONE_MINUTE"].contains k
    | none => return false
  | _ => return false

/-- Whether the dialect needs a unit after an interval value, reading the
value as a whole expression. -/
def intervalNeedsUnit : Dialect → Bool
  | .mysql | .bigquery | .databricks | .hive => true
  | _ => false

/-- An interval after its keyword: a value and an optional qualifier such as
`DAY`, `HOUR TO SECOND` or `SECOND (2, 3)`. -/
def intervalExpr (k : Knots) : Parse Expr := do
  let d ← dialect
  let v ← if intervalNeedsUnit d then k.expr 0 else k.leading
  let leading ←
    if (← peekTemporalUnit) then some <$> dateTimeField
    else if intervalNeedsUnit d then
      fail ("INTERVAL requires a unit after the literal value" ++ (← peek).suffix)
    else pure none
  let qualifier ← match leading with
    | none => pure ""
    | some "SECOND" =>
      if (← symbol .lParen) then do
        let p ← literalNat
        let s ← if (← symbol .comma) then some <$> literalNat else pure none
        expectSym .rParen
        match s with
        | some s => pure (" SECOND (" ++ toString p ++ ", " ++ toString s ++ ")")
        | none => pure (" SECOND (" ++ toString p ++ ")")
      else pure " SECOND"
    | some field => do
      let p ← optPrecision
      let lead := " " ++ field ++ (match p with | some n => " (" ++ toString n ++ ")" | none => "")
      if (← keyword "TO") then
        let last ← dateTimeField
        let fsec ← if last == "SECOND" then optPrecision else pure none
        pure (lead ++ " TO " ++ last ++
          (match fsec with | some n => " (" ++ toString n ++ ")" | none => ""))
      else pure lead
  return .interval v qualifier

/-- An ordering item: an expression with optional direction and null order,
and in ClickHouse a `WITH FILL` with optional `FROM`, `TO` and `STEP`. -/
def orderItem (k : Knots) : Parse OrderItem := do
  let e ← k.expr 0
  let asc ← do
    if (← keyword "ASC") then pure (some true)
    else if (← keyword "DESC") then pure (some false) else pure none
  let nulls ← do
    if (← keywords ["NULLS", "FIRST"]) then pure (some true)
    else if (← keywords ["NULLS", "LAST"]) then pure (some false) else pure none
  let d ← dialect
  let part := fun (word : String) => do
    if (← keyword word) then some <$> k.expr 0 else pure none
  let fill ←
    if (← given (d == .clickhouse || d == .generic) (keywords ["WITH", "FILL"])) then do
      let start ← part "FROM"
      let stop ← part "TO"
      let step ← part "STEP"
      pure (some (Fill.mk start stop step))
    else pure none
  return .mk e asc nulls fill

/-- A bound of a window frame, with its offset expression. -/
def frameBound (k : Knots) : Parse (BoundKind × Option Expr) := do
  if (← keywords ["CURRENT", "ROW"]) then return (.currentRow, none)
  let offset ←
    if (← keyword "UNBOUNDED") then pure none
    else match (← peek).token with
      | .singleQuoted _ => some <$> intervalExpr k
      | _ => some <$> k.expr 0
  if (← keyword "PRECEDING") then return (.preceding, offset)
  if (← keyword "FOLLOWING") then return (.following, offset)
  expected "PRECEDING or FOLLOWING" (← peek)

/-- A window specification after its opening parenthesis. -/
def windowSpec (k : Knots) : Parse Window := do
  let name ← match (← peek).token with
    | .word w => if w.keyword.isNone then optionalIdent else pure none
    | _ => pure none
  let partitionBy ← if (← keywords ["PARTITION", "BY"]) then listOf (k.expr 0) else pure []
  let orderBy ← if (← keywords ["ORDER", "BY"]) then listOf (orderItem k) else pure []
  if (← symbol .rParen) then
    return .spec name partitionBy orderBy none .currentRow none none none
  let t ← next
  let units ← match t.token with
    | .word w =>
      match w.keyword with
      | some "ROWS" => pure "ROWS"
      | some "RANGE" => pure "RANGE"
      | some "GROUPS" => pure "GROUPS"
      | _ => expected "ROWS, RANGE, GROUPS" t
    | _ => expected "ROWS, RANGE, GROUPS" t
  let (start, startExpr, finish, finishExpr) ←
    if (← keyword "BETWEEN") then do
      let (s, se) ← frameBound k
      expectKw "AND"
      let (f, fe) ← frameBound k
      pure (s, se, some f, fe)
    else do
      let (s, se) ← frameBound k
      pure (s, se, none, none)
  expectSym .rParen
  return .spec name partitionBy orderBy (some units) start startExpr finish finishExpr

/-- The parts of a dotted name after its first, when they end in `*`. -/
def wildcardParts : Nat → List Ident → Parse (Option ObjectName)
  | 0, _ => return none
  | j + 1, acc => do
    if (← symbol .period) then
      let u ← next
      match u.token with
      | .word v => wildcardParts j ({ value := v.value, quote := v.quote } :: acc)
      | .singleQuoted s => wildcardParts j ({ value := s, quote := some '\'' } :: acc)
      | .sym .mul => return some acc.reverse
      | _ => expected "an identifier or a '*' after '.'" u
    else return none

/-- An expression that may be `*` or `t.*`, as a select item or argument. -/
def wildcardExpr (k : Knots) : Parse Expr := do
  let start ← get
  let t ← next
  let first : Option Ident := match t.token with
    | .word w => some { value := w.value, quote := w.quote }
    | .singleQuoted s => some { value := s, quote := some '\'' }
    | _ => none
  match t.token, first with
  | .sym .mul, _ => return .wildcard
  | _, some i =>
    if (← peekSym .period) then
      if let some name ← wildcardParts (← rounds) [i] then return .qualifiedWildcard name
  | _, _ => pure ()
  set start
  k.expr 0

/-- The operator between the name and the value of a named argument: the
word `VALUE`, or a symbol the dialect allows. -/
def namedArgOperator : Parse String := do
  if (← keyword "VALUE") then return "VALUE"
  let d ← dialect
  let t ← next
  let op : Option String := match t.token with
    | .sym .rArrow => if d == .mssql then none else some "=>"
    | .sym .eq => if d == .duckdb then some "=" else none
    | .sym .assignment => if d == .duckdb || d == .generic then some ":=" else none
    | .sym .colon => if d == .postgresql || d == .mssql then some ":" else none
    | _ => none
  match op with
  | some o => return o
  | none => do back; expected "argument operator" t

/-- One argument of a call: `name => value` and the like, or a value, which
may be `*` or `t.*`. Some dialects take any expression as the name. -/
def functionArg (k : Knots) : Parse Expr := do
  let d ← dialect
  let named ←
    if d == .postgresql || d == .mssql then optional do
      let name ← k.expr 0
      let op ← namedArgOperator
      let v ← wildcardExpr k
      pure (Expr.exprNamedArg name op v)
    else optional do
      let name ← ident
      let op ← namedArgOperator
      let v ← wildcardExpr k
      pure (Expr.namedArg name op v)
  match named with
  | some e => return e
  | none => wildcardExpr k

/-- A clause on how a JSON constructor treats nulls: `NULL ON NULL` or
`ABSENT ON NULL`. -/
def jsonNullClause : Parse (Option ArgClause) := do
  if (← keywords ["ABSENT", "ON", "NULL"]) then return some (.mk "ABSENT ON NULL" none "")
  if (← keywords ["NULL", "ON", "NULL"]) then return some (.mk "NULL ON NULL" none "")
  return none

/-- What an aggregated string does when it grows too long:
`ON OVERFLOW ERROR` or `ON OVERFLOW TRUNCATE [filler] WITH|WITHOUT COUNT`. -/
def overflowClause (k : Knots) : Parse (Option ArgClause) := do
  unless (← keywords ["ON", "OVERFLOW"]) do return none
  if (← keyword "ERROR") then return some (.mk "ON OVERFLOW ERROR" none "")
  expectKw "TRUNCATE"
  let t ← peek
  let filler ← match t.token with
    | .word w =>
      if w.keyword == some "WITH" || w.keyword == some "WITHOUT" then pure none
      else expected "either filler, WITH, or WITHOUT in LISTAGG" t
    | .singleQuoted _ | .escaped _ | .unicode _ | .national _ | .hex _ => some <$> k.expr 0
    | _ => expected "either filler, WITH, or WITHOUT in LISTAGG" t
  let count ← do
    if (← keyword "WITH") then pure " WITH COUNT"
    else if (← keyword "WITHOUT") then pure " WITHOUT COUNT"
    else expected "either WITH or WITHOUT in LISTAGG" (← peek)
  expectKw "COUNT"
  return some (.mk "ON OVERFLOW TRUNCATE" filler count)

/-- The arguments of a call after the opening parenthesis, through the
closing one. -/
def functionArgList (k : Knots) : Parse FunctionArgs := do
  let lead ← jsonNullClause
  if (← symbol .rParen) then return .list none [] none [] none lead.toList
  let loc ← peek
  let all ← keyword "ALL"
  let distinct ← keyword "DISTINCT"
  let dup ← match all, distinct with
    | true, false => pure (some "ALL")
    | false, true => pure (some "DISTINCT")
    | false, false => pure none
    | true, true => fail ("Cannot specify both ALL and DISTINCT" ++ loc.suffix)
  let args ← listOf (functionArg k)
  let d ← dialect
  let nulls ←
    if d.nullTreatmentArg then
      match (← oneOf ["RESPECT", "IGNORE"]) with
      | some w => do expectKw "NULLS"; pure (some (w ++ " NULLS"))
      | none => pure none
    else pure none
  let orderBy ← if (← keywords ["ORDER", "BY"]) then listOf (orderItem k) else pure []
  let limit ← if (← keyword "LIMIT") then some <$> k.expr 0 else pure none
  let having ←
    if (← given (d == .generic || d == .bigquery) (keyword "HAVING")) then do
      let which ← expectOneOf ["MIN", "MAX"]
      let e ← k.expr 0
      pure [ArgClause.mk ("HAVING " ++ which) (some e) ""]
    else pure []
  let separator ←
    if (← given (d == .generic || d == .mysql) (keyword "SEPARATOR")) then do
      let v ← value
      pure [ArgClause.mk ("SEPARATOR " ++ v.render) none ""]
    else pure []
  let overflow ← overflowClause k
  let json ← jsonNullClause
  expectSym .rParen
  return .list dup args nulls orderBy limit
    (lead.toList ++ having ++ separator ++ overflow.toList ++ json.toList)

/-- A call of `name`, at its opening parenthesis, with what may follow the
arguments: parameters of a parametric aggregate, `WITHIN GROUP`, `FILTER`,
null treatment and `OVER`. -/
def functionCall (k : Knots) (name : ObjectName) : Parse Expr := do
  let d ← dialect
  expectSym .lParen
  if d == .snowflake then
    if (← peekKw "SELECT") || (← peekKw "WITH") then
      let q ← k.query
      expectSym .rParen
      return .function name .none (.subquery q) none none none [] false
  let args ← functionArgList k
  let (params, args) ←
    if (← given (d == .clickhouse || d == .generic) (symbol .lParen)) then do
      let inner ← functionArgList k
      pure (args, inner)
    else pure (FunctionArgs.none, args)
  let withinGroup ←
    if (← keywords ["WITHIN", "GROUP"]) then do
      expectSym .lParen
      expectKws ["ORDER", "BY"]
      let items ← listOf (orderItem k)
      expectSym .rParen
      pure items
    else pure []
  let filter ←
    if (← given d.aggregateFilter (both (keyword "FILTER") (both (symbol .lParen) (keyword "WHERE")))) then do
      let f ← k.expr 0
      expectSym .rParen
      pure (some f)
    else pure none
  let argsHaveNulls := match args with
    | .list _ _ (some _) _ _ _ => true
    | _ => false
  let nulls ←
    if argsHaveNulls then pure none
    else match (← oneOf ["RESPECT", "IGNORE"]) with
      | some w => do expectKw "NULLS"; pure (some (w ++ " NULLS"))
      | none => pure none
  let window ←
    if (← keyword "OVER") then
      if (← symbol .lParen) then some <$> windowSpec k
      else some <$> (Window.named <$> ident)
    else pure none
  return .function name params args filter nulls window withinGroup false

/-- `CASE [operand] WHEN ... THEN ... [ELSE ...] END` after `CASE`. -/
def caseExpr (k : Knots) : Parse Expr := do
  let operand ←
    if (← keyword "WHEN") then pure none
    else do
      let o ← k.expr 0
      expectKw "WHEN"
      pure (some o)
  let n ← rounds
  let rec whens : Nat → List Expr → List Expr → Parse (List Expr × List Expr)
    | 0, cs, rs => return (cs.reverse, rs.reverse)
    | j + 1, cs, rs => do
      let c ← k.expr 0
      expectKw "THEN"
      let r ← k.expr 0
      if (← keyword "WHEN") then whens j (c :: cs) (r :: rs)
      else return ((c :: cs).reverse, (r :: rs).reverse)
  let (conditions, results) ← whens n [] []
  let otherwise ← if (← keyword "ELSE") then some <$> k.expr 0 else pure none
  expectKw "END"
  return .case operand conditions results otherwise

/-- `CAST(e AS type [FORMAT ...])` and its variants, after the keyword. -/
def castExpr (k : Knots) (kind : CastKind) : Parse Expr := do
  expectSym .lParen
  let e ← k.expr 0
  expectKw "AS"
  let (ty, shift) ← k.dataType
  if shift then fail ("unmatched > after parsing data type " ++ ty.text ++ (← peek).token.text)
  let format ←
    if (← keyword "FORMAT") then do
      let v ← value
      if (← keywords ["AT", "TIME", "ZONE"]) then
        let z ← value
        pure (some (v.render ++ " AT TIME ZONE " ++ z.render))
      else pure (some v.render)
    else pure none
  expectSym .rParen
  return .cast kind e ty.text format

/-- A data type; a `>` left over from closing it is an error. -/
def dataTypeOf (k : Knots) : Parse SqlType := do
  let (ty, shift) ← k.dataType
  if shift then fail ("unmatched > after parsing data type " ++ ty.text ++ (← peek).token.text)
  return ty

/-- A data type, as text; a `>` left over from closing it is an error. -/
def dataTypeText (k : Knots) : Parse String := SqlType.text <$> dataTypeOf k

/-- `CONVERT(...)` after the keyword: the value, then a type with an optional
character set or `USING` a character set; in some dialects the type comes
first, then the value and style numbers. -/
def convertExpr (k : Knots) (tryForm : Bool) : Parse Expr := do
  expectSym .lParen
  if (← dialect).convertTypeFirst then
    let ty ← dataTypeText k
    expectSym .comma
    let e ← k.expr 0
    let styles ← if (← symbol .comma) then listOf (k.expr 0) else pure []
    expectSym .rParen
    return .convert tryForm e (some ty) none true styles
  let e ← k.expr 0
  if (← keyword "USING") then
    let charset ← objectName
    expectSym .rParen
    return .convert tryForm e none (some (renderName charset)) false []
  expectSym .comma
  let ty ← dataTypeText k
  let charset ←
    if (← keywords ["CHARACTER", "SET"]) then some <$> (renderName <$> objectName) else pure none
  expectSym .rParen
  return .convert tryForm e (some ty) charset false []

/-- `STRUCT[<fields>](values)` at `STRUCT`: a value may be named with `AS`
unless the fields are typed. -/
def structLiteralExpr (k : Knots) : Parse Expr := do
  let (ty, shift) ← k.dataType
  if shift then fail ("unmatched > in STRUCT literal" ++ (← peek).suffix)
  let typed := ty.text != "STRUCT"
  expectSym .lParen
  let values ← listOf do
    let e ← k.expr 0
    let asWord ← peek
    if (← keyword "AS") then
      if typed then fail ("Typed syntax does not allow AS" ++ asWord.suffix)
      return Expr.named e (← ident)
    return e
  expectSym .rParen
  return .structLiteral ty.text values

/-- `MAP \x7bkey: value, ...\x7d` after `MAP`, possibly empty. -/
def mapLiteralExpr (k : Knots) : Parse Expr := do
  expectSym .lBrace
  let entries ← listOf0 (do
    let key ← k.expr 0
    expectSym .colon
    let v ← k.expr 0
    pure (MapEntry.mk key v)) .rBrace
  expectSym .rBrace
  return .mapLiteral entries

/-- `\x7bkey: value, ...\x7d` at its opening brace, each key a name. -/
def dictionaryExpr (k : Knots) : Parse Expr := do
  expectSym .lBrace
  let fields ← listOf do
    let key ← ident
    expectSym .colon
    let v ← k.expr 0
    pure (key, v)
  expectSym .rBrace
  return .dictionary (fields.map (·.1)) (fields.map (·.2))

/-- `MATCH (columns) AGAINST (value [modifier])` after `MATCH`. -/
def matchAgainstExpr : Parse Expr := do
  let columns ← columnList false false
  expectKw "AGAINST"
  expectSym .lParen
  let v ← value
  let modifier ← do
    if (← keywords ["IN", "NATURAL", "LANGUAGE", "MODE"]) then
      if (← keywords ["WITH", "QUERY", "EXPANSION"]) then
        pure (some "IN NATURAL LANGUAGE MODE WITH QUERY EXPANSION")
      else pure (some "IN NATURAL LANGUAGE MODE")
    else if (← keywords ["IN", "BOOLEAN", "MODE"]) then pure (some "IN BOOLEAN MODE")
    else if (← keywords ["WITH", "QUERY", "EXPANSION"]) then pure (some "WITH QUERY EXPANSION")
    else pure none
  expectSym .rParen
  return .matchAgainst columns v modifier

/-- `EXTRACT(field FROM e)` after the keyword. -/
def extractExpr (k : Knots) : Parse Expr := do
  expectSym .lParen
  let field ← dateTimeField
  let comma ← do
    if (← keyword "FROM") then pure false
    else if (← both (symbol .comma) (pure ((← dialect) == .snowflake || (← dialect) == .generic))) then
      pure true
    else throw (.grammar "Expected 'FROM' or ','")
  let e ← k.expr 0
  expectSym .rParen
  return .extract field comma e

/-- `CEIL(e)` or `FLOOR(e)`, with `TO field` or a scale, after the keyword. -/
def ceilFloorExpr (k : Knots) (name : String) : Parse Expr := do
  expectSym .lParen
  let e ← k.expr 0
  let (scale, field) ← do
    if (← keyword "TO") then do
      let f ← dateTimeField
      pure (none, some f)
    else if (← symbol .comma) then do
      match (← value) with
      | .number n l => pure (some (Expr.value (.number n l)), none)
      | _ => throw (.grammar "Scale field can only be of number type")
    else pure (none, none)
  expectSym .rParen
  return .ceilFloor name e scale field

/-- `SUBSTRING(e FROM a FOR b)` or `SUBSTRING(e, a, b)` after the keyword. -/
def substringExpr (k : Knots) : Parse Expr := do
  expectSym .lParen
  let e ← k.expr 0
  let special ← symbol .comma
  let fromE ← if (← either (pure special) (keyword "FROM")) then some <$> k.expr 0 else pure none
  let forE ← if (← either (keyword "FOR") (symbol .comma)) then some <$> k.expr 0 else pure none
  expectSym .rParen
  return .substring e fromE forE special

/-- `OVERLAY(e PLACING w FROM a [FOR b])` after the keyword. -/
def overlayExpr (k : Knots) : Parse Expr := do
  expectSym .lParen
  let e ← k.expr 0
  expectKw "PLACING"
  let what ← k.expr 0
  expectKw "FROM"
  let fromE ← k.expr 0
  let forE ← if (← keyword "FOR") then some <$> k.expr 0 else pure none
  expectSym .rParen
  return .overlay e what fromE forE

/-- `TRIM([side] [what FROM] e)` or `TRIM(e, chars)` after the keyword. -/
def trimExpr (k : Knots) : Parse Expr := do
  expectSym .lParen
  let side ← match (← peek).token with
    | .word w =>
      match w.keyword with
      | some "BOTH" | some "LEADING" | some "TRAILING" => do
        let _ ← next
        pure w.keyword
      | _ => pure none
    | _ => pure none
  let e ← k.expr 0
  if (← keyword "FROM") then
    let target ← k.expr 0
    expectSym .rParen
    return .trim target side (some e) []
  let d ← dialect
  if (← symbol .comma) && (d == .snowflake || d == .bigquery || d == .generic) then
    let chars ← listOf (k.expr 0)
    expectSym .rParen
    return .trim e none none chars
  expectSym .rParen
  return .trim e side none []

/-- `EXISTS (query)` after the keyword. -/
def existsExpr (k : Knots) (negated : Bool) : Parse Expr := do
  expectSym .lParen
  let q ← k.query
  expectSym .rParen
  return .exists q negated

/-- `NOT e`, or `NOT EXISTS (query)`, after `NOT`. -/
def notExpr (k : Knots) : Parse Expr := do
  if (← peekKw "EXISTS") then
    let _ ← next
    existsExpr k true
  else return .unary "NOT" (← k.expr precNot)

/-- `[a, b, ...]` after its opening bracket. -/
def arrayItems (k : Knots) (named : Bool) : Parse Expr := do
  let items ← listOf0 (k.expr 0) .rBracket
  expectSym .rBracket
  return .array items named

/-- The part of a subscript after its opening bracket, through the closing
one: an index, or a slice whose bounds and stride may each be missing. -/
def subscriptItem (k : Knots) : Parse Access := do
  let lower ← if (← symbol .colon) then pure none else some <$> k.expr 0
  if (← symbol .rBracket) then
    match lower with
    | some i => return .index i
    | none => return .slice none none none
  if lower.isSome then expectSym .colon
  if (← symbol .rBracket) then return .slice lower none none
  let upper ← k.expr 0
  if (← symbol .rBracket) then return .slice lower (some upper) none
  expectSym .colon
  if (← symbol .rBracket) then return .slice lower (some upper) none
  let stride ← k.expr 0
  expectSym .rBracket
  return .slice lower (some upper) (some stride)

/-- Subscripts in brackets, one after another, at the first opening bracket
if there is one. -/
def subscripts (k : Knots) : Nat → List Access → Parse (List Access)
  | 0, acc => return acc.reverse
  | j + 1, acc => do
    if (← symbol .lBracket) then subscripts k j ((← subscriptItem k) :: acc)
    else return acc.reverse

/-- Steps of access after periods: each a field, which may be followed by
subscripts, and a final found token when the steps end in `.*`, which only
PostgreSQL reads here. In Redshift a bracket after a field is left for a
path. -/
def fieldSteps (k : Knots) : Nat → List Access → Parse (List Access × Option Found)
  | 0, acc => return (acc.reverse, none)
  | j + 1, acc => do
    if (← symbol .period) then
      let d ← dialect
      let u ← next
      match u.token with
      | .word v =>
        let acc := Access.field (.identifier { value := v.value, quote := v.quote }) :: acc
        if (← peekSym .lBracket) then
          if d == .redshift then return (acc.reverse, none)
          fieldSteps k j ((← subscripts k (← rounds) []).reverse ++ acc)
        else fieldSteps k j acc
      | .singleQuoted s =>
        fieldSteps k j (.field (.identifier { value := s, quote := some '\'' }) :: acc)
      | .sym .mul =>
        if d == .postgresql then return (acc.reverse, some u)
        else expected "an identifier after '.'" u
      | _ => expected "an identifier or a '*' after '.'" u
    else return (acc.reverse, none)

/-- The names of an access that is a plain name followed by plain fields. -/
def accessNames : Expr → List Access → Option (List Ident)
  | .identifier i, chain =>
    chain.foldr (fun step rest =>
      match step, rest with
      | .field (.identifier j), some ids => some (j :: ids)
      | _, _ => none) (some []) |>.map (i :: ·)
  | _, _ => none

/-- Fields and subscripts after `root`, whose first steps `chain` are read
already: a dotted name, a call of a dotted name, a qualified wildcard, a
name marked `(+)` for an outer join, or an access into a value. -/
def compoundAccess (k : Knots) (root : Expr) (chain : List Access) : Parse Expr := do
  let (more, wildcard) ← fieldSteps k (← rounds) []
  let steps := chain ++ more
  let names := accessNames root steps
  match wildcard with
  | some _ =>
    match names with
    | some ids => return .qualifiedWildcard ids
    | none => expected "an identifier or a '*' after '.'" (← peek)
  | none =>
    let marked ←
      if (← dialect).outerJoinMarks && names.isSome && (← peekSym .lParen) &&
          (← peekNth 1).token == .sym .plus && (← peekNth 2).token == .sym .rParen then do
        let _ ← next; let _ ← next; let _ ← next
        pure true
      else pure false
    if marked then
      match names with
      | some [i] => return .outerJoin (.identifier i)
      | some ids => return .outerJoin (.compound ids)
      | none => return root
    if (← symbol .lParen) then
      match names with
      | some ids =>
        back
        functionCall k ids
      | none => expected "an identifier or a '*' after '.'" (← peek)
    else
      match names, steps with
      | some ids, _ => return .compound ids
      | none, [] => return root
      | none, _ => return .access root steps

/-- The special form a word starts, after the word: `none` when the word
starts no special form here. -/
def reservedWordPrefix (k : Knots) (w : Word) : Parse (Option Expr) := do
  let d ← dialect
  let plain : Ident := { value := w.value, quote := w.quote }
  match w.keyword with
  | some "TRUE" | some "FALSE" =>
    if d.booleanLiterals then
      back
      return some (.value (← value))
    else return none
  | some "NULL" =>
    back
    return some (.value (← value))
  | some "CURRENT_CATALOG" | some "CURRENT_USER" | some "SESSION_USER" | some "USER" =>
    if d == .postgresql || d == .generic then
      return some (.function [plain] .none .none none none none [] false)
    else return none
  | some "CURRENT_TIMESTAMP" | some "CURRENT_TIME" | some "CURRENT_DATE" | some "LOCALTIME"
  | some "LOCALTIMESTAMP" =>
    let args ← if (← symbol .lParen) then functionArgList k else pure .none
    return some (.function [plain] .none args none none none [] false)
  | some "CASE" => some <$> caseExpr k
  | some "MATCH" => if d == .mysql || d == .generic then some <$> matchAgainstExpr else return none
  | some "CONVERT" => some <$> convertExpr k false
  | some "TRY_CONVERT" => if d.tryConvert then some <$> convertExpr k true else return none
  | some "STRUCT" =>
    if d.structLiterals then
      back
      let literal ← structLiteralExpr k
      some <$> compoundAccess k literal []
    else return none
  | some "PRIOR" =>
    if (← read).connectBy then return some (.prior (← k.expr precPlusMinus)) else return none
  | some "MAP" =>
    if d.mapLiterals && (← peekSym .lBrace) then some <$> mapLiteralExpr k else return none
  | some "CAST" => some <$> castExpr k .cast
  | some "TRY_CAST" => some <$> castExpr k .tryCast
  | some "SAFE_CAST" => some <$> castExpr k .safeCast
  | some "EXISTS" =>
    if d != .databricks || (← peekNth 1).token.isKw "SELECT" || (← peekNth 1).token.isKw "WITH" then
      some <$> existsExpr k false
    else return none
  | some "EXTRACT" => some <$> extractExpr k
  | some "CEIL" => some <$> ceilFloorExpr k "CEIL"
  | some "FLOOR" => some <$> ceilFloorExpr k "FLOOR"
  | some "POSITION" =>
    if (← peekSym .lParen) then
      let p ← optional do
        expectSym .lParen
        let e ← k.expr precBetween
        expectKw "IN"
        let i ← k.expr 0
        expectSym .rParen
        pure (Expr.position e i)
      match p with
      | some e => return some e
      | none => some <$> functionCall k [plain]
    else return none
  | some "SUBSTRING" => some <$> substringExpr k
  | some "OVERLAY" => some <$> overlayExpr k
  | some "TRIM" => some <$> trimExpr k
  | some "INTERVAL" => some <$> intervalExpr k
  | some "ARRAY" =>
    if (← peekSym .lBracket) then
      let _ ← next
      some <$> arrayItems k true
    else if (← peekSym .lParen) && d != .clickhouse && d != .databricks then
      let _ ← next
      let q ← k.query
      expectSym .rParen
      return some (.function [plain] .none (.subquery q) none none none [] false)
    else return none
  | some "NOT" => some <$> notExpr k
  | _ => return none

/-- Calls of methods after the value `e`, in dialects that have them: one or
more `.name(arguments)`. Unless every step is such a call, none is read and
`e` stands alone. -/
def methodCalls (k : Knots) (e : Expr) : Parse Expr := do
  if !(← dialect).methods || !(← peekSym .period) then return e
  let calls ← optional do
    let n ← rounds
    let rec go : Nat → List Expr → Parse (List Expr)
      | 0, acc => return acc.reverse
      | j + 1, acc => do
        if !(← symbol .period) then return acc.reverse
        let t ← next
        match t.token with
        | .word v => go j ((← functionCall k [{ value := v.value, quote := v.quote }]) :: acc)
        | _ => expected "identifier" t
    go n []
  match calls with
  | some (c :: cs) => return .method e (c :: cs)
  | _ => return e

/-- A word that starts no special form: a name, a dotted name, a call (with
the methods called on its value), a lambda of one parameter, or a string
with a character set introducer such as `_utf8'x'`. -/
def unreservedWordPrefix (k : Knots) (w : Word) : Parse Expr := do
  let first : Ident := { value := w.value, quote := w.quote }
  let t ← peek
  match t.token with
  | .sym .period => compoundAccess k (.identifier first) []
  | .sym .lParen =>
    if (← dialect).outerJoinMarks && (← peekNth 1).token == .sym .plus &&
        (← peekNth 2).token == .sym .rParen then
      let _ ← next; let _ ← next; let _ ← next
      return .outerJoin (.identifier first)
    let call ← functionCall k [first]
    let withMethods ← methodCalls k call
    if withMethods.isMethod then return withMethods
    compoundAccess k call []
  | .sym .arrow =>
    if (← dialect).lambdas then
      let _ ← next
      return .lambda [first] false (← k.expr 0)
    else return .identifier first
  | .singleQuoted _ | .doubleQuoted _ | .hex _ =>
    if w.value.startsWith "_" then
      let u ← next
      let v ← match u.token with
        | .singleQuoted s => pure (Value.singleQuoted s)
        | .doubleQuoted s => pure (Value.doubleQuoted s)
        | .hex s => pure (Value.hex s)
        | _ => expected "a string value" u
      return .introduced w.value v
    else return .identifier first
  | _ => return .identifier first

/-- Words that never name a column, so their special form is not given up;
Snowflake lets `INTERVAL` name one. -/
def reservedForIdentifier (d : Dialect) (w : Word) : Bool :=
  match w.keyword with
  | some "INTERVAL" => d != .snowflake
  | some k => ["EXISTS", "STRUCT", "TRIM"].contains k
  | none => false

/-- `e COLLATE name` when a collation follows, else `e`. -/
def withCollate (e : Expr) : Parse Expr := do
  if (← keyword "COLLATE") then return .collate e (renderName (← objectName))
  return e

/-- The call `e` marked as written in an escape `\x7bfn ...\x7d`. -/
def escapeCall : Expr → Expr
  | .function name params args filter nulls window withinGroup _ =>
    .function name params args filter nulls window withinGroup true
  | e => e

/-- The prefix of an expression, at one layer of the reader. -/
def prefixLayer (k : Knots) : Parse Expr := do
  let d ← dialect
  let typed ← optional do
    let (ty, shift) ← k.dataType
    if shift then fail ("unmatched > after parsing data type " ++ ty.text ++ (← peek).token.text)
    match ty with
    | .interval => intervalExpr k
    | .custom _ => fail "dummy"
    | .builtin text => return Expr.typedString text (← literalString)
  if let some e := typed then return e
  let t ← next
  if let .word w := t.token then
    let start ← get
    let special : Option Expr ⊕ ParseError ←
      tryCatch (Sum.inl <$> attempt (reservedWordPrefix k w)) (fun err => pure (Sum.inr err))
    match special with
    | .inl (some e) => return (← withCollate (← methodCalls k e))
    | .inl none => return (← withCollate (← methodCalls k (← unreservedWordPrefix k w)))
    | .inr err =>
      set start
      if reservedForIdentifier d w then throw err
      match (← optional (unreservedWordPrefix k w)) with
      | some e => return e
      | none => throw err
  if t.token == .sym .lParen && d.lambdas && !(← peekKw "SELECT") && !(← peekKw "WITH") then
    let lam ← optional do
      let params ← listOf ident
      expectSym .rParen
      expectSym .arrow
      pure (Expr.lambda params true (← k.expr 0))
    if let some e := lam then return e
  let e ← match t.token with
    | .sym .minus => pure (.unary "-" (← k.expr precMulDiv))
    | .sym .plus => pure (.unary "+" (← k.expr precMulDiv))
    | .sym .doubleBang =>
      if d == .postgresql then pure (.unary "!!" (← k.expr precPlusMinus))
      else expected "an expression" t
    | .sym .squareRoot =>
      if d == .postgresql then pure (.unary "|/" (← k.expr precPlusMinus))
      else expected "an expression" t
    | .sym .cubeRoot =>
      if d == .postgresql then pure (.unary "||/" (← k.expr precPlusMinus))
      else expected "an expression" t
    | .sym .tilde =>
      if d == .postgresql then pure (.unary "~" (← k.expr precPlusMinus))
      else expected "an expression" t
    | .sym .atSign =>
      if d == .postgresql then pure (.unary "@" (← k.expr precPlusMinus))
      else do
        back
        pure (.value (← value))
    | .escaped _ =>
      if d == .postgresql || d == .generic then do
        back
        pure (.value (← value))
      else expected "an expression" t
    | .number _ _ | .singleQuoted _ | .doubleQuoted _ | .dollarQuoted _ _ | .bytes _ _
    | .raw _ _ | .tripleQuoted _ _ _ | .national _ | .hex _ | .unicode _ | .placeholder _
    | .sym .colon => do
      back
      pure (.value (← value))
    | .sym .lBracket => arrayItems k false
    | .sym .bang =>
      if d.bangNot then pure (.unary "!" (← k.expr precNot))
      else expected "an expression" t
    | .sym .lBrace => do
      let call ← optional do
        expectKw "FN"
        functionCall k (← objectName)
      match call with
      | some c =>
        expectSym .rBrace
        pure (escapeCall c)
      | none =>
        if d.dictionaryLiterals then do
          back
          dictionaryExpr k
        else expected "an expression" t
    | .sym .lParen => do
      let inner ←
        if (← peekKw "SELECT") || (← peekKw "WITH") then
          Expr.subquery <$> k.query
        else do
          match (← listOf (k.expr 0)) with
          | [e] => pure (Expr.nested e)
          | es => pure (Expr.tuple es)
      expectSym .rParen
      let withMethods ← methodCalls k inner
      if withMethods.isMethod then pure withMethods
      else if (← symbol .period) then
        let u ← next
        match u.token with
        | .word v => pure (.composite inner { value := v.value, quote := v.quote })
        | _ => fail ("Expected identifier, found: " ++ u.token.text ++ u.suffix)
      else pure inner
    | _ => expected "an expression" t
  withCollate (← methodCalls k e)

/-- `e [NOT] IN (...)` after `IN`. -/
def inExpr (k : Knots) (e : Expr) (negated : Bool) : Parse Expr := do
  if (← keyword "UNNEST") then
    expectSym .lParen
    let a ← k.expr 0
    expectSym .rParen
    return .inUnnest e a negated
  expectSym .lParen
  let r ←
    if (← peekKw "SELECT") || (← peekKw "WITH") then
      pure (Expr.inSubquery e (← k.query) negated)
    else do
      let d ← dialect
      let items ← if d == .generic || d == .sqlite then listOf0 (k.expr 0) .rParen
        else listOf (k.expr 0)
      pure (Expr.inList e items negated)
  expectSym .rParen
  return r

/-- An optional `ESCAPE 'c'` after a pattern. -/
def escapeChar : Parse (Option String) := do
  if (← keyword "ESCAPE") then some <$> literalString else pure none

/-- A key of a path into a semi-structured value: a word, bare or in double
quotes. -/
def pathKey : Parse PathStep := do
  let t ← next
  match t.token with
  | .word w =>
    if w.quote.isNone || w.quote == some '"' then return .key w.value w.quote.isSome
    else expected "variant object key name" t
  | .doubleQuoted s => return .key s true
  | _ => expected "variant object key name" t

/-- The steps of a path into a semi-structured value: a first key after a
colon, then keys after periods and expressions in brackets. -/
def pathSteps (k : Knots) : Nat → List PathStep → Parse (List PathStep)
  | 0, acc => return acc.reverse
  | j + 1, acc => do
    let t ← next
    match t.token with
    | .sym .colon =>
      if acc.isEmpty then pathSteps k j ((← pathKey) :: acc)
      else do back; return acc.reverse
    | .sym .period =>
      if acc.isEmpty then do back; return acc.reverse
      else pathSteps k j ((← pathKey) :: acc)
    | .sym .lBracket =>
      let e ← k.expr 0
      expectSym .rBracket
      pathSteps k j (.bracket e :: acc)
    | _ => do back; return acc.reverse

/-- Further keys of a map access after the first: each in brackets, or in
BigQuery after a period. -/
def mapKeys (k : Knots) : Nat → List Access → Parse (List Access)
  | 0, acc => return acc.reverse
  | j + 1, acc => do
    if (← symbol .lBracket) then
      let i ← k.expr 0
      expectSym .rBracket
      mapKeys k j (.index i :: acc)
    else if (← given ((← dialect) == .bigquery) (symbol .period)) then
      mapKeys k j (.field (← k.expr 0) :: acc)
    else return acc.reverse

/-- The infix operator that comes next, applied to `e`; `prec` is the
operator's binding strength. -/
def infixExpr (k : Knots) (e : Expr) (prec : Nat) : Parse Expr := do
  let d ← dialect
  let t ← next
  match binaryOperator d t.token with
  | some op =>
    match (← oneOf ["ANY", "ALL", "SOME"]) with
    | some quant =>
      expectSym .lParen
      let right ←
        if (← peekKw "SELECT") || (← peekKw "WITH") then do
          back
          k.expr prec
        else do
          let r ← k.expr prec
          expectSym .rParen
          pure r
      if !(["=", ">", "<", ">=", "<=", "<>"].contains op) then
        fail ("Expected one of [=, >, <, =>, =<, !=] as comparison operator, found: " ++ op ++
          t.suffix)
      return .quantified e op quant right
    | none => return .binary e op (← k.expr prec)
  | none =>
    match t.token with
    | .word w =>
      match w.keyword with
      | some "IS" =>
        if (← keyword "NULL") then return .isTest e "NULL"
        if (← keywords ["NOT", "NULL"]) then return .isTest e "NOT NULL"
        if (← keyword "TRUE") then return .isTest e "TRUE"
        if (← keywords ["NOT", "TRUE"]) then return .isTest e "NOT TRUE"
        if (← keyword "FALSE") then return .isTest e "FALSE"
        if (← keywords ["NOT", "FALSE"]) then return .isTest e "NOT FALSE"
        if (← keyword "UNKNOWN") then return .isTest e "UNKNOWN"
        if (← keywords ["NOT", "UNKNOWN"]) then return .isTest e "NOT UNKNOWN"
        if (← keywords ["DISTINCT", "FROM"]) then return .isDistinctFrom e false (← k.expr 0)
        if (← keywords ["NOT", "DISTINCT", "FROM"]) then
          return .isDistinctFrom e true (← k.expr 0)
        let normalized ← optional do
          let negated ← keyword "NOT"
          let form ← oneOf ["NFC", "NFD", "NFKC", "NFKD"]
          expectKw "NORMALIZED"
          pure (negated, form)
        match normalized with
        | some (negated, form) =>
          let test := (if negated then "NOT " else "") ++
            (match form with | some f => f ++ " " | none => "") ++ "NORMALIZED"
          return .isTest e test
        | none =>
          expected "[NOT] NULL | TRUE | FALSE | DISTINCT | [form] NORMALIZED FROM after IS"
            (← peek)
      | some "AT" =>
        expectKws ["TIME", "ZONE"]
        return .atTimeZone e (← k.expr prec)
      | some "NOT" | some "IN" | some "BETWEEN" | some "LIKE" | some "ILIKE" | some "SIMILAR"
      | some "REGEXP" | some "RLIKE" =>
        back
        let negated ← keyword "NOT"
        let regexp ← keyword "REGEXP"
        let rlike ← keyword "RLIKE"
        if regexp || rlike then
          return .rlike negated e (← k.expr precLike) regexp
        if (← keyword "IN") then return (← inExpr k e negated)
        if (← keyword "BETWEEN") then
          let lo ← k.expr precBetween
          expectKw "AND"
          let hi ← k.expr precBetween
          return .between e negated lo hi
        if (← keyword "LIKE") then
          let any ← keyword "ANY"
          let p ← k.expr precLike
          return .like "LIKE" negated any e p (← escapeChar)
        if (← keyword "ILIKE") then
          let any ← keyword "ANY"
          let p ← k.expr precLike
          return .like "ILIKE" negated any e p (← escapeChar)
        if (← keywords ["SIMILAR", "TO"]) then
          let p ← k.expr precLike
          return .like "SIMILAR TO" negated false e p (← escapeChar)
        expected "IN or BETWEEN after NOT" (← peek)
      | some "DIV" =>
        if d == .mysql then return .binary e "DIV" (← k.expr 0)
        fail ("No infix parser for token " ++ tokenKindName t.token ++ t.suffix)
      | some "OPERATOR" =>
        if d != .postgresql && d != .generic then
          fail ("No infix parser for token " ++ tokenKindName t.token ++ t.suffix)
        expectSym .lParen
        let n ← rounds
        let rec parts : Nat → List String → Parse (List String)
          | 0, acc => return acc.reverse
          | j + 1, acc => do
            let p := (← next).token.text
            if (← symbol .period) then parts j (p :: acc) else return (p :: acc).reverse
        let names ← parts n []
        expectSym .rParen
        return .binary e ("OPERATOR(" ++ ".".intercalate names ++ ")") (← k.expr prec)
      | _ => fail ("No infix parser for token " ++ tokenKindName t.token ++ t.suffix)
    | .sym .doubleColon =>
      let (ty, shift) ← k.dataType
      if shift then fail ("unmatched > after parsing data type " ++ ty.text ++ (← peek).token.text)
      return .cast .doubleColon e ty.text none
    | .sym .bang =>
      if d == .postgresql then return .postOp e "!"
      fail ("No infix parser for token " ++ tokenKindName t.token ++ t.suffix)
    | .sym .lBracket =>
      if d.arraySubscript then
        back
        return (← compoundAccess k e (← subscripts k (← rounds) []))
      if d == .snowflake || d == .redshift then
        back
        return .pathAccess e (← pathSteps k (← rounds) [])
      let i ← k.expr 0
      expectSym .rBracket
      return .access e (.index i :: (← mapKeys k (← rounds) []))
    | .sym .colon =>
      back
      return .pathAccess e (← pathSteps k (← rounds) [])
    | _ => fail ("No infix parser for token " ++ tokenKindName t.token ++ t.suffix)

/-- An expression whose operators bind tighter than `prec`, at one layer of
the reader: one nesting level more. -/
def exprLayer (k : Knots) (prec : Nat) : Parse Expr := nested do
  let e ← prefixLayer k
  let n ← rounds
  let rec climb : Nat → Expr → Parse Expr
    | 0, e => return e
    | j + 1, e => do
      let p ← nextPrecedence
      if prec ≥ p then return e
      climb j (← infixExpr k e p)
  climb n e

end Parse

end ColumnLineage.Sql
