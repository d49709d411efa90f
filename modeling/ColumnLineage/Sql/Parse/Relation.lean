import ColumnLineage.Sql.Parse.Expr
/-
ColumnLineage/Sql/Parse/Relation.lean

Table references whose rows come from something other than a named table:
`JSON_TABLE` and `OPENJSON`, which lay a JSON document out as rows, and
`MATCH_RECOGNIZE`, which finds runs of rows in a table that match a pattern.

None of them names a table whose columns a query could resolve, so they are
kept as text, in the canonical form in which they are shown. Each reader here
stops before the alias; the FROM clause reads that.
-/

namespace ColumnLineage.Sql

namespace Parse

/-- What a `JSON_TABLE` column yields when its path finds nothing or fails:
`NULL`, `ERROR` or `DEFAULT` a value, always followed by `ON`. -/
def jsonErrorHandling : Parse (Option String) := do
  let handling ← do
    if (← keyword "NULL") then pure (some "NULL")
    else if (← keyword "ERROR") then pure (some "ERROR")
    else if (← keyword "DEFAULT") then pure (some ("DEFAULT " ++ (← value).render))
    else pure none
  if handling.isSome then expectKw "ON"
  return handling

/-- The `ON EMPTY` and `ON ERROR` clauses of a `JSON_TABLE` column; a later
clause of the same kind replaces an earlier one. -/
def jsonErrorClauses : Nat → Option String → Option String → Parse String
  | 0, onEmpty, onError => return render onEmpty onError
  | j + 1, onEmpty, onError => do
    match (← jsonErrorHandling) with
    | none => return render onEmpty onError
    | some h =>
      if (← keyword "EMPTY") then jsonErrorClauses j (some h) onError
      else
        expectKw "ERROR"
        jsonErrorClauses j onEmpty (some h)
where
  render (onEmpty onError : Option String) : String :=
    (match onEmpty with | some h => " " ++ h ++ " ON EMPTY" | none => "") ++
    (match onError with | some h => " " ++ h ++ " ON ERROR" | none => "")

/-- The columns of a `JSON_TABLE`: a `NESTED` path with columns of its own,
a name `FOR ORDINALITY`, or a name, a type and the `PATH` it is read from.
Nested column lists take `fuel`. -/
def jsonTableColumns (k : Knots) : Nat → Parse (List String)
  | 0 => throw .tooDeep
  | fuel + 1 => listOf do
    if (← keyword "NESTED") then
      let _ ← keyword "PATH"
      let path ← value
      expectKw "COLUMNS"
      expectSym .lParen
      let cols ← jsonTableColumns k fuel
      expectSym .rParen
      return "NESTED PATH " ++ path.render ++ " COLUMNS (" ++ commaList cols ++ ")"
    let name ← ident
    if (← keyword "FOR") then
      expectKw "ORDINALITY"
      return name.render ++ " FOR ORDINALITY"
    let ty ← dataTypeText k
    let exists_ ← keyword "EXISTS"
    expectKw "PATH"
    let path ← value
    let clauses ← jsonErrorClauses (← rounds) none none
    return name.render ++ " " ++ ty ++ (if exists_ then " EXISTS" else "") ++ " PATH " ++
      path.render ++ clauses

/-- `JSON_TABLE(...)` after the keyword and its parenthesis: the document,
its path and the columns read from it. -/
def jsonTable (k : Knots) : Parse String := do
  let doc ← k.expr 0
  expectSym .comma
  let path ← value
  expectKw "COLUMNS"
  expectSym .lParen
  let cols ← jsonTableColumns k (← rounds)
  expectSym .rParen
  expectSym .rParen
  return "JSON_TABLE(" ++ doc.render ++ ", " ++ path.render ++ " COLUMNS(" ++
    commaList cols ++ "))"

/-- A column of `OPENJSON ... WITH (...)`: a name, a type, an optional path
string and an optional `AS JSON`. -/
def openJsonColumn (k : Knots) : Parse String := do
  let name ← ident
  let ty ← dataTypeText k
  let path ←
    match (← peek).token with
    | .singleQuoted s =>
      let _ ← next
      pure (" " ++ Value.render (.singleQuoted s))
    | _ => pure ""
  let asJson ← keyword "AS"
  if asJson then expectKw "JSON"
  return name.render ++ " " ++ ty ++ path ++ (if asJson then " AS JSON" else "")

/-- `OPENJSON(...)` after the keyword: the document, an optional path, and
the columns of an optional `WITH` list. -/
def openJson (k : Knots) : Parse String := do
  expectSym .lParen
  let doc ← k.expr 0
  let path ← if (← symbol .comma) then (fun v => ", " ++ Value.render v) <$> value else pure ""
  expectSym .rParen
  let cols ←
    if (← keyword "WITH") then do
      expectSym .lParen
      let cols ← listOf (openJsonColumn k)
      expectSym .rParen
      pure cols
    else pure []
  return "OPENJSON(" ++ doc.render ++ path ++ ")" ++
    (if cols.isEmpty then "" else " WITH (" ++ commaList cols ++ ")")

/-- A quantifier in braces after its `\x7b`: `\x7bn\x7d`, `\x7bn,\x7d`,
`\x7b,m\x7d` or `\x7bn,m\x7d`, each bound below 2^32. -/
def braceQuantifier : Parse String := do
  let bound (digits : String) (at_ : Found) : Parse String := toString <$> count32 digits at_
  let t ← next
  match t.token with
  | .sym .comma =>
    let u ← next
    match u.token with
    | .number m _ =>
      expectSym .rBrace
      return "\x7b," ++ (← bound m t) ++ "\x7d"
    | _ => expected "literal number" u
  | .number n _ =>
    if (← symbol .comma) then
      let u ← next
      match u.token with
      | .number m _ =>
        expectSym .rBrace
        let lo ← bound n t
        let hi ← bound m t
        return "\x7b" ++ lo ++ "," ++ hi ++ "\x7d"
      | .sym .rBrace => return "\x7b" ++ (← bound n t) ++ ",\x7d"
      | _ => expected "\x7d or upper bound" u
    else
      expectSym .rBrace
      return "\x7b" ++ (← bound n t) ++ "\x7d"
  | _ => expected "quantifier range" t

/-- The quantifiers after a pattern: `*`, `+`, `?` or a range in braces, any
number of them. -/
def quantifiers : Nat → String → Parse String
  | 0, p => return p
  | j + 1, p => do
    let t ← next
    match t.token with
    | .sym .mul => quantifiers j (p ++ "*")
    | .sym .plus => quantifiers j (p ++ "+")
    | .placeholder "?" => quantifiers j (p ++ "?")
    | .sym .lBrace => quantifiers j (p ++ (← braceQuantifier))
    | _ =>
      back
      return p

/-- A pattern that is no sequence or choice: the start `^` or end `$` of
the partition, an excluded `\x7b- symbol -\x7d`, `PERMUTE` of symbols, a group
in parentheses read by `inner`, or a symbol. -/
def basePattern (inner : Parse String) : Parse String := do
  let t ← next
  match t.token with
  | .sym .caret => return "^"
  | .placeholder "$" => return "$"
  | .sym .lBrace =>
    expectSym .minus
    let s ← ident
    expectSym .minus
    expectSym .rBrace
    return "\x7b- " ++ s.render ++ " -\x7d"
  | .sym .lParen =>
    let p ← inner
    expectSym .rParen
    return "( " ++ p ++ " )"
  | .word w =>
    if w.quote.isNone && w.value == "PERMUTE" then
      expectSym .lParen
      let syms ← listOf ident
      expectSym .rParen
      return "PERMUTE(" ++ commaList (syms.map Ident.render) ++ ")"
    back
    return (← ident).render
  | _ =>
    back
    return (← ident).render

/-- A row pattern of `MATCH_RECOGNIZE`: choices separated by `|`, each a
sequence of quantified base patterns running to `)` or `|`. A group nests
a pattern of its own, which takes `fuel`. -/
def rowPattern : Nat → Parse String
  | 0 => throw .tooDeep
  | fuel + 1 => do
    let inner := rowPattern fuel
    let repeated : Parse String := do quantifiers (← rounds) (← basePattern inner)
    let rec sequence : Nat → List String → Parse String
      | 0, acc => return " ".intercalate acc.reverse
      | j + 1, acc => do
        let t ← peek
        if t.token == .sym .rParen || t.token == .sym .pipe then
          return " ".intercalate acc.reverse
        sequence j ((← repeated) :: acc)
    let rec choices : Nat → List String → Parse String
      | 0, acc => return " | ".intercalate acc.reverse
      | j + 1, acc => do
        let first ← repeated
        let s ← sequence (← rounds) [first]
        if (← symbol .pipe) then choices j (s :: acc)
        else return " | ".intercalate (s :: acc).reverse
    choices (← rounds) []

/-- `MATCH_RECOGNIZE(...)` after the keyword, applied to `table`: how rows
are partitioned and ordered, the measures, how many rows a match yields,
where the next match starts, the pattern and its symbols' definitions. -/
def matchRecognize (k : Knots) (table : TableFactor) : Parse String := do
  expectSym .lParen
  let partition ←
    if (← keywords ["PARTITION", "BY"]) then
      (fun es => "PARTITION BY " ++ Expr.renderList es ++ " ") <$> listOf (k.expr 0)
    else pure ""
  let order ←
    if (← keywords ["ORDER", "BY"]) then
      (fun os => "ORDER BY " ++ OrderItem.renderList os ++ " ") <$> listOf (orderItem k)
    else pure ""
  let measures ←
    if (← keyword "MEASURES") then do
      let ms ← listOf do
        let e ← k.expr 0
        let _ ← keyword "AS"
        let a ← ident
        return e.render ++ " AS " ++ a.render
      pure ("MEASURES " ++ commaList ms ++ " ")
    else pure ""
  let rows ← do
    if (← keywords ["ONE", "ROW", "PER", "MATCH"]) then pure "ONE ROW PER MATCH "
    else if (← keywords ["ALL", "ROWS", "PER", "MATCH"]) then
      if (← keywords ["SHOW", "EMPTY", "MATCHES"]) then
        pure "ALL ROWS PER MATCH SHOW EMPTY MATCHES "
      else if (← keywords ["OMIT", "EMPTY", "MATCHES"]) then
        pure "ALL ROWS PER MATCH OMIT EMPTY MATCHES "
      else if (← keywords ["WITH", "UNMATCHED", "ROWS"]) then
        pure "ALL ROWS PER MATCH WITH UNMATCHED ROWS "
      else pure "ALL ROWS PER MATCH "
    else pure ""
  let skip ← do
    if (← keywords ["AFTER", "MATCH", "SKIP"]) then
      if (← keywords ["PAST", "LAST", "ROW"]) then pure "AFTER MATCH SKIP PAST LAST ROW "
      else if (← keywords ["TO", "NEXT", "ROW"]) then pure "AFTER MATCH SKIP TO NEXT ROW "
      else if (← keywords ["TO", "FIRST"]) then
        pure ("AFTER MATCH SKIP TO FIRST " ++ (← ident).render ++ " ")
      else if (← keywords ["TO", "LAST"]) then
        pure ("AFTER MATCH SKIP TO LAST " ++ (← ident).render ++ " ")
      else expected "after match skip option" (← next)
    else pure ""
  expectKw "PATTERN"
  expectSym .lParen
  let pattern ← rowPattern (← rounds)
  expectSym .rParen
  expectKw "DEFINE"
  let symbols ← listOf do
    let s ← ident
    expectKw "AS"
    let e ← k.expr 0
    return s.render ++ " AS " ++ e.render
  expectSym .rParen
  return table.render ++ " MATCH_RECOGNIZE(" ++ partition ++ order ++ measures ++ rows ++ skip ++
    "PATTERN (" ++ pattern ++ ") DEFINE " ++ commaList symbols ++ ")"

end Parse

end ColumnLineage.Sql
