import ColumnLineage.Sql.Parse.Column
/-
ColumnLineage/Sql/Parse/DataType.lean

Reading data types, as they appear in casts, typed literals and column
definitions. A type is kept as its canonical text: the keyword in upper case,
then its length, precision or element types in parentheses or angle brackets.
A name that is no type keyword is a user type, written as it was named with
any modifiers.

Angle brackets nest (`ARRAY<ARRAY<INT>>`), and the tokenizer reads the two
closing brackets as one shift token; the reader then reports that the inner
type consumed the first half of it, so the outer type takes the shift as its
own closing bracket.
-/

namespace ColumnLineage.Sql

namespace Parse

/-- An optional precision in parentheses, `(n)`. -/
def optPrecision : Parse (Option Nat) := do
  if (← symbol .lParen) then
    let n ← literalNat
    expectSym .rParen
    return some n
  else return none

/-- `name`, or `name(n)` with the precision. -/
def withPrecision (name : String) (p : Option Nat) : String :=
  match p with
  | some n => name ++ "(" ++ toString n ++ ")"
  | none => name

/-- An integer type, `name[(n)] [UNSIGNED]`. -/
def integerType (name : String) : Parse String := do
  let p ← optPrecision
  if (← keyword "UNSIGNED") then return withPrecision name p ++ " UNSIGNED"
  return withPrecision name p

/-- A character length in parentheses: `MAX`, or a number with an optional
unit. -/
def optCharLength : Parse (Option String) := do
  if (← symbol .lParen) then
    let len ←
      if (← keyword "MAX") then pure "MAX"
      else do
        let n ← literalNat
        if (← keyword "CHARACTERS") then pure (toString n ++ " CHARACTERS")
        else if (← keyword "OCTETS") then pure (toString n ++ " OCTETS")
        else pure (toString n)
    expectSym .rParen
    return some len
  else return none

/-- A binary length in parentheses: `MAX` or a number. -/
def optBinaryLength : Parse (Option String) := do
  if (← symbol .lParen) then
    let len ← if (← keyword "MAX") then pure "MAX" else toString <$> literalNat
    expectSym .rParen
    return some len
  else return none

/-- `name`, or `name(length)`. -/
def withLength (name : String) : Option String → String
  | some l => name ++ "(" ++ l ++ ")"
  | none => name

/-- The precision and scale of an exact number type: none, `(p)` or `(p,s)`. -/
def exactNumber (name : String) : Parse String := do
  if (← symbol .lParen) then
    let p ← literalNat
    let s ← if (← symbol .comma) then some <$> literalNat else pure none
    expectSym .rParen
    match s with
    | some s => return name ++ "(" ++ toString p ++ "," ++ toString s ++ ")"
    | none => return name ++ "(" ++ toString p ++ ")"
  else return name

/-- A time type with optional precision and time zone. -/
def timeType (name : String) : Parse String := do
  let p ← optPrecision
  let zone ← do
    if (← keyword "WITH") then do
      expectKws ["TIME", "ZONE"]
      pure " WITH TIME ZONE"
    else if (← keyword "WITHOUT") then do
      expectKws ["TIME", "ZONE"]
      pure " WITHOUT TIME ZONE"
    else pure ""
  return withPrecision name p ++ zone

/-- Quoted strings in parentheses, as `('a', 'b')`. -/
def stringValues : Parse String := do
  expectSym .lParen
  let n ← rounds
  let rec go : Nat → List String → Parse (List String)
    | 0, acc => return acc.reverse
    | k + 1, acc => do
      let t ← next
      let s ← match t.token with
        | .singleQuoted s => pure s
        | _ => expected "a string" t
      let u ← next
      match u.token with
      | .sym .comma => go k (s :: acc)
      | .sym .rParen => return (s :: acc).reverse
      | _ => expected ", or \x7d" u
  let vs ← go n []
  return "(" ++ commaList (vs.map fun v => "'" ++ Text.doubleQuotes '\'' v ++ "'") ++ ")"

/-- The members of an enumeration: strings, each with an optional value. -/
def enumValues : Parse String := do
  expectSym .lParen
  let members ← listOf do
    let name ← literalString
    if (← symbol .eq) then
      pure ("'" ++ Text.doubleQuotes '\'' name ++ "' = " ++ (← signedNumber))
    else pure ("'" ++ Text.doubleQuotes '\'' name ++ "'")
  expectSym .rParen
  return "(" ++ commaList members ++ ")"

/-- Modifiers of a user type in parentheses: words, numbers and strings. -/
def typeModifiers : Parse (List String) := do
  let n ← rounds
  let rec go : Nat → List String → Parse (List String)
    | 0, acc => return acc.reverse
    | k + 1, acc => do
      let t ← next
      match t.token with
      | .word w => go k (w.text :: acc)
      | .number d _ => go k (d :: acc)
      | .singleQuoted s => go k (s :: acc)
      | .sym .comma => go k acc
      | .sym .rParen => return acc.reverse
      | _ => expected "type modifiers" t
  go n []

/-- A user type: a name, with modifiers in parentheses if they follow. -/
def customType : Parse (SqlType × Bool) := do
  let name ← objectName
  let mods ← if (← symbol .lParen) then typeModifiers else pure []
  let text := match mods with
    | [] => renderName name
    | ms => renderName name ++ "(" ++ ", ".intercalate ms ++ ")"
  return (.custom text, false)

/-- Closes an angle bracket, unless the inner type already took a shift
token; answers whether this close took a shift, leaving one bracket open
for the enclosing type. -/
def closeAngle (innerTookShift : Bool) : Parse Bool := do
  if innerTookShift then return false
  let t ← peek
  match t.token with
  | .sym .gt =>
    let _ ← next
    return false
  | .sym .shiftRight =>
    let _ ← next
    return true
  | _ => expected ">" t

/-- The fields of a STRUCT type after its opening bracket, each with an
optional name, and whether the last one took a shift token. -/
def structFields (k : Knots) (start : Found) : Nat → List String → Parse (List String × Bool)
  | 0, acc => return (acc.reverse, false)
  | j + 1, acc => do
    let named := match (← peek).token, (← peekNth 1).token with
      | .word _, .word _ => true
      | _, _ => false
    let name ← if named then some <$> ident else pure none
    let (fty, fshift) ← k.dataType
    let text := match name with
      | some i => i.render ++ " " ++ fty.text
      | none => fty.text
    if (← symbol .comma) then
      if fshift then fail ("unmatched > in STRUCT definition" ++ start.suffix)
      structFields k start j (text :: acc)
    else return ((text :: acc).reverse, fshift)

/-- A data type, at one layer of the reader. -/
def dataTypeLayer (k : Knots) : Parse (SqlType × Bool) := do
  let d ← dialect
  let t ← next
  let inner : Parse SqlType := do
    let (ty, shift) ← k.dataType
    if shift then fail ("unmatched > after parsing data type " ++ ty.text ++ (← peek).token.text)
    return ty
  let (ty, shift) ← match t.token with
    | .word w =>
      let simple (s : String) : Parse (SqlType × Bool) := pure (.builtin s, false)
      let built (p : Parse String) : Parse (SqlType × Bool) := do
        return (.builtin (← p), false)
      match w.keyword with
      | some "BOOLEAN" => simple "BOOLEAN"
      | some "BOOL" => simple "BOOL"
      | some "FLOAT" => built (withPrecision "FLOAT" <$> optPrecision)
      | some "REAL" => simple "REAL"
      | some "FLOAT4" => simple "FLOAT4"
      | some "FLOAT32" => simple "Float32"
      | some "FLOAT64" => simple "FLOAT64"
      | some "FLOAT8" => simple "FLOAT8"
      | some "DOUBLE" =>
        if (← keyword "PRECISION") then simple "DOUBLE PRECISION" else built (exactNumber "DOUBLE")
      | some "TINYINT" => built (integerType "TINYINT")
      | some "INT2" => built (integerType "INT2")
      | some "SMALLINT" => built (integerType "SMALLINT")
      | some "MEDIUMINT" => built (integerType "MEDIUMINT")
      | some "INT" => built (integerType "INT")
      | some "INT4" => built (integerType "INT4")
      | some "INT8" => built (integerType "INT8")
      | some "INT16" => simple "Int16"
      | some "INT32" => simple "Int32"
      | some "INT64" => simple "INT64"
      | some "INT128" => simple "Int128"
      | some "INT256" => simple "Int256"
      | some "INTEGER" => built (integerType "INTEGER")
      | some "BIGINT" => built (integerType "BIGINT")
      | some "UINT8" => simple "UInt8"
      | some "UINT16" => simple "UInt16"
      | some "UINT32" => simple "UInt32"
      | some "UINT64" => simple "UInt64"
      | some "UINT128" => simple "UInt128"
      | some "UINT256" => simple "UInt256"
      | some "VARCHAR" => built (withLength "VARCHAR" <$> optCharLength)
      | some "NVARCHAR" => built (withLength "NVARCHAR" <$> optCharLength)
      | some "CHARACTER" =>
        if (← keyword "VARYING") then built (withLength "CHARACTER VARYING" <$> optCharLength)
        else if (← keywords ["LARGE", "OBJECT"]) then
          built (withPrecision "CHARACTER LARGE OBJECT" <$> optPrecision)
        else built (withLength "CHARACTER" <$> optCharLength)
      | some "CHAR" =>
        if (← keyword "VARYING") then built (withLength "CHAR VARYING" <$> optCharLength)
        else if (← keywords ["LARGE", "OBJECT"]) then
          built (withPrecision "CHAR LARGE OBJECT" <$> optPrecision)
        else built (withLength "CHAR" <$> optCharLength)
      | some "CLOB" => built (withPrecision "CLOB" <$> optPrecision)
      | some "BINARY" => built (withPrecision "BINARY" <$> optPrecision)
      | some "VARBINARY" => built (withLength "VARBINARY" <$> optBinaryLength)
      | some "BLOB" => built (withPrecision "BLOB" <$> optPrecision)
      | some "TINYBLOB" => simple "TINYBLOB"
      | some "MEDIUMBLOB" => simple "MEDIUMBLOB"
      | some "LONGBLOB" => simple "LONGBLOB"
      | some "BYTES" => built (withPrecision "BYTES" <$> optPrecision)
      | some "BIT" =>
        if (← keyword "VARYING") then built (withPrecision "BIT VARYING" <$> optPrecision)
        else built (withPrecision "BIT" <$> optPrecision)
      | some "UUID" => simple "UUID"
      | some "DATE" => simple "DATE"
      | some "DATE32" => simple "Date32"
      | some "DATETIME" => built (withPrecision "DATETIME" <$> optPrecision)
      | some "DATETIME64" => built do
        expectSym .lParen
        let p ← literalNat
        let zone ← if (← symbol .comma) then some <$> literalString else pure none
        expectSym .rParen
        match zone with
        | some z => pure ("DateTime64(" ++ toString p ++ ", '" ++ z ++ "')")
        | none => pure ("DateTime64(" ++ toString p ++ ")")
      | some "TIMESTAMP" => built (timeType "TIMESTAMP")
      | some "TIMESTAMPTZ" => built do
        let p ← optPrecision
        pure ("TIMESTAMPTZ" ++ (match p with | some n => "(" ++ toString n ++ ")" | none => ""))
      | some "TIME" => built (timeType "TIME")
      | some "TIMETZ" => built do
        let p ← optPrecision
        pure ("TIMETZ" ++ (match p with | some n => "(" ++ toString n ++ ")" | none => ""))
      | some "INTERVAL" => pure (.interval, false)
      | some "JSON" => simple "JSON"
      | some "JSONB" => simple "JSONB"
      | some "REGCLASS" => simple "REGCLASS"
      | some "STRING" => built (withPrecision "STRING" <$> optPrecision)
      | some "FIXEDSTRING" => built do
        expectSym .lParen
        let n ← literalNat
        expectSym .rParen
        pure ("FixedString(" ++ toString n ++ ")")
      | some "TEXT" => simple "TEXT"
      | some "TINYTEXT" => simple "TINYTEXT"
      | some "MEDIUMTEXT" => simple "MEDIUMTEXT"
      | some "LONGTEXT" => simple "LONGTEXT"
      | some "BYTEA" => simple "BYTEA"
      | some "NUMERIC" => built (exactNumber "NUMERIC")
      | some "DECIMAL" => built (exactNumber "DECIMAL")
      | some "DEC" => built (exactNumber "DEC")
      | some "BIGNUMERIC" => built (exactNumber "BIGNUMERIC")
      | some "BIGDECIMAL" => built (exactNumber "BIGDECIMAL")
      | some "ENUM" => built (("ENUM" ++ ·) <$> enumValues)
      | some "ENUM8" => built (("ENUM8" ++ ·) <$> enumValues)
      | some "ENUM16" => built (("ENUM16" ++ ·) <$> enumValues)
      | some "SET" => built (("SET" ++ ·) <$> stringValues)
      | some "ARRAY" =>
        match d with
        | .snowflake => simple "ARRAY"
        | .clickhouse => built do
          expectSym .lParen
          let e ← inner
          expectSym .rParen
          pure ("Array(" ++ e.text ++ ")")
        | _ => do
          expectSym .lt
          let (e, innerShift) ← k.dataType
          let shift ← closeAngle innerShift
          pure (.builtin ("ARRAY<" ++ e.text ++ ">"), shift)
      | some "STRUCT" =>
        match d with
        | .bigquery | .generic => do
          if !(← peekSym .lt) then simple "STRUCT"
          else
            let _ ← next
            let (fs, lastShift) ← structFields k t (← rounds) []
            let shift ← closeAngle lastShift
            pure (.builtin ("STRUCT<" ++ commaList fs ++ ">"), shift)
        | .duckdb => built do
          expectSym .lParen
          let fields ← listOf do
            let name ← ident
            let ty ← inner
            pure (name.render ++ " " ++ ty.text)
          expectSym .rParen
          pure ("STRUCT(" ++ commaList fields ++ ")")
        | _ => do
          back
          customType
      | some "TUPLE" =>
        match d with
        | .clickhouse | .generic => built do
          expectSym .lParen
          let fields ← listOf do
            let named := match (← peek).token, (← peekNth 1).token with
              | .word _, .word _ => true
              | _, _ => false
            let name ← if named then some <$> ident else pure none
            let (ty, _) ← k.dataType
            pure (match name with
              | some i => i.render ++ " " ++ ty.text
              | none => ty.text)
          expectSym .rParen
          pure ("Tuple(" ++ commaList fields ++ ")")
        | _ => do
          back
          customType
      | some "NULLABLE" =>
        match d with
        | .clickhouse | .generic => built do
          expectSym .lParen
          let e ← inner
          expectSym .rParen
          pure ("Nullable(" ++ e.text ++ ")")
        | _ => do
          back
          customType
      | some "LOWCARDINALITY" =>
        match d with
        | .clickhouse | .generic => built do
          expectSym .lParen
          let e ← inner
          expectSym .rParen
          pure ("LowCardinality(" ++ e.text ++ ")")
        | _ => do
          back
          customType
      | some "MAP" =>
        match d with
        | .clickhouse | .generic => built do
          expectSym .lParen
          let key ← inner
          expectSym .comma
          let val ← inner
          expectSym .rParen
          pure ("Map(" ++ key.text ++ ", " ++ val.text ++ ")")
        | _ => do
          back
          customType
      | some "TRIGGER" => simple "TRIGGER"
      | some "ANY" =>
        if (← peekKw "TYPE") then
          let _ ← next
          simple "ANY TYPE"
        else do
          back
          customType
      | some "UNION" =>
        match d with
        | .duckdb | .generic => built do
          expectSym .lParen
          let fields ← listOf do
            let name ← ident
            let ty ← inner
            pure (name.render ++ " " ++ ty.text)
          expectSym .rParen
          pure ("UNION(" ++ commaList fields ++ ")")
        | _ => do
          back
          customType
      | some "NESTED" =>
        match d with
        | .clickhouse | .generic => built do
          expectSym .lParen
          let fields ← listOf (Prod.snd <$> columnDef k)
          expectSym .rParen
          pure ("Nested(" ++ commaList fields ++ ")")
        | _ => do
          back
          customType
      | _ => do
        back
        customType
    | _ => expected "a data type name" t
  -- square brackets after any type make an array of it
  let n ← rounds
  let rec brackets : Nat → SqlType → Parse SqlType
    | 0, ty => return ty
    | j + 1, ty => do
      if (← symbol .lBracket) then
        let size ←
          match d with
          | .generic | .duckdb | .postgresql => optional literalNat
          | _ => pure none
        expectSym .rBracket
        let text := match size with
          | some s => ty.text ++ "[" ++ toString s ++ "]"
          | none => ty.text ++ "[]"
        brackets j (.builtin text)
      else return ty
  let ty ← brackets n ty
  return (ty, shift)

end Parse

end ColumnLineage.Sql
