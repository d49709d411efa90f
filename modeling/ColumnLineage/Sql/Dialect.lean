import ColumnLineage.Text.Numeric
/-
ColumnLineage/Sql/Dialect.lean

The SQL dialects a statement can be read in, looked up by name, and the
handful of lexical and grammatical choices in which they differ: which
characters start and continue an identifier, which quotes delimit one,
whether a backslash escapes inside a string, and which optional pieces of
syntax the grammar accepts.
-/

namespace ColumnLineage.Sql

open ColumnLineage.Text

/-- The SQL dialects a statement can be read in. -/
inductive Dialect where
  | generic
  | mysql
  | postgresql
  | hive
  | sqlite
  | snowflake
  | redshift
  | mssql
  | clickhouse
  | bigquery
  | ansi
  | duckdb
  | databricks
  deriving DecidableEq, Repr, Inhabited

namespace Dialect

/-- Lower-cases the way dialect names are compared: ASCII letters fold, and so
does the Kelvin sign, whose lower case is the letter k. Every other character
is kept, so it can never match a dialect name. -/
def foldName (s : String) : String :=
  String.ofList (s.toList.map fun c =>
    if c.val = 0x212A then 'k' else c.toLower)

/-- The dialect called `name`, compared without regard to case. -/
def ofName? (name : String) : Option Dialect :=
  match foldName name with
  | "generic" => some .generic
  | "mysql" => some .mysql
  | "postgresql" => some .postgresql
  | "postgres" => some .postgresql
  | "hive" => some .hive
  | "sqlite" => some .sqlite
  | "snowflake" => some .snowflake
  | "redshift" => some .redshift
  | "mssql" => some .mssql
  | "clickhouse" => some .clickhouse
  | "bigquery" => some .bigquery
  | "ansi" => some .ansi
  | "duckdb" => some .duckdb
  | "databricks" => some .databricks
  | _ => none

private def asciiLetter (c : Char) : Bool := c.isLower || c.isUpper

/-- The characters that may begin an unquoted identifier. -/
def isIdentStart : Dialect → Char → Bool
  | .generic, c | .mssql, c => isAlphabetic c || c == '_' || c == '#' || c == '@'
  | .mysql, c =>
    isAlphabetic c || c == '_' || c == '$' || c == '@' || (0x80 ≤ c.val && c.val ≤ 0xFFFF)
  | .postgresql, c | .duckdb, c => isAlphabetic c || c == '_'
  | .redshift, c => isAlphabetic c || c == '_' || c == '#'
  | .hive, c => asciiLetter c || c.isDigit || c == '$'
  | .sqlite, c => asciiLetter c || c == '_' || (0x7F ≤ c.val && c.val ≤ 0xFFFF)
  | .snowflake, c | .clickhouse, c | .bigquery, c | .databricks, c => asciiLetter c || c == '_'
  | .ansi, c => asciiLetter c

/-- The characters that may continue an unquoted identifier. -/
def isIdentPart : Dialect → Char → Bool
  | .generic, c | .mssql, c =>
    isAlphabetic c || c.isDigit || c == '@' || c == '$' || c == '#' || c == '_'
  | .mysql, c => isIdentStart .mysql c || c.isDigit
  | .postgresql, c | .duckdb, c => isAlphabetic c || c.isDigit || c == '$' || c == '_'
  | .redshift, c => isAlphabetic c || c.isDigit || c == '$' || c == '_' || c == '#'
  | .hive, c => asciiLetter c || c.isDigit || c == '_' || c == '$' || c == '{' || c == '}'
  | .sqlite, c => isIdentStart .sqlite c || c.isDigit
  | .snowflake, c => asciiLetter c || c.isDigit || c == '$' || c == '_'
  | .clickhouse, c | .bigquery, c | .databricks, c | .ansi, c =>
    asciiLetter c || c.isDigit || c == '_'

/-- The quotes that open a delimited identifier. -/
def isDelimitedIdentStart : Dialect → Char → Bool
  | .mysql, c | .bigquery, c | .databricks, c => c == '`'
  | .postgresql, c | .duckdb, c => c == '"'
  | .mssql, c => c == '"' || c == '['
  | .redshift, c => c == '"'
  | .sqlite, c => c == '"' || c == '`' || c == '['
  | _, c => c == '"' || c == '`'

/-- Whether a backslash escapes the next character inside a quoted string. -/
def backslashEscapes : Dialect → Bool
  | .mysql | .bigquery | .clickhouse | .snowflake | .databricks => true
  | _ => false

/-- Whether `#` starts a comment that runs to the end of the line. -/
def hashComments : Dialect → Bool
  | .snowflake | .bigquery | .mysql | .hive => true
  | _ => false

/-- Whether a `/*` comment may hold another one. -/
def nestedComments : Dialect → Bool
  | .generic | .postgresql => true
  | _ => false

/-- Whether a number may run straight into the letters of an identifier. -/
def numericPrefix : Dialect → Bool
  | .mysql | .hive => true
  | _ => false

/-- Whether `E'...'` is a string with backslash escapes. -/
def escapeStrings : Dialect → Bool
  | .generic | .postgresql | .redshift => true
  | _ => false

/-- Whether `TRY_CONVERT(...)` is a conversion rather than a call. -/
def tryConvert : Dialect → Bool
  | .generic | .mssql | .snowflake => true
  | _ => false

/-- Whether `CONVERT` names the type before the value. -/
def convertTypeFirst : Dialect → Bool
  | .mssql => true
  | _ => false

/-- Whether `STRUCT(...)` is a struct literal. -/
def structLiterals : Dialect → Bool
  | .generic | .bigquery => true
  | _ => false

/-- Whether `{key: value}` is a dictionary literal. -/
def dictionaryLiterals : Dialect → Bool
  | .generic | .duckdb | .clickhouse | .snowflake => true
  | _ => false

/-- Whether `x -> body` and `(x, y) -> body` are lambdas. -/
def lambdas : Dialect → Bool
  | .databricks | .duckdb => true
  | _ => false

/-- Whether `e.f(x)` after a value calls a method on it. -/
def methods : Dialect → Bool
  | .mssql => true
  | _ => false

/-- Whether `column (+)` marks a column for an outer join. -/
def outerJoinMarks : Dialect → Bool
  | .snowflake | .mssql => true
  | _ => false

/-- Whether `!e` negates a condition. -/
def bangNot : Dialect → Bool
  | .hive => true
  | _ => false

/-- Whether `IGNORE NULLS` or `RESPECT NULLS` may close the arguments of a
call, before its closing parenthesis. -/
def nullTreatmentArg : Dialect → Bool
  | .generic | .bigquery => true
  | _ => false

/-- Whether a table name may be followed by a path into it, `t[0].a`. -/
def tablePaths : Dialect → Bool
  | .redshift | .snowflake => true
  | _ => false

/-- Whether a table reference may be followed by `MATCH_RECOGNIZE (...)`. -/
def matchRecognize : Dialect → Bool
  | .generic | .snowflake => true
  | _ => false

/-- Whether `MAP {key: value}` is a map literal. -/
def mapLiterals : Dialect → Bool
  | .generic | .duckdb => true
  | _ => false

/-- Whether a SELECT may end with `START WITH ... CONNECT BY ...`. -/
def connectBy : Dialect → Bool
  | .generic | .snowflake => true
  | _ => false

/-- Whether `U&'...'` is a string with Unicode escapes. -/
def unicodeStrings : Dialect → Bool
  | .generic | .postgresql => true
  | _ => false

/-- Whether `B'...'` is a byte string. -/
def byteStrings : Dialect → Bool
  | .generic | .bigquery | .postgresql | .mysql => true
  | _ => false

/-- Whether `R'...'` is a raw string. -/
def rawStrings : Dialect → Bool
  | .generic | .bigquery => true
  | _ => false

/-- Whether `//` is integer division. -/
def slashSlashDivides : Dialect → Bool
  | .generic | .duckdb => true
  | _ => false

/-- Whether a SELECT may list no columns before its FROM. -/
def emptyProjection : Dialect → Bool
  | .generic | .postgresql => true
  | _ => false

/-- Whether an aggregate call may carry `FILTER (WHERE ...)`. -/
def aggregateFilter : Dialect → Bool
  | .postgresql | .duckdb | .hive | .sqlite | .databricks => true
  | _ => false

/-- Whether `SELECT * EXCEPT (...)` is read. -/
def wildcardExcept : Dialect → Bool
  | .generic | .bigquery | .clickhouse | .databricks => true
  | _ => false

/-- Whether `SELECT * EXCLUDE ...` is read. -/
def wildcardExclude : Dialect → Bool
  | .generic | .duckdb | .snowflake => true
  | _ => false

/-- Whether `SELECT * REPLACE (...)` is read. -/
def wildcardReplace : Dialect → Bool
  | .generic | .bigquery | .clickhouse | .duckdb | .snowflake => true
  | _ => false

/-- Whether a comma may trail the table references of a FROM clause. -/
def fromTrailingCommas : Dialect → Bool
  | .snowflake => true
  | _ => false

/-- Whether `$name` is always a placeholder, `$` continuing it, rather than
opening a dollar-quoted string. -/
def dollarPlaceholders : Dialect → Bool
  | .sqlite => true
  | _ => false

/-- Whether `[` may open an identifier that holds a quoted one, as in
`["name"]`, when a quote or an identifier character follows it. -/
def nestedBracketQuotes : Dialect → Bool
  | .redshift => true
  | _ => false

/-- Whether the operator characters after an operator run on into one
custom operator, as in `<->` or `%%`. -/
def customOperators : Dialect → Bool
  | .postgresql => true
  | _ => false

/-- Whether three quotes open a string that runs to three closing quotes. -/
def tripleQuotedStrings : Dialect → Bool
  | .bigquery => true
  | _ => false

/-- Whether `INTERVAL` also may name a column, when its special form does not
read. -/
def intervalNamesColumn : Dialect → Bool
  | .snowflake => true
  | _ => false

/-- Whether `LIMIT offset, count` is read. -/
def limitComma : Dialect → Bool
  | .generic | .mysql | .clickhouse | .sqlite => true
  | _ => false

/-- Whether `SET (a, b) = (1, 2)` sets several variables at once. -/
def parenthesizedSetVariables : Dialect → Bool
  | .generic | .snowflake => true
  | _ => false

/-- Whether LOAD loads an extension by name. -/
def loadsExtensions : Dialect → Bool
  | .duckdb | .generic => true
  | _ => false

/-- Whether `INSERT ... SET col = value` is read. -/
def insertSet : Dialect → Bool
  | .mysql | .generic => true
  | _ => false

/-- Whether `INSERT INTO FUNCTION f(...)` is read. -/
def insertTableFunction : Dialect → Bool
  | .clickhouse => true
  | _ => false

/-- Whether `expr[index]` subscripts an array. -/
def arraySubscript : Dialect → Bool
  | .generic | .postgresql | .duckdb => true
  | _ => false

/-- Whether `TRUE` and `FALSE` are boolean literals. -/
def booleanLiterals : Dialect → Bool
  | .mssql => false
  | _ => true

/-- Whether `CREATE TABLE t SELECT ...` is read without `AS`. -/
def createTableSelect : Dialect → Bool
  | .mysql => true
  | _ => false

/-- Whether the bracket `[` opens a delimited identifier closed by `]`. -/
def bracketQuotes (d : Dialect) : Bool := d.isDelimitedIdentStart '['

end Dialect

end ColumnLineage.Sql
