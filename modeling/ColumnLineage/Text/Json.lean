/-
ColumnLineage/Text/Json.lean

JSON values and their text. Numbers are natural numbers, which is all the
reports hold. Objects keep their keys in the order given. The pretty form
indents by two spaces, puts every member and element on its own line, and
writes empty arrays and objects as `[]` and `{}`. Strings escape the quote,
the backslash and the control characters, and keep every other character
as it is.
-/

namespace ColumnLineage.Text

/-- A JSON value. -/
inductive Json where
  | null
  | bool (b : Bool)
  | num (n : Nat)
  | str (s : String)
  | arr (items : List Json)
  | obj (members : List (String × Json))
  deriving Repr, Inhabited, BEq

namespace Json

/-- The four hexadecimal digits of a code below 0x10000. -/
def hex4 (n : Nat) : String :=
  let digit := fun (d : Nat) => if d < 10 then Char.ofNat (48 + d) else Char.ofNat (87 + d)
  String.ofList [digit (n / 4096 % 16), digit (n / 256 % 16), digit (n / 16 % 16), digit (n % 16)]

/-- A character as it is written inside a JSON string. -/
def escapeChar (c : Char) : String :=
  match c with
  | '"' => "\\\""
  | '\\' => "\\\\"
  | '\n' => "\\n"
  | '\r' => "\\r"
  | '\t' => "\\t"
  | _ =>
    if c.toNat == 8 then "\\b"
    else if c.toNat == 12 then "\\f"
    else if c.toNat < 32 then "\\u" ++ hex4 c.toNat
    else String.singleton c

/-- A string as a JSON string literal. -/
def quote (s : String) : String :=
  "\"" ++ String.join (s.toList.map escapeChar) ++ "\""

mutual

/-- The compact text of a value: no spaces at all. -/
def compact : Json → String
  | .null => "null"
  | .bool b => if b then "true" else "false"
  | .num n => toString n
  | .str s => quote s
  | .arr items => "[" ++ ",".intercalate (compactItems items) ++ "]"
  | .obj members => "\x7b" ++ ",".intercalate (compactMembers members) ++ "\x7d"

/-- The compact texts of array elements. -/
def compactItems : List Json → List String
  | [] => []
  | j :: rest => compact j :: compactItems rest

/-- The compact texts of object members. -/
def compactMembers : List (String × Json) → List String
  | [] => []
  | (k, v) :: rest => (quote k ++ ":" ++ compact v) :: compactMembers rest

end

/-- Two spaces per level of indentation. -/
def indent (level : Nat) : String := String.ofList (List.replicate (2 * level) ' ')

mutual

/-- The pretty text of a value whose first line is already indented to
`level`. -/
def pretty (level : Nat) : Json → String
  | .arr [] => "[]"
  | .obj [] => "\x7b\x7d"
  | .arr items =>
    "[\n" ++ ",\n".intercalate (prettyItems (level + 1) items) ++ "\n" ++ indent level ++ "]"
  | .obj members =>
    "\x7b\n" ++ ",\n".intercalate (prettyMembers (level + 1) members) ++ "\n" ++ indent level ++
      "\x7d"
  | j => compact j

/-- The pretty texts of array elements at `level`, each indented. -/
def prettyItems (level : Nat) : List Json → List String
  | [] => []
  | j :: rest => (indent level ++ pretty level j) :: prettyItems level rest

/-- The pretty texts of object members at `level`, each indented. -/
def prettyMembers (level : Nat) : List (String × Json) → List String
  | [] => []
  | (k, v) :: rest => (indent level ++ quote k ++ ": " ++ pretty level v) :: prettyMembers level rest

end

/-- A value or `null`. -/
def opt (f : α → Json) : Option α → Json
  | some a => f a
  | none => .null

/-- A string or `null`. -/
def optStr : Option String → Json := opt .str

end Json

end ColumnLineage.Text
