/-
ColumnLineage/Text/Float.lean

Decimal text of double-precision numbers: reading a decimal literal into
the double nearest to it (ties to even), and writing a double back as the
shortest decimal that reads back to it, in positional notation without an
exponent.

Everything is exact arithmetic on natural numbers: a double is a sign, a
mantissa and a binary exponent, and every comparison of a decimal with a
double is made between integers scaled to a common denominator.
-/

namespace ColumnLineage

/-- A finite double: its sign and its value `mantissa * 2 ^ exponent`, the
mantissa below `2 ^ 53`. Zero has mantissa zero. -/
structure Double where
  negative : Bool
  mantissa : Nat
  exponent : Int
  deriving DecidableEq, Repr, Inhabited

/-- A decimal literal: its sign, digits and decimal exponent, the value
being `digits * 10 ^ exponent`. -/
structure DecimalLit where
  negative : Bool
  digits : Nat
  exponent : Int
  deriving DecidableEq, Repr, Inhabited

/-- The number of binary digits of `n`. -/
def bitLength (n : Nat) : Nat := n.log2 + (if n = 0 then 0 else 1)

/-- The number of decimal digits of `n` (one for zero). -/
def decimalLength (n : Nat) : Nat := (toString n).length

/-- `n * 2 ^ a * 10 ^ b` for integer exponents, as a fraction. -/
def scaleFraction (n : Nat) (a b : Int) : Nat × Nat :=
  (n * Nat.pow 2 a.toNat * Nat.pow 10 b.toNat, Nat.pow 2 (-a).toNat * Nat.pow 10 (-b).toNat)

/-- Reads a run of decimal digits: the digits taken and the rest. -/
def takeDigits (cs : List Char) : List Char × List Char :=
  (cs.takeWhile Char.isDigit, cs.dropWhile Char.isDigit)

/-- The value of decimal digits. -/
def digitsValue (ds : List Char) : Nat := ds.foldl (fun n c => n * 10 + (c.toNat - 48)) 0

/-- Reads a decimal literal: an optional sign, digits with an optional
point (at least one digit on either side), and an optional exponent `e` or
`E` with an optional sign and at least one digit. -/
def DecimalLit.parse? (s : String) : Option DecimalLit :=
  let cs := s.toList
  let (negative, cs) := match cs with
    | '-' :: rest => (true, rest)
    | '+' :: rest => (false, rest)
    | _ => (false, cs)
  let (whole, cs) := takeDigits cs
  let (fraction, cs) := match cs with
    | '.' :: rest => takeDigits rest
    | _ => ([], cs)
  if whole.isEmpty && fraction.isEmpty then none
  else
    let exp? : Option Int := match cs with
      | [] => some 0
      | c :: rest =>
        if c == 'e' || c == 'E' then
          let (sign, rest) := match rest with
            | '-' :: r => ((-1 : Int), r)
            | '+' :: r => (1, r)
            | _ => (1, rest)
          if !rest.isEmpty && rest.all Char.isDigit then some (sign * digitsValue rest) else none
        else none
    exp?.map fun e =>
      { negative, digits := digitsValue (whole ++ fraction), exponent := e - fraction.length }

/-- The double nearest to the positive fraction `num / den`, ties to even,
or nothing when it is too large for a double. -/
def nearestDouble (num den : Nat) : Option (Nat × Int) :=
  if num = 0 then some (0, 0)
  else
    let guess : Int := (bitLength num : Int) - bitLength den - 53
    let fits := fun (e : Int) =>
      let (n, d) := scaleFraction num (-e) 0
      n / (d * den) < Nat.pow 2 53
    let e := if fits (guess - 1) then guess - 1 else if fits guess then guess else guess + 1
    let e := max e (-1074)
    let (n, d) := scaleFraction num (-e) 0
    let d := d * den
    let q := n / d
    let r := n % d
    let q := if 2 * r > d || (2 * r == d && q % 2 == 1) then q + 1 else q
    let (q, e) := if q == Nat.pow 2 53 then (Nat.pow 2 52, e + 1) else (q, e)
    if e + 52 > 1023 then none else some (q, e)

/-- The double a decimal literal reads as, or nothing when it overflows. -/
def DecimalLit.toDouble? (d : DecimalLit) : Option Double :=
  if d.digits = 0 then some { negative := d.negative, mantissa := 0, exponent := 0 }
  else
    let lead := d.exponent + decimalLength d.digits - 1
    if lead > 310 then none
    else if lead < -330 then some { negative := d.negative, mantissa := 0, exponent := 0 }
    else
      let (num, den) := scaleFraction d.digits 0 d.exponent
      (nearestDouble num den).map fun (m, e) =>
        { negative := d.negative, mantissa := m, exponent := e }

/-- The shortest digits `d` and exponent `q` with `d * 10 ^ q` reading back
as the positive double `m * 2 ^ e`; among the shortest, the closest. -/
def shortestDigits (m : Nat) (e : Int) : Nat × Int :=
  let (xn, xd) := scaleFraction m e 0
  let rec power : Nat → Int → Int
    | 0, p => p
    | k + 1, p =>
      let (n, d) := scaleFraction 1 0 p
      if xn * d < n * xd then power k (p - 1) else p
  let p := power 700 (decimalLength (xn / xd) - 1)
  let reads := fun (d : Nat) (q : Int) =>
    let (n, den) := scaleFraction d 0 q
    nearestDouble n den == some (m, e)
  let rec search : Nat → Nat → Nat × Int
    | 0, _ => (m, e)
    | fuel + 1, k =>
      let q := p - k + 1
      let (n, d) := scaleFraction xn 0 (-q)
      let d := d * xd
      let digits := (2 * n + d) / (2 * d)
      if reads digits q || k ≥ 17 then (digits, q) else search fuel (k + 1)
  search 17 1

/-- Drops the trailing zeros of digits, raising the exponent. -/
def trimZeros : Nat → Nat → Int → Nat × Int
  | 0, d, q => (d, q)
  | fuel + 1, d, q => if d != 0 && d % 10 == 0 then trimZeros fuel (d / 10) (q + 1) else (d, q)

/-- A double in positional notation, as few digits as read back to it, with
`.0` added when there is no point: `1.5`, `100.0`, `0.001`, `-0.0`. -/
def Double.render (x : Double) : String :=
  let sign := if x.negative then "-" else ""
  if x.mantissa = 0 then sign ++ "0.0"
  else
    let (d, q) := shortestDigits x.mantissa x.exponent
    let (d, q) := trimZeros 20 d q
    let ds := toString d
    let body :=
      if q ≥ 0 then ds ++ String.ofList (List.replicate q.toNat '0') ++ ".0"
      else
        let pos : Int := ds.length + q
        if pos > 0 then
          String.ofList (ds.toList.take pos.toNat) ++ "." ++ String.ofList (ds.toList.drop pos.toNat)
        else "0." ++ String.ofList (List.replicate (-pos).toNat '0') ++ ds
    sign ++ body

end ColumnLineage
