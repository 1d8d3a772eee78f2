import Figment.Decimal.Digits
/-!
The numbers of 64-bit binary floating point, as exact values, and their decimal texts.

A finite number is `m * 2^q`. `ofDecimal` finds the number nearest to a decimal, and `shortest` the
decimal with the fewest digits that is nearer to the number than to any other one. The two ways to
write that decimal down, `plain` and `pretty`, differ only in layout and in the choice between two
equally near decimals.
-/

namespace Figment

/-- A number of 64-bit binary floating point. In a finite one `m` is below 2^53, and it is at least
2^52 unless `q` is the least exponent, -1074. -/
inductive Binary64 where
  | nan
  | infinite (negative : Bool)
  | finite (negative : Bool) (m : Nat) (q : Int)
deriving DecidableEq, Repr

namespace Binary64

/-- `num / den` to the nearest whole number, a half to the even one. -/
def roundHalfEven (num den : Nat) : Nat :=
  let quotient := num / den
  match compare (2 * (num % den)) den with
  | .lt => quotient
  | .gt => quotient + 1
  | .eq => if quotient % 2 = 0 then quotient else quotient + 1

def ofQuotient (negative : Bool) (num den : Nat) : Binary64 :=
  let guess : Int := (num.log2 : Int) - den.log2 - 52
  let scaled (q : Int) : Nat × Nat := (num * Nat.pow 2 (-q).toNat, den * Nat.pow 2 q.toNat)
  let (n, d) := scaled guess
  let q := max (if n / d < Nat.pow 2 52 then guess - 1 else guess) (-1074)
  let (n, d) := scaled q
  let m := roundHalfEven n d
  let (m, q) := if m = Nat.pow 2 53 then (Nat.pow 2 52, q + 1) else (m, q)
  if 971 < q then .infinite negative else .finite negative m q

/-- The number nearest to `digits * 10^exp`. Decimals beyond the range on either side are settled
by their magnitude alone. -/
def ofDecimal (negative : Bool) (digits : Nat) (exp : Int) : Binary64 :=
  let size := (Nat.toDigits 10 digits).length + exp
  if digits = 0 ∨ size < -330 then .finite negative 0 (-1074)
  else if 310 < size then .infinite negative
  else ofQuotient negative (digits * Nat.pow 10 exp.toNat) (Nat.pow 10 (-exp).toNat)

inductive Tie where
  | toEven
  | up
deriving DecidableEq, Repr

/-- Compares `a * 10^i` with `b * 2^j`. -/
def compareScaled (a : Nat) (i : Int) (b : Nat) (j : Int) : Ordering :=
  compare (a * Nat.pow 10 i.toNat * Nat.pow 2 (-j).toNat) (b * Nat.pow 2 j.toNat * Nat.pow 10 (-i).toNat)

/-- Whether `digits * 10^exp` is read back as `m * 2^q`: it lies between the points halfway to the
neighbours, which belong to the number whose `m` is even. Below a power of two the neighbour is
half as far away. -/
def readsBack (m : Nat) (q : Int) (digits : Nat) (exp : Int) : Bool :=
  let low := if m = Nat.pow 2 52 ∧ -1074 < q then 4 * m - 1 else 4 * m - 2
  let atLow := compareScaled digits exp low (q - 2)
  let atHigh := compareScaled digits exp (4 * m + 2) (q - 2)
  (atLow == .gt || (m % 2 == 0 && atLow == .eq)) && (atHigh == .lt || (m % 2 == 0 && atHigh == .eq))

/-- The decimal on the grid of the multiples of `10^exp` that stands for `m * 2^q`: of the two
neighbours those that are read back, and of these the nearer one. -/
def onGrid? (tie : Tie) (m : Nat) (q exp : Int) : Option Nat :=
  let num := m * Nat.pow 2 q.toNat * Nat.pow 10 (-exp).toNat
  let den := Nat.pow 2 (-q).toNat * Nat.pow 10 exp.toNat
  let below := num / den
  match readsBack m q below exp, readsBack m q (below + 1) exp with
  | false, false => none
  | true, false => some below
  | false, true => some (below + 1)
  | true, true =>
    match compare (2 * num) ((2 * below + 1) * den), tie with
    | .lt, _ => some below
    | .gt, _ => some (below + 1)
    | .eq, .up => some (below + 1)
    | .eq, .toEven => some (if below % 2 = 0 then below else below + 1)

/-- The least `k` from `guess` on with `m * 2^q < 10^k`, looked for in `fuel` steps. -/
def scaleFrom (m : Nat) (q : Int) (guess : Int) : Nat → Int
  | 0 => guess
  | fuel + 1 =>
    if compareScaled 1 guess m q == .gt then guess else scaleFrom m q (guess + 1) fuel

def dropZeros (digits : Nat) (exp : Int) : Nat × Int :=
  if h : 0 < digits ∧ digits % 10 = 0 then dropZeros (digits / 10) (exp + 1) else (digits, exp)
termination_by digits
decreasing_by omega

/-- The decimal with the fewest digits that is read back as `m * 2^q`, for positive `m`. Seventeen
digits always suffice; the exact value stands behind them. -/
def shortest (tie : Tie) (m : Nat) (q : Int) : Nat × Int :=
  let guess := ((m.log2 : Int) + q) * 30103 / 100000
  let scale := scaleFrom m q guess 4
  let found := (List.range 17).findSome? fun (i : Nat) =>
    let exp := scale - (i + 1)
    (onGrid? tie m q exp).map fun digits => (digits, exp)
  match found with
  | some (digits, exp) => dropZeros digits exp
  | none => dropZeros (m * Nat.pow 2 q.toNat * Nat.pow 5 (-q).toNat) (-((-q).toNat : Int))

def zeros (n : Nat) : String :=
  .ofList (List.replicate n '0')

def withPoint (ds : String) (point : Int) : String :=
  if point ≤ 0 then "0." ++ zeros (-point).toNat ++ ds
  else if (ds.length : Int) ≤ point then ds ++ zeros (point - ds.length).toNat
  else .ofList (ds.toList.take point.toNat) ++ "." ++ .ofList (ds.toList.drop point.toNat)

/-- The text without an exponent, whatever its length: `1000`, `0.0000001`, `NaN`, `-inf`. -/
def plain : Binary64 → String
  | nan => "NaN"
  | infinite negative => if negative then "-inf" else "inf"
  | finite negative m q =>
    let body :=
      if m = 0 then "0"
      else
        let (digits, exp) := shortest .up m q
        let ds := toString digits
        withPoint ds (ds.length + exp)
    if negative then "-" ++ body else body

/-- The text that always shows a fraction or an exponent: positional while the point lies at most
16 places behind and at most five before the first digit, otherwise with an exponent. -/
def pretty : Binary64 → String
  | nan => ".nan"
  | infinite negative => if negative then "-.inf" else ".inf"
  | finite negative m q =>
    let body :=
      if m = 0 then "0.0"
      else
        let (digits, exp) := shortest .toEven m q
        let ds := toString digits
        let point := ds.length + exp
        if 0 ≤ exp ∧ point ≤ 16 then withPoint ds point ++ ".0"
        else if -5 < point ∧ point ≤ 16 then withPoint ds point
        else
          let rest := ds.toList.drop 1
          .ofList (ds.toList.take 1) ++ (if rest = [] then "" else "." ++ .ofList rest)
            ++ "e" ++ toString (point - 1)
    if negative then "-" ++ body else body

def exponentOf? : List Char → Option Int
  | [] => some 0
  | e :: rest =>
    if e ≠ 'e' ∧ e ≠ 'E' then none
    else
      let (negative, ds) := match rest with
        | '-' :: ds => (true, ds)
        | '+' :: ds => (false, ds)
        | ds => (false, ds)
      if ds = [] ∨ !ds.all (·.isDigit) then none
      else some (if negative then -(Decimal.digitsValue ds : Int) else Decimal.digitsValue ds)

def ofNumeral? (negative : Bool) (s : List Char) : Option Binary64 :=
  let whole := s.takeWhile (·.isDigit)
  let (fraction, rest) := match s.dropWhile (·.isDigit) with
    | '.' :: rest => (rest.takeWhile (·.isDigit), rest.dropWhile (·.isDigit))
    | rest => ([], rest)
  if whole = [] ∧ fraction = [] then none
  else (exponentOf? rest).map fun exp =>
    ofDecimal negative (Decimal.digitsValue (whole ++ fraction)) (exp - fraction.length)

def ofText? (s : List Char) : Option Binary64 :=
  match s with
  | '-' :: rest => body true rest
  | '+' :: rest => body false rest
  | rest => body false rest
where
  body (negative : Bool) (s : List Char) : Option Binary64 :=
    let low := s.map Char.toLower
    if low = "inf".toList ∨ low = "infinity".toList then some (infinite negative)
    else if low = "nan".toList then some nan
    else ofNumeral? negative s

end Binary64

end Figment
