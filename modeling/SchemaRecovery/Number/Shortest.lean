/-
  SchemaRecovery.Number.Shortest

  The decimal text of a floating-point number: the fewest digits that read
  back as the number, nearest to it among those. Numbers from 0.0001 up to
  below 10 ^ 16 are written positionally with at least one place, the others
  with a signed exponent of at least two digits.
-/
import SchemaRecovery.Number.Binary64

namespace SchemaRecovery.Binary64

/-- `m · 2 ^ e` as a fraction. -/
def fraction (m : Nat) (e : Int) : Nat × Nat :=
  if 0 ≤ e then (m * Nat.pow 2 e.toNat, 1) else (m, Nat.pow 2 (-e).toNat)

/-- The power of ten of the leading digit of `num / den`. -/
def leadingPower (num den : Nat) : Int :=
  if den ≤ num then (decimalLength (num / den) : Int) - 1
  else
    match (List.range 400).find? fun j => den ≤ num * Nat.pow 10 j with
    | some j => -(j : Int)
    | none => -400

/-- `num / den` counted in units of `10 ^ k`, as a fraction. -/
def inUnits (num den : Nat) (k : Int) : Nat × Nat :=
  if 0 ≤ k then (num, den * Nat.pow 10 k.toNat) else (num * Nat.pow 10 (-k).toNat, den)

/-- The multiple of `10 ^ k` next to `m · 2 ^ e` that reads back as it, the
nearer one if both neighbours do. -/
def gridPoint? (m : Nat) (e k : Int) : Option Nat :=
  let (num, den) := fraction m e
  let (n, d) := inUnits num den k
  let below := n / d
  let reads (x : Nat) : Bool := ofDecimal false x k == finite false m e
  match reads below, reads (below + 1) with
  | true, true =>
    if 2 * (n % d) < d then some below
    else if d < 2 * (n % d) then some (below + 1)
    else if below % 2 = 0 then some below else some (below + 1)
  | true, false => some below
  | false, true => some (below + 1)
  | false, false => none

/-- The shortest decimal `digits · 10 ^ power` that reads back as
`m · 2 ^ e`. -/
def shortest (m : Nat) (e : Int) : Nat × Int :=
  let (num, den) := fraction m e
  let top := leadingPower num den
  let tries := (List.range 17).filterMap fun (i : Nat) =>
    let k : Int := top - i
    (gridPoint? m e k).map fun x => (x, k)
  tries.head?.getD (0, 0)

/-- The digits of `n` without the zeros at their end, and how many zeros
those were. -/
def significant (n : Nat) : List Char × Nat :=
  let ds := Nat.toDigits 10 n
  let tail := ds.reverse.takeWhile (· = '0')
  (ds.take (ds.length - tail.length), tail.length)

/-- Writes `digits` with the point after the first `point` of them (before
them, with zeros between, if `point` is not positive). -/
def positional (digits : List Char) (point : Int) : List Char :=
  if point ≤ 0 then '0' :: '.' :: List.replicate (-point).toNat '0' ++ digits
  else
    let n := point.toNat
    if digits.length ≤ n then digits ++ List.replicate (n - digits.length) '0' ++ ['.', '0']
    else digits.take n ++ '.' :: digits.drop n

/-- Writes `digits` with the point after the first of them and the exponent
`power`. -/
def scientific (digits : List Char) (power : Int) : List Char :=
  let mark := if power < 0 then '-' else '+'
  let ds := Nat.toDigits 10 power.natAbs
  let mantissa :=
    match digits with
    | [] => []
    | [d] => [d]
    | d :: rest => d :: '.' :: rest
  mantissa ++ 'e' :: mark :: List.replicate (2 - ds.length) '0' ++ ds

/-- The decimal text of a positive number. -/
def unsignedText (m : Nat) (e : Int) : List Char :=
  let (n, k) := shortest m e
  let (digits, zeros) := significant n
  let point : Int := digits.length + zeros + k
  if -4 < point ∧ point ≤ 16 then positional digits point else scientific digits (point - 1)

/-- The decimal text of the number. -/
def text : Binary64 → String
  | finite negative m e =>
    (if negative then "-" else "") ++
      (if m = 0 then "0.0" else String.ofList (unsignedText m e))
  | infinite negative => if negative then "-inf" else "inf"
  | nan => "nan"

end SchemaRecovery.Binary64
