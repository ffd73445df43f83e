import TableScaffold.Number.Binary64

/-!
# The shortest numeral

A number is shown with the fewest decimal digits that are read back as the same
number, and with the nearest such digits.  The numeral is always positional, and
has a point only if digits follow it.

The numbers that are read back as `m · 2 ^ q` lie between the middles to its two
neighbours, and include those middles if `m` is even.  Counted in quarters of
`2 ^ q`, the number is `4 * m`.
-/

namespace TableScaffold.Binary64

/-- Compares `c · 10 ^ k` with `b · 2 ^ p`. -/
def compareScaled (c : Nat) (k : Int) (b : Nat) (p : Int) : Ordering :=
  compare (c * powerUp 10 k * powerUp 2 (-p)) (b * powerUp 2 p * powerUp 10 (-k))

/-- The middle between a number and its lower neighbour, in quarters. -/
def lowerMiddle (m : Nat) (q : Int) : Nat :=
  if m = Nat.pow 2 52 && leastExponent < q then 4 * m - 1 else 4 * m - 2

/-- Whether `c · 10 ^ k` is read back as `m · 2 ^ q`. -/
def readsBack (m : Nat) (q : Int) (c : Nat) (k : Int) : Bool :=
  let below := compareScaled c k (lowerMiddle m q) (q - 2)
  let above := compareScaled c k (4 * m + 2) (q - 2)
  if m % 2 = 0 then below != .lt && above != .gt else below == .gt && above == .lt

/-- The number of digits of a natural number. -/
def digitCount (n : Nat) : Nat := (Nat.toDigits 10 n).length

/-- The decimal exponent of the leading digit of `n / d`. -/
def leadingExponent (n d : Nat) : Int :=
  if d ≤ n then (digitCount (n / d) : Int) - 1
  else -(digitCount ((d + n - 1) / n - 1) : Int)

/-- The one of two neighbours on a grid that is to be shown: one that is read
back, and of two such the nearer, or the greater of two equally near. -/
def pick (m : Nat) (q : Int) (c : Nat) (k : Int) : Option (Nat × Int) :=
  match readsBack m q c k, readsBack m q (c + 1) k with
  | true, true =>
    -- the middle between the neighbours decides
    if compareScaled (2 * c + 1) k (2 * m) q == .gt then some (c, k) else some (c + 1, k)
  | true, false => some (c, k)
  | false, true => some (c + 1, k)
  | false, false => none

/-- The most digits that are ever needed. -/
def mostDigits : Nat := 17

/-- The digits to show for `m · 2 ^ q`, as `c · 10 ^ k`. -/
def shortestDecimal (m : Nat) (q : Int) : Nat × Int :=
  let n := m * powerUp 2 q
  let d := powerUp 2 (-q)
  let lead := leadingExponent n d
  let neighbour (k : Int) : Nat := n * powerUp 10 (-k) / (d * powerUp 10 k)
  let grids := (List.range mostDigits).map fun (i : Nat) => lead - i
  match grids.findSome? fun k => pick m q (neighbour k) k with
  | some decimal => decimal
  | none => (neighbour (lead - mostDigits), lead - mostDigits)

/-- The numeral of `c · 10 ^ k`. -/
def positional (c : Nat) (k : Int) : Text :=
  let digits := Text.ofNat c
  if 0 ≤ k then digits ++ List.replicate k.toNat '0'
  else
    let places := (-k).toNat
    let padded := List.replicate (places + 1 - digits.length) '0' ++ digits
    let whole := padded.take (padded.length - places)
    let fraction :=
      ((padded.drop (padded.length - places)).reverse.dropWhile (· = '0')).reverse
    if fraction.isEmpty then whole else whole ++ '.' :: fraction

/-- A number as it is shown. -/
def display : Binary64 → Text
  | nan => "NaN".toList
  | infinite negative => if negative then "-inf".toList else "inf".toList
  | finite negative m q =>
    let decimal := if m = 0 then (0, 0) else shortestDecimal m q
    let numeral := positional decimal.1 decimal.2
    if negative then '-' :: numeral else numeral

end TableScaffold.Binary64
