/-!
# The shortest decimal of a binary number

A binary floating-point number stands for every real number that rounds to it. Its shortest
decimal has the fewest digits among the decimals in that interval, and among those of the same
length it is the nearest. The search tries one digit, two digits and so on: on the grid of `n`
digits only the two neighbours of the exact value can be nearest, so those two are tested, in exact
whole-number arithmetic.
-/

namespace LinkGuard.Decimal

/-- A positive number `significand · 2 ^ exponent` and the interval of reals that round to it,
all three in quarters of a unit in the last place. -/
structure Binary where
  value : Nat
  low : Nat
  high : Nat
  endsIncluded : Bool
  exponent : Int

/-- The interval of a positive finite double. Just above a power of two the neighbour below is
only half as far away. -/
def Binary.ofBits (bits : Nat) : Binary :=
  let fraction := bits % Nat.pow 2 52
  let biased := bits / Nat.pow 2 52 % Nat.pow 2 11
  let significand := if biased = 0 then fraction else fraction + Nat.pow 2 52
  let exponent : Int := (if biased = 0 then 1 else biased : Nat) - 1075
  let below := if fraction = 0 ∧ 1 < biased then 1 else 2
  ⟨4 * significand, 4 * significand - below, 4 * significand + 2, significand % 2 == 0,
    exponent - 2⟩

/-- The factors that bring `x · 2 ^ binary` and `y · 10 ^ decimal` to one scale. -/
def scales (binary decimal : Int) : Nat × Nat :=
  (Nat.pow 2 binary.toNat * Nat.pow 10 (-decimal).toNat,
    Nat.pow 10 decimal.toNat * Nat.pow 2 (-binary).toNat)

/-- The power of ten of the first digit. -/
def Binary.leadingPower (number : Binary) : Int :=
  let (left, right) := scales number.exponent (-400)
  ((Nat.toDigits 10 (number.value * left / right)).length : Int) - 401

/-- The nearest decimal with `count` digits that still rounds to the number. -/
def Binary.onGrid? (number : Binary) (count : Nat) : Option (Nat × Int) :=
  let power := number.leadingPower - (count : Int) + 1
  let (left, right) := scales number.exponent power
  let inside (digits : Nat) : Bool :=
    let scaled := digits * right
    if number.endsIncluded then number.low * left ≤ scaled && scaled ≤ number.high * left
    else number.low * left < scaled && scaled < number.high * left
  let exact := number.value * left
  let floor := exact / right
  let upper := floor + 1
  let nearer := if exact - floor * right ≤ upper * right - exact then floor else upper
  let farther := if nearer = floor then upper else floor
  if inside nearer then some (nearer, power)
  else if inside farther then some (farther, power)
  else none

/-- The digits of the shortest decimal and the power of ten of the last digit. -/
def Binary.shortest (number : Binary) : Nat × Int :=
  ((List.range 17).findSome? fun count => number.onGrid? (count + 1)).getD (0, 0)

/-- Digits with a decimal point, `power` being the power of ten of the first digit. Powers from
-5 to 15 are written positionally, always with at least one digit behind the point. -/
def layout (digits : List Char) (power : Int) : List Char :=
  if 0 ≤ power ∧ power < 16 then
    let whole := power.toNat + 1
    let behind := digits.drop whole
    digits.take whole ++ List.replicate (whole - digits.length) '0' ++ ['.'] ++
      (if behind = [] then ['0'] else behind)
  else if -5 ≤ power ∧ power < 0 then
    ['0', '.'] ++ List.replicate ((-power).toNat - 1) '0' ++ digits
  else
    let mantissa :=
      match digits with
      | first :: second :: rest => first :: '.' :: second :: rest
      | _ => digits
    mantissa ++ ['e', if power < 0 then '-' else '+'] ++ Nat.toDigits 10 power.natAbs

/-- The shortest text of a finite double; zero keeps its sign. -/
def shortest (value : Float) : String :=
  let bits := value.toBits.toNat
  let magnitude := bits % Nat.pow 2 63
  let sign := if Nat.pow 2 63 ≤ bits then ['-'] else []
  if magnitude = 0 then String.ofList (sign ++ ['0', '.', '0'])
  else
    let (found, lastPower) := (Binary.ofBits magnitude).shortest
    let all := Nat.toDigits 10 found
    let digits := (all.reverse.dropWhile (· = '0')).reverse
    String.ofList (sign ++ layout digits (lastPower + (all.length : Int) - 1))

end LinkGuard.Decimal
