import PegGrammar.Unicode.Property

/-!
How numbers and texts are written: digits of the usual bases, texts between quotes with everything
that would not show as itself written as an escape, and binary floating-point numbers in decimal,
with as few digits as read back as the same number.
-/

namespace PegGrammar.Text

def hexValue? (c : Char) : Option Nat :=
  let n := c.toNat
  if 48 ≤ n ∧ n ≤ 57 then some (n - 48)
  else if 97 ≤ n ∧ n ≤ 102 then some (n - 87)
  else if 65 ≤ n ∧ n ≤ 70 then some (n - 55)
  else none

def digitValue? (base : Nat) (c : Char) : Option Nat := (hexValue? c).filter (· < base)

def number? (base : Nat) (cs : List Char) : Option Nat :=
  if cs.isEmpty then none
  else cs.foldlM (fun n c => (digitValue? base c).map (n * base + ·)) 0

def scalar? (n : Nat) : Option Char := if n.isValidChar then some (Char.ofNat n) else none

def integer? : List Char → Option Int
  | '-' :: cs => (number? 10 cs).map fun n => -(n : Int)
  | '+' :: cs => (number? 10 cs).map Int.ofNat
  | cs => (number? 10 cs).map Int.ofNat

def isPrintable (c : Char) : Bool := c == ' ' || !Unicode.unprintable.holds c

def escape (quote c : Char) : List Char :=
  match c with
  | '\x00' => ['\\', '0']
  | '\t' => ['\\', 't']
  | '\r' => ['\\', 'r']
  | '\n' => ['\\', 'n']
  | '\\' => ['\\', '\\']
  | c =>
    if c = quote then ['\\', c]
    else if Unicode.graphemeExtend.holds c || !isPrintable c then
      ['\\', 'u', '\x7b'] ++ Nat.toDigits 16 c.toNat ++ ['\x7d']
    else [c]

def quoteString (s : String) : String :=
  String.ofList ('"' :: s.toList.flatMap (escape '"') ++ ['"'])

def quoteChar (c : Char) : String := String.ofList ('\'' :: escape '\'' c ++ ['\''])

end PegGrammar.Text

/-!
The shortest decimal that reads back as a given binary number. A number of `2 ^ e` units stands for
all reals that round to it, an interval that holds its ends if the mantissa is even. On the grid of
`n` significant digits the two neighbours of the number are tried, for `n` from one up; the first
grid with a neighbour inside the interval wins, and of two neighbours inside the nearer one. Where
both are equally near, a rule for ties decides.
-/

namespace PegGrammar.Decimal

/-- `coefficient * 10 ^ exponent` -/
structure Scaled where
  coefficient : Nat
  exponent : Int
deriving DecidableEq, Repr

inductive Tie
  | upper
  | even
deriving DecidableEq, Repr

def Tie.takesLower : Tie → Nat → Bool
  | .upper, _ => false
  | .even, c => c % 2 == 0

structure Interval where
  low : Nat
  value : Nat
  high : Nat
  den : Nat
  closed : Bool

/-- The reals that round to `m * 2 ^ e`; `narrow` says that the next number below is only half as
far away as the next one above. -/
def Interval.around (m : Nat) (e : Int) (narrow : Bool) : Interval :=
  let scale := Nat.pow 2 (e - 2).toNat
  { low := (4 * m - if narrow then 1 else 2) * scale
    value := 4 * m * scale
    high := (4 * m + 2) * scale
    den := Nat.pow 2 (2 - e).toNat
    closed := m % 2 == 0 }

def Interval.onGrid? (i : Interval) (tie : Tie) (k : Int) : Option Nat :=
  let up := Nat.pow 10 (-k).toNat
  let unit := i.den * Nat.pow 10 k.toNat
  let value := i.value * up
  let inside (c : Nat) : Bool :=
    if i.closed then i.low * up ≤ c * unit && c * unit ≤ i.high * up
    else i.low * up < c * unit && c * unit < i.high * up
  let c := value / unit
  match inside c, inside (c + 1) with
  | true, true =>
    let twice := 2 * (value - c * unit)
    some (if twice < unit || twice == unit && tie.takesLower c then c else c + 1)
  | true, false => some c
  | false, true => some (c + 1)
  | false, false => none

def leadingExponent (num den : Nat) : Int :=
  if den ≤ num then ((toString (num / den)).length : Int) - 1
  else
    let rec below (num : Nat) : Nat → Int
      | 0 => 0
      | fuel + 1 => if den ≤ num then 0 else below (num * 10) fuel - 1
    below num 400

def Scaled.normalize (d : Scaled) : Scaled :=
  let rec strip (c : Nat) (k : Int) : Nat → Scaled
    | 0 => ⟨c, k⟩
    | fuel + 1 => if c % 10 = 0 then strip (c / 10) (k + 1) fuel else ⟨c, k⟩
  strip d.coefficient d.exponent 20

def shortest (tie : Tie) (m : Nat) (e : Int) (narrow : Bool) : Scaled :=
  let i := Interval.around m e narrow
  let p := leadingExponent i.value i.den
  let rec search (n : Nat) : Nat → Scaled
    | 0 => ⟨0, 0⟩
    | fuel + 1 =>
      let k := p - n
      match i.onGrid? tie k with
      | some c => Scaled.normalize ⟨c, k⟩
      | none => search (n + 1) fuel
  search 0 18

inductive Magnitude
  | zero
  | finite (d : Scaled)
  | infinite
  | notANumber
deriving DecidableEq, Repr

def isNegative (x : Float) : Bool := x.toBits.toNat ≥ Nat.pow 2 63

def magnitude (tie : Tie) (x : Float) : Magnitude :=
  let bits := x.toBits.toNat % Nat.pow 2 63
  let fraction := bits % Nat.pow 2 52
  match bits / Nat.pow 2 52 with
  | 0 => if fraction = 0 then .zero else .finite (shortest tie fraction (-1074) false)
  | 2047 => if fraction = 0 then .infinite else .notANumber
  | b => .finite (shortest tie (fraction + Nat.pow 2 52) ((b : Int) - 1075) (fraction = 0 && b ≠ 1))

def zeros (n : Nat) : String := "".pushn '0' n

def Scaled.positional (d : Scaled) (point : Bool) : String :=
  let digits := toString d.coefficient
  let whole := (digits.length : Int) + d.exponent
  if 0 ≤ d.exponent then digits ++ zeros d.exponent.toNat ++ (if point then ".0" else "")
  else if 0 < whole then
    String.ofList (digits.toList.take whole.toNat ++ '.' :: digits.toList.drop whole.toNat)
  else "0." ++ zeros (-whole).toNat ++ digits

def Scaled.scientific (d : Scaled) : String :=
  let exponent := toString ((toString d.coefficient).length + d.exponent - 1)
  match (toString d.coefficient).toList with
  | [c] => String.ofList [c] ++ "e" ++ exponent
  | c :: cs => String.ofList (c :: '.' :: cs) ++ "e" ++ exponent
  | [] => ""

def positional (x : Float) (point : Bool) : String :=
  let sign := if isNegative x then "-" else ""
  match magnitude .upper x with
  | .zero => sign ++ if point then "0.0" else "0"
  | .finite d => sign ++ d.positional point
  | .infinite => sign ++ "inf"
  | .notANumber => "NaN"

/-- Text with an exponent from `1e16` on and below `1e-5`, otherwise positional with a fraction.
Ties go to the even neighbour. -/
def compact (x : Float) : String :=
  match magnitude .even x with
  | .finite d =>
    let whole := ((toString d.coefficient).length : Int) + d.exponent
    (if isNegative x then "-" else "") ++
      if -5 < whole ∧ whole ≤ 16 then d.positional true else d.scientific
  | _ => positional x true

def toFloat (coefficient : Nat) (exponent : Int) : Float :=
  let digits := ((toString coefficient).length : Int)
  if coefficient = 0 then 0.0
  else if 400 < digits + exponent then 1.0 / 0.0
  else if digits + exponent < -400 then 0.0
  else if 0 ≤ exponent then Float.ofScientific coefficient false exponent.toNat
  else Float.ofScientific coefficient true (-exponent).toNat

structure Written where
  whole : List Char
  fraction : List Char
  exponent : Int

def Written.toFloat (w : Written) : Float :=
  Decimal.toFloat ((Text.number? 10 (w.whole ++ w.fraction)).getD 0)
    (w.exponent - w.fraction.length)

end PegGrammar.Decimal
