import PegGrammar.CharClass.Pattern

/-!
The sizes of patterns. A pattern with repetitions is refused when an automaton for it, over the
bytes of a text, would take more than `maxSize` bytes. A part that is repeated is there in as many
copies as the counts ask for, so a few characters of text can ask for a lot.

There is one automaton that reads forward, where groups are kept, and one that reads backward.
A state takes 32 bytes, each way out of a branch 4 more, and each byte range of a set 8 more where
one state tells them apart. A range of code points is a list of `ByteRanges`, each of which has a
range of bytes for every place; together they have the forms of the code points and no others.
-/

namespace PegGrammar.Unicode

def utf8 (n : Nat) : List Nat :=
  if n < 0x80 then [n]
  else if n < 0x800 then [0xC0 + n / 64, 0x80 + n % 64]
  else if n < 0x10000 then [0xE0 + n / 4096, 0x80 + n / 64 % 64, 0x80 + n % 64]
  else [0xF0 + n / 262144, 0x80 + n / 4096 % 64, 0x80 + n / 64 % 64, 0x80 + n % 64]

abbrev ByteRanges := List (Nat × Nat)

/-- Cuts the forms between two of one length into ranges. Each place has a byte of the lower form
and one of the upper; they bound what stands there while `fromLow` and `toHigh` say so. -/
def byteRanges (fromLow toHigh : Bool) : List (Nat × Nat) → List ByteRanges
  | [] => [[]]
  | (low, high) :: rest =>
    let low := if fromLow then low else 0x80
    let high := if toHigh then high else 0xBF
    if low = high then (byteRanges fromLow toHigh rest).map ((low, low) :: ·)
    else
      let cutLow := fromLow && rest.any (·.1 != 0x80)
      let cutHigh := toHigh && rest.any (·.2 != 0xBF)
      let first := if cutLow then low + 1 else low
      let last := if cutHigh then high - 1 else high
      (if cutLow then (byteRanges true false rest).map ((low, low) :: ·) else []) ++
        (if first ≤ last then [(first, last) :: rest.map fun _ => (0x80, 0xBF)] else []) ++
        (if cutHigh then (byteRanges false true rest).map ((high, high) :: ·) else [])

def utf8Ranges (first last : Nat) : List ByteRanges :=
  [(0, 0x7F), (0x80, 0x7FF), (0x800, 0xD7FF), (0xE000, 0xFFFF), (0x10000, 0x10FFFF)].flatMap
    fun (lo, hi) =>
      let lo := max lo first
      let hi := min hi last
      if lo ≤ hi then byteRanges true true ((utf8 lo).zip (utf8 hi)) else []

end PegGrammar.Unicode

namespace PegGrammar.CharClass

def Casing.cuts : Casing → List Nat
  | .exact => []
  | .ascii => [65, 91, 97, 123]
  | .unicode =>
    Unicode.foldRuns.flatMap fun r => (List.range r.count).flatMap fun i =>
      [r.first + i * r.stride, r.first + i * r.stride + 1,
        r.target + i * r.stride, r.target + i * r.stride + 1]

namespace SetExpr

def cuts : SetExpr → List Nat
  | .empty => []
  | .range first last casing =>
    (casing.variants first ++ casing.variants last).flatMap (fun c => [c.toNat, c.toNat + 1]) ++
      if first = last then [] else casing.cuts
  | .property sets casing _ => sets.flatMap (·.edges.toList) ++ casing.cuts
  | .nested body _ => body.cuts
  | .union left right | .op _ left right => left.cuts ++ right.cuts

/-- The ranges of code points in the set, ascending and with gaps between them. No character is
between 0xD800 and 0xE000, so what changes there does so at the end. -/
def ranges (s : SetExpr) : List (Nat × Nat) :=
  let place (n : Nat) : Nat := if 0xD800 ≤ n ∧ n < 0xE000 then 0xE000 else n
  let rec go (start : Option Nat) : List Nat → List (Nat × Nat)
    | [] => (start.map (·, 0x10FFFF)).toList
    | n :: ns =>
      match start, s.contains (Char.ofNat n) with
      | none, true => go (some n) ns
      | some first, false => (first, n - 1) :: go none ns
      | start, _ => go start ns
  go none (((0 :: s.cuts).map place).mergeSort.filter (· < 0x110000))

def countPlaces : List Unicode.ByteRanges → Nat
  | [] => 0
  | [bytes] => bytes.length
  | bytes :: next :: rest =>
    let shared := ((bytes.zip next).takeWhile fun p => p.1 == p.2).length
    bytes.length - shared + countPlaces (next :: rest)

def size (forward : Bool) (s : SetExpr) : Nat :=
  match s.ranges with
  | [] => 32
  | [(first, last)] =>
    if first = last then 32 * (Unicode.utf8 first).length else sizeOf [(first, last)]
  | ranges => sizeOf ranges
where
  sizeOf (ranges : List (Nat × Nat)) : Nat :=
    if ranges.all (·.2 < 128) then 64 + 8 * ranges.length
    else
      let bytes := ranges.flatMap fun p => Unicode.utf8Ranges p.1 p.2
      let places := countPlaces bytes
      if forward then 32 * (places + 2 - bytes.length) + 8 * places
      else 64 + 4 * bytes.length + 32 * places

end SetExpr

namespace Pattern

def isZeroWidth : Pattern → Bool
  | .empty | .anchor .. => true
  | .one _ => false
  | .group _ body => body.isZeroWidth
  | .seq first second | .alt first second => first.isZeroWidth && second.isZeroWidth
  | .repeated body _ max => body.isZeroWidth || max == some 0

def isNullable : Pattern → Bool
  | .empty | .anchor .. => true
  | .one _ => false
  | .group _ body => body.isNullable
  | .seq first second => first.isNullable && second.isNullable
  | .alt first second => first.isNullable || second.isNullable
  | .repeated body min _ => min == 0 || body.isNullable

def asSet? : Pattern → Option SetExpr
  | .one s => some s
  | .group .plain body => body.asSet?
  | .alt first second => do return .union (← first.asSet?) (← second.asSet?)
  | _ => none

def repeatedSize (body : Nat) (nullable : Bool) : (min : Nat) → (max : Option Nat) → Nat
  | 0, none => if nullable then body + 112 else body + 36
  | min, none => min * body + 36
  | 0, some 0 => 32
  | 0, some 1 => body + 72
  | 0, some max => max * (body + 40) + 64
  | min, some max => if min = max then min * body else min * body + (max - min) * (body + 40) + 32

def size (forward : Bool) : Pattern → Nat
  | .empty | .anchor .. => 32
  | .one s => s.size forward
  | .group kind body => body.size forward + if forward && kind != .plain then 64 else 0
  | .seq first second => first.size forward + second.size forward
  | .alt first second =>
    match (Pattern.alt first second).asSet?, first with
    | some s, _ => s.size forward
    | none, .alt .. => first.size forward + second.size forward + 4
    | none, _ => first.size forward + second.size forward + 72
  | .repeated body min max =>
    if body.isZeroWidth then
      repeatedSize (body.size forward) true (Nat.min min 1) (some ((max.getD 1).min 1))
    else repeatedSize (body.size forward) body.isNullable min max

def isRepeating : Pattern → Bool
  | .empty | .one _ | .anchor .. => false
  | .group _ body => body.isRepeating
  | .seq first second | .alt first second => first.isRepeating || second.isRepeating
  | .repeated .. => true

def maxSize : Nat := 10 * Nat.pow 2 20

def isTooLarge (p : Pattern) : Bool :=
  p.isRepeating && (maxSize < p.size true || maxSize < p.size false)

end Pattern

end PegGrammar.CharClass
