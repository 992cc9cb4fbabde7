import PegGrammar.Catalog

/-!
Plain data: integers, strings and lists of data, a domain of values for grammars that have no
domain of their own, with the ready-made hooks that turn nodes into such data.
-/

namespace PegGrammar

inductive Datum
  | int (n : Int64)
  | str (s : String)
  | list (items : List Datum)
deriving Inhabited

namespace Datum

mutual

def decEq : (a b : Datum) → Decidable (a = b)
  | .int m, .int n => decidable_of_iff (m = n) (by simp)
  | .str s, .str t => decidable_of_iff (s = t) (by simp)
  | .list xs, .list ys =>
    match decEqList xs ys with
    | isTrue h => isTrue (by rw [h])
    | isFalse h => isFalse fun e => h (by injection e)
  | .int _, .str _ | .int _, .list _ | .str _, .int _ | .str _, .list _ | .list _, .int _
  | .list _, .str _ => isFalse nofun

def decEqList : (xs ys : List Datum) → Decidable (xs = ys)
  | [], [] => isTrue rfl
  | [], _ :: _ | _ :: _, [] => isFalse nofun
  | x :: xs, y :: ys =>
    match decEq x y, decEqList xs ys with
    | isTrue h, isTrue hs => isTrue (by rw [h, hs])
    | isFalse h, _ => isFalse fun e => h (by injection e)
    | _, isFalse hs => isFalse fun e => hs (by injection e)

end

instance : DecidableEq Datum := decEq

mutual

def snapshot : Datum → Snapshot
  | .int n => ⟨"Int", Numeral.display n, []⟩
  | .str s => ⟨"Str", s, []⟩
  | .list xs => ⟨"List", toString xs.length ++ " values", snapshots xs⟩

def snapshots : List Datum → List Snapshot
  | [] => []
  | x :: xs => x.snapshot :: snapshots xs

end

mutual

def dump : Datum → String
  | .int n => "Int(" ++ Numeral.display n ++ ")"
  | .str s => "Str(" ++ Text.quoteString s ++ ")"
  | .list xs => "List([" ++ ", ".intercalate (dumps xs) ++ "])"

def dumps : List Datum → List String
  | [] => []
  | x :: xs => x.dump :: dumps xs

end

instance : Domain Datum := ⟨snapshot, dump⟩

end Datum

end PegGrammar

namespace PegGrammar.Datum

/-- A way to read a node as a datum. Where a node has no such reading, the match is refused. -/
inductive Reading
  | text
  | int
  | char
  | digit
  | literal
  | kind
  | count
  | sum
  | list
  | unwrap
  | reject
  | const (n : Int64)
  | atMost (bound : Int64)
deriving DecidableEq, Repr

namespace Reading

def intOf (n : Node Datum) : Option Int64 := n.matchedText >>= Numeral.int64?

def int? : Datum → Option Int64
  | .int n => some n
  | _ => none

def hook : Reading → Hook Datum
  | .text, n => n.matchedText.map .str
  | .int, n => (intOf n).map .int
  | .char, n => n.char?.map fun c => .str (String.singleton c)
  | .digit, n => (n.char? >>= Text.digitValue? 10).map fun d => .int (Int64.ofNat d)
  | .literal, n => n.literal?.map .str
  | .kind, n => some (.str n.kind)
  | .count, n => some (.int (Int64.ofNat n.children.length))
  | .sum, n =>
    some (.int ((n.children.filterMap fun c => c.value? >>= int?).foldl (· + ·) 0))
  | .list, n => n.children?.map fun cs => .list (cs.filterMap Node.value?)
  | .unwrap, n => n.value?
  | .reject, _ => none
  | .const k, _ => some (.int k)
  | .atMost bound, n => ((intOf n).filter (· ≤ bound)).map .int

end Reading

end PegGrammar.Datum
