import PegGrammar.Cursor
import PegGrammar.Expr

/-!
Running an expression at a place of a text, with references looked up in a set of rules. Choice is
ordered, repetition takes all it can and gives nothing back, and a failed attempt leaves nothing
behind but its trace.

A repetition whose body matches without moving keeps that one match and stops, since the next
attempt could only repeat it; such a match is enough for any minimum.

`run` takes fuel, which bounds how deep expressions run inside each other and how often one
repetition goes round. `apply` provides enough of it for rules without left recursion.
-/

namespace PegGrammar

abbrev RuleSet (V : Type) := List (String × Expr V)

namespace RuleSet

variable {V : Type}

def resolve (rules : RuleSet V) (name : String) : Option (Expr V) := rules.lookup name

def size : RuleSet V → Nat
  | [] => 0
  | (_, rule) :: rules => rule.size + size rules

end RuleSet

inductive Event
  | entered (rule : String) (offset : Nat)
  | undefinedRule (name : String)
  | declined
deriving DecidableEq, Repr

inductive Outcome (V : Type)
  | matched (node : Node V) (stop : Cursor)
  | noMatch
  | unfinished

namespace Outcome

variable {V : Type}

def match? : Outcome V → Option (Node V × Cursor)
  | .matched node stop => some (node, stop)
  | _ => none

end Outcome

structure Run (V : Type) where
  outcome : Outcome V
  trace : List Event

namespace Run

variable {V : Type}

def matched (node : Node V) (stop : Cursor) : Run V := ⟨.matched node stop, []⟩

def noMatch : Run V := ⟨.noMatch, []⟩

def unfinished : Run V := ⟨.unfinished, []⟩

def after (events : List Event) (r : Run V) : Run V := ⟨r.outcome, events ++ r.trace⟩

def andThen (r : Run V) (next : Node V → Cursor → Run V) : Run V :=
  match r.outcome with
  | .matched node stop => (next node stop).after r.trace
  | _ => r

def orElse (r : Run V) (next : Unit → Run V) : Run V :=
  match r.outcome with
  | .noMatch => (next ()).after r.trace
  | _ => r

def hook (r : Run V) (h : Hook V) : Run V :=
  match r.outcome with
  | .matched node stop =>
    match h node with
    | some v => ⟨.matched (.value v) stop, r.trace⟩
    | none => ⟨.noMatch, r.trace ++ [.declined]⟩
  | _ => r

end Run

namespace Expr

variable {V : Type}

def runParts (run : Expr V → Cursor → Run V) : List (Node V) → List (Expr V) → Cursor → Run V
  | done, [], s => .matched (.sequence done.reverse) s
  | done, p :: ps, s => (run p s).andThen fun node stop => runParts run (node :: done) ps stop

def runChoices (run : Expr V → Cursor → Run V) : List (Expr V) → Cursor → Run V
  | [], _ => .noMatch
  | c :: cs, s => (run c s).orElse fun _ => runChoices run cs s

def endRepetition (needed : Nat) (done : List (Node V)) (s : Cursor) : Run V :=
  if needed = 0 then .matched (.repetition done.reverse) s else .noMatch

/-- Runs a body again and again. `needed` matches are still required and `left` still allowed;
`done` holds the nodes so far, latest first. -/
def runRepeatedly (body : Cursor → Run V) :
    Nat → Nat → Option Nat → List (Node V) → Cursor → Run V
  | 0, _, _, _, _ => .unfinished
  | fuel + 1, needed, left, done, s =>
    if left = some 0 then endRepetition needed done s
    else
      let r := body s
      match r.outcome with
      | .matched node stop =>
        let next : Run V :=
          if stop.offset = s.offset then .matched (.repetition (node :: done).reverse) stop
          else runRepeatedly body fuel (needed - 1) (left.map (· - 1)) (node :: done) stop
        next.after r.trace
      | .noMatch => (endRepetition needed done s).after r.trace
      | .unfinished => r

/-- Runs an expression one level deep: `run` runs what it is made of, and a repetition goes round
at most `rounds` times. -/
def step (rules : RuleSet V) (run : Expr V → Cursor → Run V) (rounds : Nat) (e : Expr V)
    (s : Cursor) : Run V :=
  match e with
  | .literal text =>
    if s.peek text.length = text then .matched (.literal text) (s.read text.length) else .noMatch
  | .charClass cls =>
    match s.ahead with
    | c :: _ => if cls.accepts c then .matched (.char c) (s.read 1) else .noMatch
    | [] => .noMatch
  | .sequence parts => runParts run [] parts s
  | .repetition body min max => runRepeatedly (run body) rounds min max [] s
  | .alternation choices => runChoices run choices s
  | .reference name =>
    match rules.resolve name with
    | some rule => (run rule s).after [.entered name s.offset]
    | none => ⟨.noMatch, [.entered name s.offset, .undefinedRule name]⟩
  | .hooked body h => (run body s).hook h

def run (rules : RuleSet V) : Nat → Expr V → Cursor → Run V
  | 0, _, _ => .unfinished
  | fuel + 1, e, s => step rules (run rules fuel) fuel e s

/-- Without left recursion no expression runs inside itself at the same place, so there are at most
as many runs inside each other as there are pairs of a place and an expression. -/
def fuelFor (rules : RuleSet V) (e : Expr V) (s : Cursor) : Nat :=
  (s.ahead.length + 1) * (e.size + rules.size + 1) + 2

def apply (rules : RuleSet V) (e : Expr V) (s : Cursor) : Run V :=
  e.run rules (fuelFor rules e s) s

end Expr

end PegGrammar
