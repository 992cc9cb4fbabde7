import PegGrammar.CharClass.SetExpr

/-!
Patterns over texts of one character. Bracket expressions are the part that matters, but there are
groups, alternatives and repetition too.

A pattern can match nothing before the character, nothing after it, or the character itself; these
three facts, the `Spans`, are its meaning.
-/

namespace PegGrammar.CharClass

inductive GroupKind
  | plain
  | numbered
  | named (name : List Char)
deriving BEq, Repr

/-- An anchor holds before a character of its first set and after one of its second. -/
inductive Pattern
  | empty
  | one (s : SetExpr)
  | anchor (before after : SetExpr)
  | group (kind : GroupKind) (body : Pattern)
  | seq (first second : Pattern)
  | alt (first second : Pattern)
  | repeated (body : Pattern) (min : Nat) (max : Option Nat)
deriving Inhabited, BEq

structure Spans where
  before : Bool
  after : Bool
  across : Bool
deriving DecidableEq, Repr

/-- The spans of `n` or more copies in a row, at most `max`. One copy crosses the character; the
others, if any, stay before or after it. -/
def Spans.times (s : Spans) (min : Nat) (max : Option Nat) : Spans where
  before := min == 0 || s.before
  after := min == 0 || s.after
  across := max != some 0 && s.across &&
    (min ≤ 1 || s.before || s.after)

namespace Pattern

def spans (c : Char) : Pattern → Spans
  | .empty => ⟨true, true, false⟩
  | .one s => ⟨false, false, s.contains c⟩
  | .anchor before after => ⟨before.contains c, after.contains c, false⟩
  | .group _ body => body.spans c
  | .seq first second =>
    let a := first.spans c
    let b := second.spans c
    ⟨a.before && b.before, a.after && b.after, a.before && b.across || a.across && b.after⟩
  | .alt first second =>
    let a := first.spans c
    let b := second.spans c
    ⟨a.before || b.before, a.after || b.after, a.across || b.across⟩
  | .repeated body min max => (body.spans c).times min max

def occursIn (p : Pattern) (c : Char) : Bool :=
  let s := p.spans c
  s.before || s.after || s.across

mutual

def depth : Pattern → Nat
  | .empty | .anchor .. => 0
  | .one s => s.depth
  | .group _ body => body.depth + 1
  | .repeated body _ _ => body.depth + 1
  | .seq first second => max first.partDepth second.depth + 1
  | .alt first second => max first.choiceDepth second.depth + 1

def partDepth : Pattern → Nat
  | .seq first second => max first.partDepth second.depth
  | .empty | .anchor .. => 0
  | .one s => s.depth
  | .group _ body => body.depth + 1
  | .repeated body _ _ => body.depth + 1
  | .alt first second => max first.choiceDepth second.depth + 1

def choiceDepth : Pattern → Nat
  | .alt first second => max first.choiceDepth second.depth
  | .empty | .anchor .. => 0
  | .one s => s.depth
  | .group _ body => body.depth + 1
  | .repeated body _ _ => body.depth + 1
  | .seq first second => max first.partDepth second.depth + 1

end

def groupNames : Pattern → List (List Char)
  | .empty | .one _ | .anchor .. => []
  | .group (.named name) body => name :: body.groupNames
  | .group _ body => body.groupNames
  | .seq first second | .alt first second => first.groupNames ++ second.groupNames
  | .repeated body _ _ => body.groupNames

end Pattern

end PegGrammar.CharClass
