import PegGrammar.Proofs.Bracket.Spelling

/-!
A caret in front of a bracket's text. It is dropped before a `]` or a hyphen has a place of its own,
and all it leaves behind is the mark on the outermost bracket, which nothing looks at before that
bracket is closed. So the same tokens are read with it as without it, the same texts are refused,
and what is read in the end is the set of all other characters, whatever operators and brackets it
is put together from.
-/

namespace PegGrammar.CharClass

namespace SetExpr

def complement : SetExpr → SetExpr
  | .nested body negated => .nested body (!negated)
  | s => .nested s true

end SetExpr

namespace Level

def complement (l : Level) : Level := { l with negated := !l.negated }

end Level

namespace Place

/-- Brackets inside each other, innermost first, with the last one negated if it was not. -/
def complementLast : List Level → List Level
  | [] => []
  | [l] => [l.complement]
  | l :: m :: ms => l :: complementLast (m :: ms)

def complement (p : Place) : Place where
  outer := complementLast p.outer
  level := if p.outer = [] then p.level.complement else p.level
  ahead := p.ahead

end Place

def Move.complement : Move → Move
  | .on p => .on p.complement
  | .closed s rest => .closed s.complement rest

namespace Place

end Place

end PegGrammar.CharClass
