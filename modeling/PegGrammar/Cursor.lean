/-!
A cursor is a place between two characters of a text. Counts are characters, the offset is the
number of UTF-8 bytes behind the cursor, and moving past the end stops at the end. A cursor never
changes: `read` makes a new one, so whoever holds the old one can try again from there.
-/

namespace PegGrammar

def byteLength : List Char → Nat
  | [] => 0
  | c :: cs => c.utf8Size + byteLength cs

@[simp] theorem byteLength_nil : byteLength [] = 0 := rfl

@[simp] theorem byteLength_cons (c : Char) (cs : List Char) :
    byteLength (c :: cs) = c.utf8Size + byteLength cs := rfl

@[simp] theorem byteLength_append (cs ds : List Char) :
    byteLength (cs ++ ds) = byteLength cs + byteLength ds := by
  induction cs with
  | nil => simp
  | cons c cs ih => simp [ih, Nat.add_assoc]

@[simp] theorem byteLength_reverse (cs : List Char) : byteLength cs.reverse = byteLength cs := by
  induction cs with
  | nil => rfl
  | cons c cs ih => simp [ih, Nat.add_comm]

/-- A place in a text: the characters behind it, latest first, and those ahead of it. -/
structure Cursor where
  behind : List Char
  ahead : List Char
  offset : Nat
  offset_eq : offset = byteLength behind
deriving DecidableEq

namespace Cursor

def start (text : String) : Cursor := ⟨[], text.toList, 0, rfl⟩

def text (s : Cursor) : List Char := s.behind.reverse ++ s.ahead

def remaining (s : Cursor) : String := String.ofList s.ahead

def peek (s : Cursor) (n : Nat) : String := String.ofList (s.ahead.take n)

def read (s : Cursor) (n : Nat) : Cursor where
  behind := (s.ahead.take n).reverse ++ s.behind
  ahead := s.ahead.drop n
  offset := s.offset + byteLength (s.ahead.take n)
  offset_eq := by simp [s.offset_eq, Nat.add_comm]

def isComplete (s : Cursor) : Bool := s.ahead.isEmpty

def size (s : Cursor) : Nat := s.offset + byteLength s.ahead

@[simp] theorem text_start (text : String) : (start text).text = text.toList := by
  simp [start, Cursor.text]

@[simp] theorem text_read (s : Cursor) (n : Nat) : (s.read n).text = s.text := by
  simp [read, Cursor.text]

@[simp] theorem offset_read (s : Cursor) (n : Nat) :
    (s.read n).offset = s.offset + byteLength (s.ahead.take n) := rfl

@[simp] theorem ahead_read (s : Cursor) (n : Nat) : (s.read n).ahead = s.ahead.drop n := rfl

end Cursor

end PegGrammar
