import SpecCatalog.Pattern.CharClass

/-!
# Regular expressions and searching with them

An expression describes pieces of a text. Some parts of it describe no characters but
the place where they stand: the start of the text, the end of a line, the edge of a
word. A place is known by the characters on its two sides.

Searching goes through the text once. What may still follow is kept as a list of
expressions: reading a character takes each to its partial derivatives, the expressions
for what is left after that character, of which any one expression has only finitely
many. At every place the whole expression joins the list, because a piece may start
anywhere, and the search ends well as soon as one of the list describes the empty piece
at that place.
-/

namespace SpecCatalog.Pattern

/-- A place in a text: the characters before and after it. -/
structure Place where
  before : Option Char
  after : Option Char
  deriving DecidableEq, Repr

/-- A condition on a place. The ones about words look at ASCII only if told so. -/
inductive Look where
  | textStart
  | textEnd
  | lineStart
  | lineEnd
  /-- Lines that end in a carriage return, a line feed or both. -/
  | anyLineStart
  | anyLineEnd
  | wordEdge (ascii : Bool)
  | noWordEdge (ascii : Bool)
  | wordStart (ascii : Bool)
  | wordEnd (ascii : Bool)
  | noWordBefore (ascii : Bool)
  | noWordAfter (ascii : Bool)
  deriving DecidableEq, Repr

def Look.holds (l : Look) (p : Place) : Bool :=
  let word (ascii : Bool) : Option Char → Bool := Option.any (CharClass.isWord ascii)
  match l with
  | textStart => p.before.isNone
  | textEnd => p.after.isNone
  | lineStart => p.before.all (· = '\n')
  | lineEnd => p.after.all (· = '\n')
  | anyLineStart =>
    p.before.all fun b => b = '\n' || (b = '\r' && p.after != some '\n')
  | anyLineEnd =>
    p.after.all fun a => a = '\r' || (a = '\n' && p.before != some '\r')
  | wordEdge ascii => word ascii p.before != word ascii p.after
  | noWordEdge ascii => word ascii p.before == word ascii p.after
  | wordStart ascii => !word ascii p.before && word ascii p.after
  | wordEnd ascii => word ascii p.before && !word ascii p.after
  | noWordBefore ascii => !word ascii p.before
  | noWordAfter ascii => !word ascii p.after

inductive Expr where
  /-- The empty piece. -/
  | empty
  | chars (k : CharClass)
  | look (l : Look)
  | cat (a b : Expr)
  | alt (a b : Expr)
  /-- `a` so many times and then up to `extra` times more, or without a bound. -/
  | times (a : Expr) (low : Nat) (extra : Option Nat)
  deriving DecidableEq, Repr, Inhabited

namespace Expr

/-- `cat`, but nothing is put before `b` if `a` is empty. -/
def andThen (a b : Expr) : Expr := if a = empty then b else cat a b

/-- `times`, but nothing if there are none. -/
def again (a : Expr) (low : Nat) (extra : Option Nat) : Expr :=
  if low = 0 ∧ extra = some 0 then empty else times a low extra

/-! ## Searching -/

/-- Whether the empty piece at this place is described. -/
def nullable (p : Place) : Expr → Bool
  | empty => true
  | chars _ => false
  | look l => l.holds p
  | cat a b => a.nullable p && b.nullable p
  | alt a b => a.nullable p || b.nullable p
  | times a low _ => low = 0 || a.nullable p

/-- What may follow `c`, which stands after the place `p`. If pieces that are asked for
can be empty at `p`, `c` may belong to any of the repeated pieces, and all others are left
open. -/
def derivatives (p : Place) (c : Char) : Expr → List Expr
  | empty => []
  | chars k => if k.contains c then [empty] else []
  | look _ => []
  | cat a b =>
    (derivatives p c a).map (·.andThen b) ++ if a.nullable p then derivatives p c b else []
  | alt a b => derivatives p c a ++ derivatives p c b
  | times a low extra =>
    if low = 0 || a.nullable p then
      match extra.map (low + ·) with
      | none => (derivatives p c a).map (·.andThen (times a 0 none))
      | some 0 => []
      | some (n + 1) => (derivatives p c a).map (·.andThen (again a 0 (some n)))
    else (derivatives p c a).map (·.andThen (again a (low - 1) extra))

/-- Goes on searching, with what pieces already begun may still need. -/
def searchFrom (e : Expr) : List Expr → Option Char → List Char → Bool
  | begun, before, [] => (e :: begun).any (nullable ⟨before, none⟩)
  | begun, before, c :: cs =>
    let p : Place := ⟨before, some c⟩
    let live := e :: begun
    live.any (nullable p)
      || searchFrom e (live.flatMap (derivatives p c)).eraseDups (some c) cs

/-- Whether the text has a piece that `e` describes. -/
def foundIn (e : Expr) (s : String) : Bool := searchFrom e [] none s.toList

end Expr

end SpecCatalog.Pattern
