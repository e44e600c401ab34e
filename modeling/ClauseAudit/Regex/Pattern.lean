import ClauseAudit.Regex.CharTest

/-!
# Patterns

The structure of a regular expression after reading: every leaf carries the flags that hold for
it. Repetition is greedy, lazy or possessive; look-around, atomic groups, references back to a
captured group and choices that depend on a group are all part of the language.
-/

namespace ClauseAudit.Regex

inductive Anchor where
  | textStart
  | lineStart
  /-- The end of the text. -/
  | textEnd
  /-- The end of the text, or the place before a line break that ends it. -/
  | lastLineEnd
  | lineEnd
  /-- Between a word character and another one; negated, any place that is not. -/
  | wordBoundary (negated ascii : Bool)
  deriving DecidableEq, Repr

inductive Repetition where
  | greedy
  | lazy
  | possessive
  deriving DecidableEq, Repr

/-- The least and greatest number of characters that a pattern takes. -/
structure Width where
  least : Nat
  most : Option Nat
  deriving DecidableEq, Repr

inductive Pattern where
  | empty
  | seq (first rest : Pattern)
  | alt (first rest : Pattern)
  | one (test : CharTest)
  | anchor (a : Anchor)
  | capture (group : Nat) (body : Pattern)
  | backref (group : Nat) (fold : Fold) (width : Width)
  /-- The first branch when the group has been captured, the second otherwise. -/
  | choice (group : Nat) (yes no : Pattern)
  | look (behind negated : Bool) (body : Pattern)
  | atomic (body : Pattern)
  | loop (kind : Repetition) (least : Nat) (most : Option Nat) (body : Pattern)
  deriving DecidableEq, Repr

namespace Width

def zero : Width := ⟨0, some 0⟩

def one : Width := ⟨1, some 1⟩

def add (a b : Width) : Width :=
  ⟨a.least + b.least, match a.most, b.most with
    | some m, some n => some (m + n)
    | _, _ => none⟩

def union (a b : Width) : Width :=
  ⟨min a.least b.least, match a.most, b.most with
    | some m, some n => some (max m n)
    | _, _ => none⟩

def times (w : Width) (least : Nat) (most : Option Nat) : Width :=
  ⟨w.least * least, match w.most, most with
    | some 0, _ => some 0
    | _, some 0 => some 0
    | some m, some n => some (m * n)
    | _, _ => none⟩

/-- Every match has the same number of characters. -/
def isFixed (w : Width) : Bool := w.most == some w.least

end Width

namespace Pattern

def ofList : List Pattern → Pattern
  | [] => .empty
  | [p] => p
  | p :: rest => .seq p (ofList rest)

def oneOf : List Pattern → Pattern
  | [] => .empty
  | [p] => p
  | p :: rest => .alt p (oneOf rest)

def width : Pattern → Width
  | .empty => .zero
  | .seq p q => p.width.add q.width
  | .alt p q => p.width.union q.width
  | .one _ => .one
  | .anchor _ => .zero
  | .capture _ p => p.width
  | .backref _ _ w => w
  | .choice _ p q => p.width.union q.width
  | .look _ _ _ => .zero
  | .atomic p => p.width
  | .loop _ least most p => p.width.times least most

end Pattern

end ClauseAudit.Regex
