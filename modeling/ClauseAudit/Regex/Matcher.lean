import ClauseAudit.Regex.Pattern

/-!
# Matching

A backtracking matcher: a pattern is run at a place of the text with a continuation for what
follows it, and the first way in which all succeeds is taken. Failing hands back the captures as
they are; whoever tries another way puts back those it had before. Outside of repetition only the
groups that start later can have changed, so putting back forgets these; inside, all are restored.
-/

namespace ClauseAudit.Regex

/-- Places where captured groups start and end: group `n` uses slots `2 * n - 2` and `2 * n - 1`.
Only slots below `live` count. -/
structure Captures where
  slots : Array (Option Nat)
  live : Nat

namespace Captures

def none : Captures := ⟨#[], 0⟩

def set (c : Captures) (slot position : Nat) : Captures :=
  if slot < c.live then ⟨c.slots.setIfInBounds slot (some position), c.live⟩
  else
    let kept := c.slots.take c.live
    ⟨(kept ++ Array.replicate (slot - kept.size) Option.none).push (some position), slot + 1⟩

def span? (c : Captures) (group : Nat) : Option (Nat × Nat) :=
  if c.live < 2 * group then Option.none
  else do
    let first ← (← c.slots[2 * group - 2]?)
    let last ← (← c.slots[2 * group - 1]?)
    if last < first then Option.none else return (first, last)

/-- The captures to go on with after a failed attempt that started from `saved`. -/
def restore (saved current : Captures) (inLoop : Bool) : Captures :=
  if inLoop then saved else ⟨current.slots, saved.live⟩

end Captures

inductive Outcome where
  | matched (position : Nat) (captures : Captures)
  | failed (captures : Captures)

/-- What is still to be matched after a part of the pattern. -/
abbrev Continuation := Nat → Captures → Outcome

namespace Outcome

/-- The other way, when this one has failed. -/
def orElse (o : Outcome) (other : Captures → Outcome) : Outcome :=
  match o with
  | .matched p c => .matched p c
  | .failed c => other c

end Outcome

def Anchor.holds (a : Anchor) (text : Array Char) (i : Nat) : Bool :=
  match a with
  | .textStart => i == 0
  | .lineStart => i == 0 || text[i - 1]? == some '\n'
  | .textEnd => i == text.size
  | .lastLineEnd => i == text.size || (i + 1 == text.size && text[i]? == some '\n')
  | .lineEnd => i == text.size || text[i]? == some '\n'
  | .wordBoundary negated ascii =>
    let isWord (c : Option Char) : Bool :=
      (c.map fun c => Category.word.holds ascii c).getD false
    let before := if i = 0 then false else isWord text[i - 1]?
    !text.isEmpty && ((before != isWord text[i]?) != negated)

/-- The text at `i` repeats the text from `first` to `last`; gives the place after it. -/
def repeatsAt? (text : Array Char) (fold : Fold) (first last i : Nat) : Option Nat :=
  let agrees (k : Nat) : Bool :=
    match text[first + k]?, text[i + k]? with
    | some a, some b => fold.lower a.toNat == fold.lower b.toNat
    | _, _ => false
  if (List.range (last - first)).all agrees then some (i + (last - first)) else none

/-- The number of characters from `i` on that pass a test, at most `limit`. -/
def countFrom (text : Array Char) (test : CharTest) (i : Nat) : Nat → Nat → Nat
  | 0, n => n
  | limit + 1, n =>
    match text[i + n]? with
    | some c => if test.accepts c then countFrom text test i limit (n + 1) else n
    | none => n

/-- Tries the continuation after `n` characters, then after fewer, down to `least`. -/
def tryDown (inLoop : Bool) (k : Continuation) (i least : Nat) (saved : Captures) :
    Nat → Captures → Outcome
  | 0, c =>
    if least = 0 then (k i c).orElse fun c => .failed (saved.restore c inLoop) else .failed c
  | n + 1, c =>
    if n + 1 < least then .failed c
    else (k (i + (n + 1)) c).orElse fun c =>
      tryDown inLoop k i least saved n (saved.restore c inLoop)

/-- Tries the continuation after `n` characters, then after more while they pass the test. -/
def tryUp (text : Array Char) (test : CharTest) (inLoop : Bool) (k : Continuation) (i : Nat)
    (saved : Captures) : Nat → Nat → Captures → Outcome
  | 0, n, c => (k (i + n) c).orElse fun c => .failed (saved.restore c inLoop)
  | more + 1, n, c =>
    (k (i + n) c).orElse fun c =>
      let c := saved.restore c inLoop
      match text[i + n]? with
      | some ch =>
        if test.accepts ch then tryUp text test inLoop k i saved more (n + 1) c else .failed c
      | none => .failed c

/-- Repetition of a single character. -/
def runSingle (text : Array Char) (test : CharTest) (kind : Repetition) (least : Nat)
    (most : Option Nat) (inLoop : Bool) (i : Nat) (c : Captures) (k : Continuation) : Outcome :=
  let room := text.size - i
  if room < least then .failed c
  else
    let limit := min room (most.getD room)
    match kind with
    | .greedy =>
      let n := countFrom text test i limit 0
      if n < least then .failed c else tryDown inLoop k i least c n c
    | .lazy =>
      if countFrom text test i least 0 < least then .failed c
      else tryUp text test inLoop k i c (limit - least) least c
    | .possessive =>
      let n := countFrom text test i limit 0
      if n < least then .failed c else k (i + n) c

/-- One more round than `count` is allowed. -/
def allowsMore (most : Option Nat) (count : Nat) : Bool :=
  match most with
  | some n => count < n
  | none => true

/-- Greedy repetition: `count` rounds are done and the last one after the required ones started at
`last`. A round that takes nothing is not repeated. -/
def runGreedy (body : Nat → Captures → Continuation → Outcome) (least : Nat) (most : Option Nat)
    (k : Continuation) : Nat → Nat → Option Nat → Nat → Captures → Outcome
  | 0, _, _, i, c => k i c
  | fuel + 1, count, last, i, c =>
    if count < least then body i c fun i c => runGreedy body least most k fuel (count + 1) last i c
    else if allowsMore most count && last != some i then
      (body i c fun i' c => runGreedy body least most k fuel (count + 1) (some i) i' c).orElse
        fun _ => k i c
    else k i c

/-- Lazy repetition, with the same counts. -/
def runLazy (body : Nat → Captures → Continuation → Outcome) (least : Nat) (most : Option Nat)
    (inLoop : Bool) (k : Continuation) : Nat → Nat → Option Nat → Nat → Captures → Outcome
  | 0, _, _, i, c => k i c
  | fuel + 1, count, last, i, c =>
    if count < least then
      body i c fun i c => runLazy body least most inLoop k fuel (count + 1) last i c
    else
      (k i c).orElse fun c' =>
        let c := c.restore c' inLoop
        if !allowsMore most count || last == some i then .failed c
        else body i c fun i' c => runLazy body least most inLoop k fuel (count + 1) (some i) i' c

/-- Possessive repetition: every round is final once it has matched. -/
def runPossessive (body : Nat → Captures → Continuation → Outcome) (least : Nat)
    (most : Option Nat) (k : Continuation) : Nat → Nat → Option Nat → Nat → Captures → Outcome
  | 0, _, _, i, c => k i c
  | fuel + 1, count, last, i, c =>
    if count < least then
      match body i c .matched with
      | .matched i c => runPossessive body least most k fuel (count + 1) last i c
      | .failed c => .failed c
    else if allowsMore most count && last != some i then
      match body i c .matched with
      | .matched i' c => runPossessive body least most k fuel (count + 1) (some i) i' c
      | .failed _ => k i c
    else k i c

namespace Pattern

/-- Runs a pattern at a place of the text. -/
def run (text : Array Char) : Pattern → Bool → Nat → Captures → Continuation → Outcome
  | .empty, _, i, c, k => k i c
  | .seq p q, inLoop, i, c, k => run text p inLoop i c fun i c => run text q inLoop i c k
  | .alt p q, inLoop, i, c, k =>
    (run text p inLoop i c k).orElse fun c' =>
      (run text q inLoop i (c.restore c' inLoop) k).orElse fun c' =>
        .failed (c.restore c' inLoop)
  | .one test, _, i, c, k =>
    match text[i]? with
    | some ch => if test.accepts ch then k (i + 1) c else .failed c
    | none => .failed c
  | .anchor a, _, i, c, k => if a.holds text i then k i c else .failed c
  | .capture group p, inLoop, i, c, k =>
    run text p inLoop i (c.set (2 * group - 2) i) fun i c => k i (c.set (2 * group - 1) i)
  | .backref group fold _, _, i, c, k =>
    match c.span? group with
    | none => .failed c
    | some (first, last) =>
      match repeatsAt? text fold first last i with
      | some i => k i c
      | none => .failed c
  | .choice group p q, inLoop, i, c, k =>
    if (c.span? group).isSome then run text p inLoop i c k else run text q inLoop i c k
  | .look behind negated p, inLoop, i, c, k =>
    let back := if behind then p.width.least else 0
    if negated then
      if i < back then k i c
      else match run text p inLoop (i - back) c .matched with
        | .matched _ c => .failed c
        | .failed c' => k i (c.restore c' inLoop)
    else
      if i < back then .failed c
      else match run text p inLoop (i - back) c .matched with
        | .matched _ c => k i c
        | .failed c => .failed c
  | .atomic p, inLoop, i, c, k =>
    match run text p inLoop i c .matched with
    | .matched i c => k i c
    | .failed c => .failed c
  | .loop kind least most p, inLoop, i, c, k =>
    match p with
    | .one test => runSingle text test kind least most inLoop i c k
    | _ =>
      let rounds := least + (text.size - i) + 2
      match kind with
      | .greedy => runGreedy (run text p true) least most k rounds 0 none i c
      | .lazy => runLazy (run text p true) least most inLoop k rounds 0 none i c
      | .possessive => runPossessive (run text p inLoop) least most k rounds 0 none i c

/-- The pattern matches at some place from `i` on. -/
def searchFrom (p : Pattern) (text : Array Char) : Nat → Nat → Bool
  | 0, _ => false
  | fuel + 1, i =>
    match p.run text false i .none .matched with
    | .matched _ _ => true
    | .failed _ => searchFrom p text fuel (i + 1)

def search (p : Pattern) (text : String) : Bool :=
  let chars := text.toList.toArray
  p.searchFrom chars (chars.size + 1) 0

end Pattern

end ClauseAudit.Regex
