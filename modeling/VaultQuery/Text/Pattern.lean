/-!
Patterns of a text.  A pattern is a row of steps.  Every step can take one or more stretches of the
text, some rather than others, and a pattern takes the first stretches with which all its steps come
to their end.
-/

namespace VaultQuery.Text

/-- A step of a pattern. -/
inductive Step where
  /-- One character of a class. -/
  | one (p : Char → Bool)
  /-- One character of a class, or nothing; rather the character. -/
  | perhaps (p : Char → Bool)
  /-- Any number of characters of a class, rather more than fewer. -/
  | many (p : Char → Bool)
  /-- Any number of characters of a class, rather fewer than more. -/
  | few (p : Char → Bool)
  /-- Nothing, where a line starts. -/
  | lineStart
  /-- Nothing, where a line ends. -/
  | lineEnd

/-- What follows a character in a text, taken apart into stretches. -/
abbrev Matcher : Type := (prev : Option Char) → List Char → Option (List (List Char))

namespace Step

/-- Takes as many characters as can be, so that `k` can take apart the rest; `taken` holds those
taken so far, the last one first. -/
def takeMany (p : Char → Bool) (k : Matcher) (taken : List Char) (prev : Option Char) :
    List Char → Option (List (List Char))
  | [] => (k prev []).map (taken.reverse :: ·)
  | c :: cs =>
    let stop := (k prev (c :: cs)).map (taken.reverse :: ·)
    if p c then
      match takeMany p k (c :: taken) (some c) cs with
      | some ts => some ts
      | none => stop
    else stop

/-- Takes as few characters as can be, so that `k` can take apart the rest; `taken` holds those
taken so far, the last one first. -/
def takeFew (p : Char → Bool) (k : Matcher) (taken : List Char) (prev : Option Char) :
    List Char → Option (List (List Char))
  | [] => (k prev []).map (taken.reverse :: ·)
  | c :: cs =>
    match k prev (c :: cs) with
    | some ts => some (taken.reverse :: ts)
    | none => if p c then takeFew p k (c :: taken) (some c) cs else none

/-- Takes what a step takes, so that `k` can take apart the rest. -/
def take (k : Matcher) : Step → Matcher
  | one p, _, c :: cs => if p c then (k (some c) cs).map ([c] :: ·) else none
  | one _, _, [] => none
  | perhaps p, prev, c :: cs =>
    let stop := (k prev (c :: cs)).map ([] :: ·)
    if p c then
      match k (some c) cs with
      | some ts => some ([c] :: ts)
      | none => stop
    else stop
  | perhaps _, prev, [] => (k prev []).map ([] :: ·)
  | many p, prev, cs => takeMany p k [] prev cs
  | few p, prev, cs => takeFew p k [] prev cs
  | lineStart, prev, cs =>
    if prev.all (· == '\n') then (k prev cs).map ([] :: ·) else none
  | lineEnd, prev, cs =>
    if cs.head?.all (· == '\n') then (k prev cs).map ([] :: ·) else none

end Step

/-- A row of steps. -/
abbrev Pattern : Type := List Step

namespace Pattern

/-- What the steps of a pattern take at the start of a text, one stretch for each of them. -/
def stretches? : Pattern → Matcher
  | [], _, _ => some []
  | step :: steps, prev, cs => step.take (stretches? steps) prev cs

/-- Whether a pattern takes something somewhere in a text. -/
def occurs (p : Pattern) (prev : Option Char) : List Char → Bool
  | [] => (p.stretches? prev []).isSome
  | c :: cs => (p.stretches? prev (c :: cs)).isSome || occurs p (some c) cs

/-- The places where a pattern takes something and what it takes there, from left to right.  A text
that was taken is passed over; `skip` characters of it are left. -/
def search (p : Pattern) (place : Nat) (prev : Option Char) (skip : Nat) :
    List Char → List (Nat × List (List Char))
  | [] => if skip = 0 then ((p.stretches? prev []).map (place, ·)).toList else []
  | c :: cs =>
    match skip with
    | k + 1 => search p (place + 1) (some c) k cs
    | 0 =>
      match p.stretches? prev (c :: cs) with
      | some ts => (place, ts) :: search p (place + 1) (some c) (ts.flatten.length - 1) cs
      | none => search p (place + 1) (some c) 0 cs

end Pattern

end VaultQuery.Text
