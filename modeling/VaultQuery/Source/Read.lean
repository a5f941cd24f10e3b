import VaultQuery.Clause
import VaultQuery.Source

/-!
Reading sources: folders, tags, links, negations, and joints that all bind alike and group to the
left.
-/

namespace VaultQuery.Source

/-- Joints between sources. -/
def joint? : Token.Kind → Option Joint
  | .and => some .and
  | .or => some .or
  | _ => none

/-- The readers that a nested construct calls, one level further in. -/
structure Inner where
  source : Reader Source
  atom : Reader Source

/-- Goes one level further in, unless no level is left. -/
def enter (c : Clause) (inner : Option Inner) (body : Inner → Reader Source) : Reader Source :=
  fun ts => match inner with
    | none => .error (c.tooNested ts)
    | some i => body i ts

/-- The name of a tag: its text without the hash signs before it. -/
def tagName (text : String) : String :=
  String.ofList (text.toList.dropWhile (· == '#'))

/-- One source without joints. -/
def atom (c : Clause) (inner : Option Inner) : Reader Source
  | [] => .error (c.complain [] .sourceEnds)
  | t :: ts =>
    match t.kind with
    | .not | .minus => do
      let (s, ts) ← enter c inner (·.atom) ts
      return (.negated s, ts)
    | .string => .ok (if t.text.isEmpty then .everything else .folder t.text, ts)
    | .tag => .ok (.tag (tagName t.text), ts)
    | .link => .ok (.link t.text, ts)
    | .identifier => .ok (.folder t.text, ts)
    | .parenOpen => do
      let (s, ts) ← enter c inner (·.source) ts
      let (_, ts) ← Reader.expect c .parenClose .sourceNotClosed ts
      return (s, ts)
    | _ => .error (c.complain (t :: ts) (.sourceExpected t.text))

/-- Sources with joints between them. -/
def joinedAtoms (c : Clause) (inner : Option Inner) : Reader Source :=
  Reader.chain joint? .joined (atom c inner)

/-- The readers with `levels` levels of nesting left, the first of which they take. -/
def inner? (c : Clause) : (levels : Nat) → Option Inner
  | 0 => none
  | levels + 1 => some ⟨joinedAtoms c (inner? c levels), atom c (inner? c levels)⟩

/-- Reads a source. -/
def source (c : Clause) : Reader Source :=
  joinedAtoms c (inner? c c.budget)

end VaultQuery.Source
