import VaultQuery.Text.Emoji

/-!
Mark-up in texts for the screen.  A tag is a name in brackets; it sets the style of what follows
and is not shown itself.  Backslashes before a tag take its meaning away.  Codes of emoji are
replaced in the text between the tags.
-/

namespace VaultQuery.Text.Markup

/-- A character that a tag may start with. -/
def opensTag (c : Char) : Bool :=
  c.isLower || c == '#' || c == '/' || c == '@'

/-- The tag whose bracket stands before a text, and the rest after its closing bracket.  A tag holds
no bracket that opens. -/
def tag? : List Char → Option (List Char × List Char)
  | [] => none
  | c :: cs =>
    let body := cs.takeWhile fun d => d != '[' && d != ']'
    match cs.drop body.length with
    | ']' :: rest => if opensTag c then some (c :: body, rest) else none
    | _ => none

theorem length_lt_of_tag? {cs tag rest : List Char} (h : tag? cs = some (tag, rest)) :
    rest.length < cs.length := by
  cases cs with
  | nil => cases h
  | cons c cs =>
    simp only [tag?] at h
    split at h
    · next r hr =>
      have hl := congrArg List.length hr
      simp only [List.length_drop, List.length_cons] at hl
      split at h
      · cases h
        simp only [List.length_cons]
        omega
      · cases h
    · cases h

/-- The backslashes at the end of a text that is kept last character first. -/
def slashes (seen : List Char) : Nat :=
  (seen.takeWhile (· == '\x5c')).length

/-- So many backslashes. -/
def slashRun (n : Nat) : List Char :=
  List.replicate n '\x5c'

/-- A tag with its brackets. -/
def bracketed (tag : List Char) : List Char :=
  '[' :: tag ++ [']']

/-! ## Escaping -/

/-- Takes the meaning of all tags away; `seen` holds what was read since the last tag, last
character first. -/
def escapeFrom (seen : List Char) : List Char → List Char
  | [] => seen.reverse
  | c :: cs =>
    if c == '[' then
      match _h : tag? cs with
      | some (tag, rest) =>
        seen.reverse ++ slashRun (slashes seen + 1) ++ bracketed tag ++ escapeFrom [] rest
      | none => escapeFrom (c :: seen) cs
    else escapeFrom (c :: seen) cs
termination_by cs => cs.length
decreasing_by
  · have := length_lt_of_tag? _h
    simp only [List.length_cons]
    omega
  all_goals simp

/-- A text whose tags are shown as they stand.  A backslash alone at the end is doubled. -/
def escape (cs : List Char) : List Char :=
  let escaped := escapeFrom [] cs
  if slashes escaped.reverse = 1 then escaped ++ ['\x5c'] else escaped

/-! ## Showing -/

/-- A part of a text with mark-up. -/
inductive Piece where
  | text (cs : List Char)
  | tag (name : List Char)
deriving DecidableEq, Repr

/-- The pieces of a text; `seen` holds what was read since the last tag, last character first.  Of
the backslashes before a tag each second one is shown, and an odd one makes the tag a text. -/
def piecesFrom (seen : List Char) : List Char → List Piece
  | [] => [.text seen.reverse]
  | c :: cs =>
    if c == '[' then
      match _h : tag? cs with
      | some (tag, rest) =>
        let n := slashes seen
        let last := if n % 2 = 1 then Piece.text (bracketed tag) else Piece.tag tag
        .text (seen.drop n).reverse :: .text (slashRun (n / 2)) :: last :: piecesFrom [] rest
      | none => piecesFrom (c :: seen) cs
    else piecesFrom (c :: seen) cs
termination_by cs => cs.length
decreasing_by
  · have := length_lt_of_tag? _h
    simp only [List.length_cons]
    omega
  all_goals simp

/-- A text without the backslash right before a bracket. -/
def bareBrackets : List Char → List Char
  | [] => []
  | [c] => [c]
  | c :: d :: cs =>
    if c == '\x5c' && d == '[' then bareBrackets (d :: cs) else c :: bareBrackets (d :: cs)

/-- The long names of styles that have a short one. -/
def styleNames : List (String × String) :=
  [("b", "bold"), ("d", "dim"), ("i", "italic"), ("u", "underline"), ("r", "reverse"),
   ("c", "conceal"), ("s", "strike"), ("uu", "underline2"), ("o", "overline")]

/-- The style that a tag opens or closes: its words in small letters, up to an equals sign. -/
def style (tag : List Char) : List String :=
  (words (lower (tag.takeWhile (· != '=')))).map fun w =>
    let name := String.ofList w
    ((styleNames.find? fun e => e.1 == name).map (·.2)).getD name

/-- What a piece shows: its text with emoji in place of their codes, and nothing for a tag. -/
def Piece.shown : Piece → List Char
  | .text cs => Emoji.expand (bareBrackets cs)
  | .tag _ => []

/-- What a text with mark-up shows. -/
def shown (cs : List Char) : List Char :=
  (piecesFrom [] cs).flatMap Piece.shown

/-- Whether each closing tag closes an open style, where `styles` are open, the last one first.  A
closing tag without a name closes the last one. -/
def closesFrom (styles : List (List String)) : List Piece → Bool
  | [] => true
  | .text _ :: ps => closesFrom styles ps
  | .tag ('/' :: tag) :: ps =>
    let closed := style tag
    if closed.isEmpty then !styles.isEmpty && closesFrom styles.tail ps
    else styles.contains closed && closesFrom (styles.erase closed) ps
  | .tag tag :: ps => closesFrom (style tag :: styles) ps

/-- Whether a text with mark-up can be shown: each closing tag closes an open style. -/
def isBalanced (cs : List Char) : Bool :=
  closesFrom [] (piecesFrom [] cs)

end VaultQuery.Text.Markup
