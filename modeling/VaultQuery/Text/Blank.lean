/-!
Blank characters, and the cutting of a text at them.
-/

namespace VaultQuery.Text

/-- A blank of any script: spaces, tabs, line ends and the separators among the controls. -/
def isBlank (c : Char) : Bool :=
  let n := c.toNat
  (0x09 ≤ n && n ≤ 0x0D) || (0x1C ≤ n && n ≤ 0x20) || n == 0x85 || n == 0xA0 || n == 0x1680 ||
    (0x2000 ≤ n && n ≤ 0x200A) || n == 0x2028 || n == 0x2029 || n == 0x202F || n == 0x205F ||
    n == 0x3000

/-- Every blank of ASCII text is a blank. -/
theorem isBlank_of_isWhitespace {c : Char} (h : c.isWhitespace = true) : isBlank c = true := by
  simp only [Char.isWhitespace, Bool.or_eq_true, decide_eq_true_eq] at h
  rcases h with ((h | h) | h) | h <;> subst h <;> decide

/-- A text without the characters of a class at its end. -/
def dropEndWhile (p : Char → Bool) (cs : List Char) : List Char :=
  (cs.reverse.dropWhile p).reverse

/-- A text without the blanks at its two ends. -/
def trim (cs : List Char) : List Char :=
  dropEndWhile isBlank (cs.dropWhile isBlank)

/-- The words of a text, where `current` holds the word being read, last character first. -/
def wordsFrom (current : List Char) : List Char → List (List Char)
  | [] => if current.isEmpty then [] else [current.reverse]
  | c :: cs =>
    if isBlank c then
      if current.isEmpty then wordsFrom [] cs else current.reverse :: wordsFrom [] cs
    else wordsFrom (c :: current) cs

/-- The maximal runs of characters that are not blank. -/
def words (cs : List Char) : List (List Char) :=
  wordsFrom [] cs

/-- The words of a text with one separator between each two. -/
def joinWords (separator : Char) (cs : List Char) : List Char :=
  [separator].intercalate (words cs)

/-- The characters before the first line end. -/
def firstLine (cs : List Char) : List Char :=
  cs.takeWhile (· != '\n')

/-- Cuts a text at every occurrence of a mark; a text with `n` marks has `n + 1` parts. -/
def cutAt (mark : Char) : List Char → List (List Char)
  | [] => [[]]
  | c :: cs =>
    match cutAt mark cs with
    | [] => [[c]]
    | p :: ps => if c == mark then [] :: p :: ps else (c :: p) :: ps

theorem cutAt_ne_nil (mark : Char) (cs : List Char) : cutAt mark cs ≠ [] := by
  cases cs with
  | nil => simp [cutAt]
  | cons c cs => rw [cutAt]; split <;> (try split) <;> simp

/-- The parts with the mark between each two give the text back. -/
theorem intercalate_cutAt (mark : Char) (cs : List Char) :
    [mark].intercalate (cutAt mark cs) = cs := by
  induction cs with
  | nil => rfl
  | cons c cs ih =>
    rw [cutAt]
    cases h : cutAt mark cs with
    | nil => exact absurd h (cutAt_ne_nil mark cs)
    | cons p ps =>
      rw [h] at ih
      by_cases hc : c = mark
      · simp [hc, List.intercalate_cons_cons, ih]
      · cases ps <;> simp_all [List.intercalate_cons_cons]

/-- The lines of a text. -/
def lines (cs : List Char) : List (List Char) :=
  cutAt '\n' cs

end VaultQuery.Text
