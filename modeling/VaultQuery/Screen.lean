import VaultQuery.Text.Cells
import VaultQuery.Text.Markup

/-!
Texts on a screen of fixed width: the breaking of lines between words, and boxes with a title.
-/

namespace VaultQuery.Screen

/-- How wide the screen is. -/
def width : Nat := 80

/-- How wide the text in a box is. -/
def boxWidth : Nat := width - 4

/-! ## Lines -/

/-- A control character that moves the cursor or rings, and is not shown. -/
def isHidden (c : Char) : Bool :=
  let n := c.toNat
  n == 0x07 || n == 0x08 || n == 0x0B || n == 0x0C || n == 0x0D

/-- The parts of a line between tabs, with spaces in place of the tabs up to the next column that
eight divides. -/
def tabbed (column : Nat) : List (List Char) → List Char
  | [] => []
  | [part] => part
  | part :: next :: parts =>
    let reached := column + Text.cellCount part
    let filled := 8 - reached % 8
    part ++ List.replicate filled ' ' ++ tabbed (reached + filled) (next :: parts)

/-- A line with spaces in place of tabs. -/
def expandTabs (cs : List Char) : List Char :=
  tabbed 0 (Text.cutAt '\t' cs)

/-- Words, each with the blanks after it and the first with the blanks before it; `current` is the
word being read, last character first, and `ended` says that its blanks have begun. -/
def spacedWords (current : List Char) (ended : Bool) : List Char → List (List Char)
  | [] => if current.isEmpty then [] else [current.reverse]
  | c :: cs =>
    if Text.isBlank c then
      spacedWords (c :: current) (ended || current.any (!Text.isBlank ·)) cs
    else if ended then current.reverse :: spacedWords [c] false cs
    else spacedWords (c :: current) false cs

/-- Cuts clusters into pieces that fit a width; `current` is the piece being filled, of `size`
columns.  A last piece without columns is left out. -/
def chop (width : Nat) (current : List Char) (size : Nat) : List Text.Cluster → List (List Char)
  | [] => if size = 0 then [] else [current]
  | k :: ks =>
    if width < size + k.width then current :: chop width k.chars k.width ks
    else chop width (current ++ k.chars) (size + k.width) ks

/-- Lays words out in lines of a width; `current` is the line being filled, of `size` columns.  A
word goes to a new line if without its blanks it does not fit, and is cut if it fits no line. -/
def layOut (width : Nat) (current : List Char) (size : Nat) :
    List (List Char) → List (List Char)
  | [] => [current]
  | word :: words =>
    let bare := Text.cellCount (Text.dropEndWhile Text.isBlank word)
    if size + bare ≤ width then layOut width (current ++ word) (size + Text.cellCount word) words
    else if width < bare then
      let pieces := chop width [] 0 (Text.clusters word)
      let last := pieces.getLast?.getD []
      let lines := if current.isEmpty then pieces.dropLast else current :: pieces.dropLast
      lines ++ layOut width last (Text.cellCount last) words
    else current :: layOut width word (Text.cellCount word) words

/-- A line without the blanks at its end that lie beyond a length. -/
def dropOverhang (length : Nat) (cs : List Char) : List Char :=
  let blanks := (cs.reverse.takeWhile Text.isBlank).length
  cs.take (cs.length - min blanks (cs.length - length))

/-- A line that fits a width: blanks that hang over are dropped first, then what does not fit. -/
def fit (width : Nat) (cs : List Char) : List Char :=
  Text.crop width (dropOverhang width cs)

/-- A text as lines of a width, broken between words where that can be. -/
def wrap (width : Nat) (cs : List Char) : List (List Char) :=
  (Text.lines (cs.filter fun c => !isHidden c)).flatMap fun l =>
    (layOut width [] 0 (spacedWords [] false (expandTabs l))).map (fit width)

/-- Lines, each with its line end. -/
def unlines (lines : List (List Char)) : String :=
  String.ofList (lines.flatMap (· ++ ['\n']))

/-! ## Boxes -/

/-- A line that fits a box, with spaces after it up to the width of the box. -/
def paddedLine (cs : List Char) : List Char :=
  let line := fit boxWidth cs
  line ++ List.replicate (boxWidth - Text.cellCount line) ' '

/-- A box with a title around lines. -/
def box (title : List Char) (lines : List (List Char)) : List (List Char) :=
  let inner := width - 2
  let middle := ' ' :: title ++ [' ']
  let space := inner - Text.cellCount middle
  let rule (n : Nat) : List Char := List.replicate n '─'
  let top := '╭' :: rule (space / 2) ++ middle ++ rule (space - space / 2) ++ ['╮']
  let body := lines.map fun l => '│' :: ' ' :: paddedLine l ++ [' ', '│']
  let bottom := '╰' :: rule inner ++ ['╯']
  top :: body ++ [bottom]

/-- A message as the lines of a box, where tags are shown as they stand. -/
def messageLines (message : List Char) : List (List Char) :=
  wrap boxWidth (Text.Markup.shown (Text.Markup.escape message))

end VaultQuery.Screen
