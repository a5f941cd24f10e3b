import Mathlib.Data.List.Induction
import VaultQuery.Proofs.Token.Lexeme

/-!
The places of tokens.  A text is cut into pieces, each a gap and the characters of a token after it;
the scan goes from piece to piece (`scan_cut`) and gets stuck, if it does, where no lexeme stands.
The spans of the tokens, their lines and columns and what they cover are read off the pieces.
-/

namespace VaultQuery.Token

/-! ## Gaps -/

/-- Blanks and comments, in a text that goes on with `rest`; a comment runs up to the end of its
line. -/
inductive Skipped (rest : List Char) : List Char → Prop
  | nil : Skipped rest []
  | blank {c : Char} {cs : List Char} : isGap c = true → Skipped rest cs → Skipped rest (c :: cs)
  | comment {body cs : List Char} : '\n' ∉ body → (∀ c ∈ (cs ++ rest).head?, c = '\n') →
      Skipped rest cs → Skipped rest ('/' :: '/' :: (body ++ cs))

/-- The place after more characters. -/
def Position.advance (p : Position) (cs : List Char) : Position :=
  cs.foldl Position.step p

theorem Position.advance_append (p : Position) (cs ds : List Char) :
    p.advance (cs ++ ds) = (p.advance cs).advance ds :=
  List.foldl_append

theorem Position.advance_offset (p : Position) (cs : List Char) :
    (p.advance cs).offset = p.offset + cs.length := by
  induction cs generalizing p with
  | nil => rfl
  | cons c cs ih =>
      have hstep : (p.step c).offset = p.offset + 1 := by
        unfold Position.step
        split <;> rfl
      rw [List.length_cons, Position.advance, List.foldl_cons]
      exact (ih (p.step c)).trans (by omega)

/-- Characters that belong to the last lexeme are passed over. -/
theorem scan_skip (p : Position) (before : Option Kind) (skip : Nat) (cs : List Char) :
    scan p before skip cs =
      scan (p.advance (cs.take skip)) before (skip - cs.length) (cs.drop skip) := by
  induction cs generalizing p skip with
  | nil => simp [Position.advance]
  | cons c cs ih =>
      cases skip with
      | zero => simp [Position.advance]
      | succ skip => simpa [scan, Position.advance] using ih (p.step c) skip

theorem scan_gap {before : Option Kind} {c : Char} {cs : List Char} {n : Nat}
    (h : lexeme before c cs = .ok (.gap n)) (hpos : 1 ≤ n) (hle : n ≤ cs.length + 1)
    (p : Position) :
    scan p before 0 (c :: cs) =
      scan (p.advance ((c :: cs).take n)) before 0 ((c :: cs).drop n) := by
  obtain ⟨m, rfl⟩ := Nat.exists_eq_add_one.mpr hpos
  have hskip : scan p before 0 (c :: cs) = scan p before (m + 1) (c :: cs) := by
    rw [scan, scan, h]
    rfl
  have hzero : m + 1 - (c :: cs).length = 0 := Nat.sub_eq_zero_of_le hle
  rw [hskip, scan_skip, hzero]

theorem scan_token {before : Option Kind} {c : Char} {cs : List Char} {kind : Kind} {text : String}
    {n : Nat} (h : lexeme before c cs = .ok (.token kind text n)) (hpos : 1 ≤ n) (p : Position) :
    scan p before 0 (c :: cs) =
      (scan (p.advance ((c :: cs).take n)) (some kind) (n - (c :: cs).length)
        ((c :: cs).drop n)).map (p.place kind text n :: ·) := by
  obtain ⟨m, rfl⟩ := Nat.exists_eq_add_one.mpr hpos
  rw [← scan_skip, scan, scan, h]
  rfl

theorem firstLine_comment {body rest : List Char} (hbody : '\n' ∉ body)
    (hrest : ∀ c ∈ rest.head?, c = '\n') :
    Text.firstLine ('/' :: '/' :: (body ++ rest)) = '/' :: '/' :: body := by
  have hline : (body ++ rest).takeWhile (· != '\n') = body := by
    refine takeWhile_exact (fun c hc => ?_) (fun c hc => by simp [hrest c hc])
    simpa using ne_of_mem_of_not_mem hc hbody
  simp [Text.firstLine, hline]

/-- The scan passes over a gap. -/
theorem scan_skipped {rest g : List Char} (h : Skipped rest g) (p : Position)
    (before : Option Kind) : scan p before 0 (g ++ rest) = scan (p.advance g) before 0 rest := by
  induction h generalizing p with
  | nil => rfl
  | @blank c cs hc _ ih =>
      rw [List.cons_append,
        scan_gap (Lexes.blank hc).lexeme_eq (Nat.le_refl 1) (Nat.le_add_left _ _)]
      exact ih (p.step c)
  | @comment body cs hbody hend _ ih =>
      have hline : Text.firstLine ('/' :: '/' :: (body ++ (cs ++ rest))) = '/' :: '/' :: body :=
        firstLine_comment hbody hend
      have hlex : lexeme before '/' ('/' :: (body ++ (cs ++ rest))) =
          .ok (.gap ('/' :: '/' :: body).length) := by
        rw [← hline]
        exact Lexes.comment.lexeme_eq
      have hle : ('/' :: '/' :: body).length ≤ ('/' :: (body ++ (cs ++ rest))).length + 1 := by
        simp only [List.length_cons, List.length_append]
        omega
      have hsplit :
          '/' :: '/' :: (body ++ (cs ++ rest)) = ('/' :: '/' :: body) ++ (cs ++ rest) := rfl
      rw [List.cons_append, List.cons_append, List.append_assoc,
        scan_gap hlex (Nat.le_add_left _ _) hle, hsplit, List.take_left, List.drop_left, ih,
        ← Position.advance_append]
      rfl

/-- A text starts with a gap, after which it ends or something else stands. -/
theorem exists_skipped (before : Option Kind) (cs : List Char) :
    ∃ g rest, cs = g ++ rest ∧ Skipped rest g ∧
      ∀ c ds n, rest = c :: ds → lexeme before c ds ≠ .ok (.gap n) := by
  -- a comment is longer than one character, so the induction is on the length
  induction hlen : cs.length using Nat.strong_induction_on generalizing cs with
  | _ len ih =>
  cases cs with
  | nil => exact ⟨[], [], rfl, .nil, nofun⟩
  | cons c ds =>
  subst hlen
  by_cases hstands : ∀ n, lexeme before c ds ≠ .ok (.gap n)
  · refine ⟨[], c :: ds, rfl, .nil, ?_⟩
    rintro c' ds' n heq
    obtain ⟨rfl, rfl⟩ := List.cons_eq_cons.mp heq
    exact hstands n
  · obtain ⟨n, hn⟩ := not_forall_not.mp hstands
    rcases (lexeme_eq_iff.mp hn).gap_cases rfl with hc | ⟨rfl, es, rfl⟩
    · obtain ⟨g, rest, rfl, hg, hrest⟩ := ih ds.length (Nat.lt_succ_self _) ds rfl
      exact ⟨c :: g, rest, rfl, .blank hc hg, hrest⟩
    · have hle := (List.dropWhile_suffix (l := es) (· != '\n')).length_le
      obtain ⟨g, rest, htail, hg, hrest⟩ := ih (es.dropWhile (· != '\n')).length
        (by simp only [List.length_cons]; omega) _ rfl
      refine ⟨'/' :: '/' :: (es.takeWhile (· != '\n') ++ g), rest, ?_, .comment ?_ ?_ hg, hrest⟩
      · rw [List.cons_append, List.cons_append, List.append_assoc, ← htail,
          List.takeWhile_append_dropWhile]
      · intro hmem
        exact absurd (List.mem_takeWhile_imp hmem) (by decide)
      · intro c hc
        have hnot := List.head?_dropWhile_not (· != '\n') es
        rw [htail, Option.mem_def.mp hc] at hnot
        simpa using hnot

/-! ## Pieces -/

/-- A token with the gap before it: `own` are its characters, and `claimed` is their number, or one
more at the end of the text. -/
structure Piece where
  gap : List Char
  own : List Char
  kind : Kind
  text : String
  claimed : Nat

/-- The text of pieces that goes on with `rest`. -/
def joined : List Piece → List Char → List Char
  | [], rest => rest
  | x :: xs, rest => x.gap ++ (x.own ++ joined xs rest)

/-- The kind of the last token. -/
def lastKind (before : Option Kind) : List Piece → Option Kind
  | [] => before
  | x :: xs => lastKind (some x.kind) xs

/-- Each piece is what stands at its place, in a text that goes on with `rest`. -/
inductive Cut : Option Kind → List Piece → List Char → Prop
  | done {before : Option Kind} {rest : List Char} : Cut before [] rest
  | piece {before : Option Kind} {x : Piece} {xs : List Piece} {rest : List Char} {c : Char}
      {cs : List Char} : Skipped (x.own ++ joined xs rest) x.gap →
      x.own ++ joined xs rest = c :: cs →
      lexeme before c cs = .ok (.token x.kind x.text x.claimed) →
      x.own = (c :: cs).take x.claimed → Cut (some x.kind) xs rest → Cut before (x :: xs) rest

/-- Every text is cut into pieces up to its end, or to where no lexeme stands. -/
theorem exists_cut (before : Option Kind) (cs : List Char) :
    ∃ xs g rest, cs = joined xs (g ++ rest) ∧ Cut before xs (g ++ rest) ∧ Skipped rest g ∧
      ∀ c ds, rest = c :: ds →
        ∃ complaint, lexeme (lastKind before xs) c ds = .error complaint := by
  induction hlen : cs.length using Nat.strong_induction_on generalizing before cs with
  | _ len ih =>
  subst hlen
  obtain ⟨g, rest, rfl, hg, hstands⟩ := exists_skipped before cs
  cases rest with
  | nil => exact ⟨[], g, [], rfl, .done, hg, nofun⟩
  | cons c ds =>
  cases hlex : lexeme before c ds with
  | error complaint =>
      refine ⟨[], g, c :: ds, rfl, .done, hg, ?_⟩
      rintro c' ds' heq
      obtain ⟨rfl, rfl⟩ := List.cons_eq_cons.mp heq
      exact ⟨complaint, hlex⟩
  | ok l =>
  cases l with
  | gap n => exact absurd hlex (hstands c ds n rfl)
  | token kind text n =>
  have hpos := ((lexeme_eq_iff.mp hlex).covers rfl).pos
  have hlt : ((c :: ds).drop n).length < (g ++ c :: ds).length := by
    simp only [List.length_drop, List.length_append, List.length_cons]
    omega
  obtain ⟨xs, g', rest, htail, hcut, hg', herr⟩ := ih _ hlt (some kind) _ rfl
  have hall : (c :: ds).take n ++ joined xs (g' ++ rest) = c :: ds := by
    rw [← htail, List.take_append_drop]
  refine ⟨⟨g, (c :: ds).take n, kind, text, n⟩ :: xs, g', rest, ?_, ?_, hg', herr⟩
  · rw [joined, hall]
  · exact .piece (by rw [hall]; exact hg) hall hlex rfl hcut

/-- The tokens of pieces that start at a place. -/
def placed (p : Position) : List Piece → List Token
  | [] => []
  | x :: xs =>
    (p.advance x.gap).place x.kind x.text x.claimed :: placed (p.advance (x.gap ++ x.own)) xs

/-- The place after pieces. -/
def after (p : Position) : List Piece → Position
  | [] => p
  | x :: xs => after (p.advance (x.gap ++ x.own)) xs

/-- How many characters pieces claim past their end. -/
def excess : List Piece → Nat
  | [] => 0
  | [x] => x.claimed - x.own.length
  | _ :: xs => excess xs

theorem Cut.ne_nil {before : Option Kind} {x : Piece} {xs : List Piece} {rest : List Char}
    (h : Cut before (x :: xs) rest) : joined (x :: xs) rest ≠ [] := by
  cases h with
  | piece _ hall =>
      rw [joined, hall]
      simp

/-- Only a token at the end of the text can claim more characters than there are. -/
theorem Cut.claimed_eq {before : Option Kind} {x : Piece} {xs : List Piece} {rest : List Char}
    (h : Cut before (x :: xs) rest) (hne : joined xs rest ≠ []) : x.claimed = x.own.length := by
  cases h with
  | piece _ hall _ hown _ =>
      have hlen := congrArg List.length hall
      have hpos := List.length_pos_of_ne_nil hne
      have htake := congrArg List.length hown
      rw [List.length_append] at hlen
      rw [List.length_take] at htake
      omega

theorem Cut.take_claimed {before : Option Kind} {x : Piece} {xs : List Piece} {rest : List Char}
    (h : Cut before (x :: xs) rest) :
    (x.own ++ joined xs rest).take x.claimed = x.own ∧
      (x.own ++ joined xs rest).drop x.claimed = joined xs rest := by
  cases h with
  | piece _ hall _ hown _ =>
      have htake : (x.own ++ joined xs rest).take x.claimed = x.own := by rw [hall, ← hown]
      have hsplit :
          x.own ++ (x.own ++ joined xs rest).drop x.claimed = x.own ++ joined xs rest := by
        conv_lhs =>
          lhs
          rw [← htake]
        exact List.take_append_drop _ _
      exact ⟨htake, List.append_cancel_left hsplit⟩

/-- The characters of a token, and what stands at their place. -/
theorem Cut.exists_lexes {before : Option Kind} {x : Piece} {xs : List Piece} {rest : List Char}
    (h : Cut before (x :: xs) rest) :
    ∃ c own, x.own = c :: own ∧
      Lexes before c (own ++ joined xs rest) (.ok (.token x.kind x.text x.claimed)) := by
  cases h with
  | @piece _ _ _ _ c cs _ hall hlex hown _ =>
      have hlexes := lexeme_eq_iff.mp hlex
      obtain ⟨m, hm⟩ := Nat.exists_eq_add_one.mpr (hlexes.covers rfl).pos
      have hx : x.own = c :: cs.take m := by rw [hown, hm, List.take_succ_cons]
      rw [hx, List.cons_append] at hall
      rw [← (List.cons_eq_cons.mp hall).2] at hlexes
      exact ⟨c, cs.take m, hx, hlexes⟩

theorem Cut.excess_eq_zero {before : Option Kind} {xs : List Piece} {rest : List Char}
    (h : Cut before xs rest) (hne : rest ≠ []) : excess xs = 0 := by
  induction h with
  | done => rfl
  | @piece before x xs rest c cs hgap hall hlex hown htail ih =>
      cases xs with
      | nil =>
          rw [excess, (Cut.piece hgap hall hlex hown htail).claimed_eq hne]
          exact Nat.sub_self _
      | cons y ys => exact ih hne

theorem map_map_append (p q : List Token) (r : Except Located (List Token)) :
    (r.map (q ++ ·)).map (p ++ ·) = r.map (p ++ q ++ ·) := by
  cases r <;> simp [Except.map]

theorem joined_append (xs : List Piece) (rest : List Char) :
    joined xs rest = joined xs [] ++ rest := by
  induction xs with
  | nil => rfl
  | cons x xs ih => rw [joined, joined, ih, List.append_assoc, List.append_assoc]

theorem after_eq (p : Position) (xs : List Piece) : after p xs = p.advance (joined xs []) := by
  induction xs generalizing p with
  | nil => rfl
  | cons x xs ih => rw [after, ih, joined, ← Position.advance_append, List.append_assoc]

/-- The scan goes through pieces one by one. -/
theorem scan_cut {before : Option Kind} {xs : List Piece} {rest : List Char}
    (h : Cut before xs rest) (p : Position) :
    scan p before 0 (joined xs rest) =
      (scan (after p xs) (lastKind before xs) (excess xs) rest).map (placed p xs ++ ·) := by
  induction h generalizing p with
  | @done before rest =>
      show scan p before 0 rest = (scan p before 0 rest).map _
      cases scan p before 0 rest <;> rfl
  | @piece before x xs rest c cs hgap hall hlex hown htail ih =>
      have hpos := ((lexeme_eq_iff.mp hlex).covers rfl).pos
      have hrest := (Cut.piece hgap hall hlex hown htail).take_claimed.2
      rw [hall] at hrest
      have hexcess : x.claimed - (c :: cs).length = x.claimed - x.own.length := by
        rw [hown, List.length_take]
        omega
      rw [joined, scan_skipped hgap, hall, scan_token hlex hpos, hrest, hexcess, ← hown,
        ← Position.advance_append]
      cases xs with
      | nil => rfl
      | cons y ys =>
          have hclaimed := (Cut.piece hgap hall hlex hown htail).claimed_eq htail.ne_nil
          rw [hclaimed, Nat.sub_self, ih, ← hclaimed]
          exact map_map_append [_] _ _

/-- The end of a text that stops at a place, past which `extra` characters are claimed. -/
def endAt (p : Position) (extra : Nat) : Token :=
  { p with offset := p.offset + extra }.place .endOfText "" 0

/-- A text that is pieces up to a last gap is scanned to its end. -/
theorem scan_whole {before : Option Kind} {xs : List Piece} {g : List Char} (h : Cut before xs g)
    (hg : Skipped [] g) (p : Position) :
    scan p before 0 (joined xs g) =
      .ok (placed p xs ++ [endAt (p.advance (joined xs g)) (excess xs)]) := by
  rw [scan_cut h, after_eq, joined_append xs g, Position.advance_append]
  cases g with
  | nil => rfl
  | cons c cs =>
      have hgap := scan_skipped hg (p.advance (joined xs [])) (lastKind before xs)
      rw [List.append_nil] at hgap
      rw [h.excess_eq_zero (by simp), hgap]
      rfl

/-- The scan fails where no lexeme stands. -/
theorem scan_stuck {before : Option Kind} {xs : List Piece} {g ds : List Char} {c : Char}
    {complaint : Complaint} (h : Cut before xs (g ++ c :: ds)) (hg : Skipped (c :: ds) g)
    (hlex : lexeme (lastKind before xs) c ds = .error complaint) (p : Position) :
    scan p before 0 (joined xs (g ++ c :: ds)) =
      .error ((p.advance (joined xs g)).complain complaint (c :: ds)) := by
  rw [scan_cut h, after_eq, h.excess_eq_zero (by simp), scan_skipped hg, scan, hlex,
    joined_append xs g, Position.advance_append]
  rfl

/-! ## The token of a piece -/

/-- The token of a piece that stands after the characters `pre`. -/
def Piece.tokenAt (x : Piece) (pre : List Char) : Token :=
  (Position.advance {} (pre ++ x.gap)).place x.kind x.text x.claimed

theorem Piece.start_tokenAt (x : Piece) (pre : List Char) :
    (x.tokenAt pre).start = pre.length + x.gap.length := by
  rw [tokenAt, Position.place, Position.advance_offset, List.length_append]
  exact Nat.zero_add _

theorem Piece.stop_tokenAt (x : Piece) (pre : List Char) :
    (x.tokenAt pre).stop = pre.length + x.gap.length + x.claimed := by
  rw [← start_tokenAt]
  rfl

theorem placed_cons (pre : List Char) (x : Piece) (xs : List Piece) :
    placed (Position.advance {} pre) (x :: xs) =
      x.tokenAt pre :: placed (Position.advance {} (pre ++ (x.gap ++ x.own))) xs := by
  rw [placed, ← Position.advance_append, ← Position.advance_append]
  rfl

theorem append_joined (pre : List Char) (x : Piece) (xs : List Piece) (rest : List Char) :
    pre ++ joined (x :: xs) rest = (pre ++ (x.gap ++ x.own)) ++ joined xs rest := by
  rw [joined, List.append_assoc, List.append_assoc]

/-! ## Lines and columns -/

/-- The line of an offset, counted from 1. -/
def lineAt (cs : List Char) (n : Nat) : Nat :=
  1 + (cs.take n).count '\n'

/-- The column of an offset: how far it is from the last line end before it. -/
def columnAt (cs : List Char) (n : Nat) : Nat :=
  ((cs.take n).reverse.takeWhile (· != '\n')).length + 1

theorem advance_snoc (cs : List Char) (c : Char) :
    Position.advance {} (cs ++ [c]) = (Position.advance {} cs).step c :=
  Position.advance_append {} cs [c]

theorem advance_eq (cs rest : List Char) :
    Position.advance {} cs =
      ⟨cs.length, lineAt (cs ++ rest) cs.length, columnAt (cs ++ rest) cs.length⟩ := by
  rw [lineAt, columnAt, List.take_left]
  induction cs using List.reverseRecOn with
  | nil => rfl
  | append_singleton cs c ih =>
      rw [advance_snoc, ih, Position.step]
      by_cases hc : c = '\n'
      · subst hc
        simp [List.count_append]
        omega
      · simp [List.count_append, hc]

/-! ## Tokens on a text -/

/-- The characters between two offsets. -/
def slice (cs : List Char) (i j : Nat) : List Char :=
  (cs.take j).drop i

theorem slice_left (pre cs : List Char) (n : Nat) :
    slice (pre ++ cs) pre.length (pre.length + n) = cs.take n := by
  rw [slice, List.take_length_add_append, List.drop_left]

/-- A token that is no end covers part of a text, is located by its line and column there, and has
the text that it covers if its kind has. -/
structure Stands (cs : List Char) (t : Token) : Prop where
  ne_end : t.kind ≠ .endOfText
  nonempty : t.start < t.stop
  inside : t.start < cs.length
  line : t.line = lineAt cs t.start
  column : t.column = columnAt cs t.start
  verbatim : isVerbatim t.kind (slice cs t.start t.stop) = true →
    t.text = String.ofList (slice cs t.start t.stop)

/-- From the offset `i` to the offset `j` a text is tokens one after the other, with gaps before,
between and after them. -/
inductive Tiled (cs : List Char) : Nat → List Token → Nat → Prop
  | gap {i j : Nat} : i ≤ j → Skipped (cs.drop j) (slice cs i j) → Tiled cs i [] j
  | token {i j : Nat} {t : Token} {ts : List Token} : i ≤ t.start →
      Skipped (cs.drop t.start) (slice cs i t.start) → Stands cs t → Tiled cs t.stop ts j →
      Tiled cs i (t :: ts) j

/-- Where a lexeme is a token, that token stands. -/
theorem stands_of_lexeme {before : Option Kind} {c : Char} {cs : List Char} {kind : Kind}
    {text : String} {n : Nat} (h : lexeme before c cs = .ok (.token kind text n))
    (pre : List Char) : Stands (pre ++ c :: cs) ((Position.advance {} pre).place kind text n) := by
  have hcovers := (lexeme_eq_iff.mp h).covers rfl
  rw [advance_eq pre (c :: cs)]
  refine ⟨hcovers.ne_end, Nat.lt_add_of_pos_right hcovers.pos, by simp [Position.place], rfl, rfl,
    ?_⟩
  show isVerbatim kind (slice _ pre.length (pre.length + n)) = true →
    text = String.ofList (slice _ pre.length (pre.length + n))
  rw [slice_left]
  exact hcovers.verbatim

theorem tiled_gap {w g rest : List Char} (hg : Skipped rest g) :
    Tiled (w ++ (g ++ rest)) w.length [] (w ++ g).length := by
  rw [List.length_append]
  refine .gap (Nat.le_add_right _ _) ?_
  rwa [slice_left, List.take_left, List.drop_length_add_append, List.drop_left]

theorem tiled_self (cs : List Char) (i : Nat) : Tiled cs i [] i := by
  refine .gap (Nat.le_refl i) ?_
  rw [slice, List.drop_eq_nil_of_le (List.length_take_le i cs)]
  exact .nil

theorem tiled_end {before : Option Kind} {xs : List Piece} {g : List Char} (h : Cut before xs g)
    (hg : Skipped [] g) :
    Tiled (joined xs g) ((joined xs []).length + excess xs) []
      ((joined xs g).length + excess xs) := by
  cases g with
  | nil => exact tiled_self _ _
  | cons c cs =>
      have hgap := tiled_gap (w := joined xs []) hg
      rw [List.append_nil] at hgap
      rwa [h.excess_eq_zero (by simp), joined_append xs (c :: cs)]

theorem tiled_of_cut {before : Option Kind} {xs : List Piece} {rest : List Char}
    (h : Cut before xs rest) (pre : List Char) {j : Nat}
    (hend : Tiled (pre ++ joined xs rest)
      ((after (Position.advance {} pre) xs).offset + excess xs) [] j) :
    Tiled (pre ++ joined xs rest) pre.length (placed (Position.advance {} pre) xs) j := by
  induction h generalizing pre with
  | done =>
      rw [after, Position.advance_offset] at hend
      simpa [excess, placed] using hend
  | @piece before x xs rest c cs hgap hall hlex hown htail ih =>
      have hcut := Cut.piece hgap hall hlex hown htail
      have hstands : Stands (pre ++ joined (x :: xs) rest) (x.tokenAt pre) := by
        rw [joined, hall, ← List.append_assoc]
        exact stands_of_lexeme hlex (pre ++ x.gap)
      rw [placed_cons]
      refine .token (by rw [x.start_tokenAt]; exact Nat.le_add_right _ _) ?_ hstands ?_
      · rw [x.start_tokenAt, joined, slice_left, List.take_left, List.drop_length_add_append,
          List.drop_left]
        exact hgap
      · rw [x.stop_tokenAt]
        cases xs with
        | nil =>
            have hlen := congrArg List.length hcut.take_claimed.1
            rw [List.length_take] at hlen
            refine cast (congrArg (Tiled _ · _ _) ?_) hend
            simp only [after, excess, Position.advance_offset, List.length_append]
            omega
        | cons y ys =>
            have hlen : pre.length + x.gap.length + x.own.length =
                (pre ++ (x.gap ++ x.own)).length := by
              simp only [List.length_append]
              omega
            rw [append_joined, hcut.claimed_eq htail.ne_nil, hlen]
            refine ih _ ?_
            rwa [← append_joined, Position.advance_append]

/-! ## The end of the text -/

/-- One if the last token is an operator at the last character of the text, else zero. -/
def overrun (cs : List Char) (ts : List Token) : Nat :=
  match ts.getLast?.map fun t => cs.drop t.start with
  | some [c] => if (operator? c).isSome then 1 else 0
  | _ => 0

theorem excess_eq_overrun {before : Option Kind} {xs : List Piece} {rest : List Char}
    (h : Cut before xs rest) (pre : List Char) :
    excess xs = overrun (pre ++ joined xs rest) (placed (Position.advance {} pre) xs) := by
  induction h generalizing pre with
  | done => rfl
  | @piece before x xs rest c cs hgap hall hlex hown htail ih =>
      rw [placed_cons]
      cases xs with
      | nil =>
          have hdrop : (pre ++ joined [x] rest).drop (pre.length + x.gap.length) = c :: cs := by
            rw [joined, List.drop_length_add_append, List.drop_left, hall]
          have hreach := ((lexeme_eq_iff.mp hlex).covers rfl).reach
          have hlen := congrArg List.length hown
          rw [List.length_take, List.length_cons] at hlen
          simp only [overrun, placed, List.getLast?_singleton, Option.map_some, x.start_tokenAt,
            hdrop, excess]
          split
          case h_1 c' heq =>
              obtain ⟨rfl, rfl⟩ := List.cons_eq_cons.mp (Option.some.inj heq)
              rw [List.length_nil] at hlen hreach
              split <;> simp_all
          case h_2 hne =>
              rw [if_neg (by rintro ⟨rfl, -⟩; exact hne c rfl)] at hreach
              omega
      | cons y ys =>
          rw [append_joined, placed_cons, overrun, List.getLast?_cons_cons, ← placed_cons]
          exact ih (pre ++ (x.gap ++ x.own))

/-- What stands at a place where no lexeme does: a character that opens none, a string without its
closing quote, or a link without its closing brackets. -/
inductive Offends : List Char → Complaint → Prop
  | character {c : Char} {cs : List Char} : isGap c = false → isQuote c = false →
      Text.isDigit c = false → (c = '#' → cs.head?.any isTagChar = false) → operator? c = none →
      Text.isWordStart c = false → punctuation? c = none →
      Offends (c :: cs) (.unexpectedCharacter c)
  | string {c : Char} {cs : List Char} : isQuote c = true → stringBody c cs = none →
      Offends (c :: cs) .unterminatedString
  | link {cs : List Char} : ¬ [']', ']'] <:+: cs → Offends ('[' :: '[' :: cs) .unterminatedLink

theorem not_infix_of_linkBody {cs : List Char} (h : linkBody cs = none) : ¬ [']', ']'] <:+: cs := by
  fun_induction linkBody cs with
  | case1 => cases h
  | case2 => simp
  | case3 c cs hne ih =>
      rw [List.infix_cons_iff]
      rintro (⟨rest, hrest⟩ | hinfix)
      · obtain ⟨rfl, rfl⟩ := List.cons_eq_cons.mp hrest
        exact hne rest rfl rfl
      · exact ih (Option.map_eq_none_iff.mp h) hinfix

theorem Lexes.offends {before : Option Kind} {c : Char} {cs : List Char}
    {r : Except Complaint Lexeme} (h : Lexes before c cs r) {complaint : Complaint}
    (hr : r = .error complaint) : Offends (c :: cs) complaint := by
  cases h with
  | openString hq hs =>
      cases hr
      exact .string hq hs
  | openLink hs =>
      cases hr
      exact .link (not_infix_of_linkBody hs)
  | unknown hg hq hd ht ho hw hm =>
      cases hr
      exact .character hg hq hd ht ho hw hm
  | _ => cases hr

/-- The tokens of a text tile it: they do not overlap, what is between them is blank or a comment,
and each is where its line and column say; the end of the text is where it ends, or one further on
after an operator.  If a text has no tokens, the complaint is about what stands after those that
could be cut off, by its line and column. -/
theorem tokenize_tiles (text : String) :
    match tokenize text with
    | .ok tokens => ∃ body stop, tokens = body ++ [stop] ∧ Tiled text.toList 0 body stop.start ∧
        stop = ⟨.endOfText, "", lineAt text.toList text.toList.length,
          columnAt text.toList text.toList.length, text.toList.length + overrun text.toList body,
          text.toList.length + overrun text.toList body⟩
    | .error located => ∃ body n, Tiled text.toList 0 body n ∧
        Offends (text.toList.drop n) located.complaint ∧
        located.line = some (lineAt text.toList n) ∧
        located.column = some (columnAt text.toList n) := by
  obtain ⟨xs, g, rest, hcs, hcut, hg, hstuck⟩ := exists_cut none text.toList
  have hstart : (after {} xs).offset = (joined xs []).length := by
    rw [after_eq, Position.advance_offset]
    exact Nat.zero_add _
  rw [tokenize, hcs]
  cases rest with
  | nil =>
      rw [List.append_nil] at hcut ⊢
      have hover : excess xs = overrun (joined xs g) (placed {} xs) := excess_eq_overrun hcut []
      rw [scan_whole hcut hg, advance_eq (joined xs g) [], List.append_nil]
      refine ⟨placed {} xs, _, rfl, tiled_of_cut hcut [] ?_, ?_⟩
      · show Tiled (joined xs g) ((after {} xs).offset + excess xs) []
          ((joined xs g).length + excess xs)
        rw [hstart]
        exact tiled_end hcut hg
      · rw [endAt, hover]
        rfl
  | cons c ds =>
      obtain ⟨complaint, hlex⟩ := hstuck c ds rfl
      have hwhole : joined xs (g ++ c :: ds) = joined xs g ++ c :: ds := by
        rw [joined_append, joined_append xs g, List.append_assoc]
      rw [scan_stuck hcut hg hlex, advance_eq (joined xs g) (c :: ds), hwhole]
      refine ⟨placed {} xs, (joined xs g).length, ?_, ?_, rfl, rfl⟩
      · rw [← hwhole]
        refine tiled_of_cut hcut [] ?_
        rw [hcut.excess_eq_zero (by simp)]
        show Tiled (joined xs (g ++ c :: ds)) (after {} xs).offset [] _
        rw [hstart, joined_append, joined_append xs g]
        exact tiled_gap hg
      · rw [List.drop_left]
        exact (lexeme_eq_iff.mp hlex).offends rfl

example :
    (tokenize "a +").map (·.map fun t => (t.start, t.stop)) = .ok [(0, 1), (2, 4), (4, 4)] := by
  decide

end VaultQuery.Token
