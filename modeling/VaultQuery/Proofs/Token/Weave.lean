import VaultQuery.Proofs.Token.Layout

/-!
A text as gaps with tokens between them, and the words between two of its tokens.  The words do not
depend on the blanks in the gaps (`words_between`), so neither do names that are taken from the
text.
-/

namespace VaultQuery.Token

/-! ## The pieces of a text -/

theorem length_placed (p : Position) (xs : List Piece) : (placed p xs).length = xs.length := by
  induction xs generalizing p with
  | nil => rfl
  | cons x xs ih => simp [placed, ih]

theorem tokenize_of_cut {text : String} {xs : List Piece} {g : List Char} (hcut : Cut none xs g)
    (hg : Skipped [] g) (htext : text.toList = joined xs g) :
    ∃ stop : Token, stop.kind = .endOfText ∧ stop.text = "" ∧
      tokenize text = .ok (placed {} xs ++ [stop]) := by
  rw [tokenize, htext, scan_whole hcut hg]
  exact ⟨_, rfl, rfl, rfl⟩

/-- A text that has tokens is pieces up to a last gap. -/
theorem exists_pieces {text : String} {tokens : List Token} (h : tokenize text = .ok tokens) :
    ∃ xs g, text.toList = joined xs g ∧ Cut none xs g ∧ Skipped [] g ∧
      ∃ stop : Token, stop.kind = .endOfText ∧ stop.text = "" ∧
        tokens = placed {} xs ++ [stop] := by
  obtain ⟨xs, g, rest, htext, hcut, hg, hstuck⟩ := exists_cut none text.toList
  cases rest with
  | nil =>
      rw [List.append_nil] at htext hcut
      obtain ⟨stop, hkind, hempty, htokens⟩ := tokenize_of_cut hcut hg htext
      rw [htokens] at h
      exact ⟨xs, g, htext, hcut, hg, stop, hkind, hempty, (Except.ok.inj h).symm⟩
  | cons c ds =>
      obtain ⟨complaint, hlex⟩ := hstuck c ds rfl
      rw [tokenize, htext, scan_stuck hcut hg hlex] at h
      cases h

theorem Cut.exists_lexeme {before : Option Kind} {xs : List Piece} {rest : List Char}
    (h : Cut before xs rest) (p : Position) {t : Token} (ht : t ∈ placed p xs) :
    ∃ before c cs n, lexeme before c cs = .ok (.token t.kind t.text n) := by
  induction h generalizing p with
  | done => cases ht
  | piece _ _ hlex _ _ ih =>
      rcases List.mem_cons.mp ht with rfl | ht
      · exact ⟨_, _, _, _, hlex⟩
      · exact ih _ ht

theorem Cut.kind_ne_end {before : Option Kind} {xs : List Piece} {rest : List Char}
    (h : Cut before xs rest) (p : Position) {t : Token} (ht : t ∈ placed p xs) :
    t.kind ≠ .endOfText := by
  obtain ⟨before, c, cs, n, hlex⟩ := h.exists_lexeme p ht
  exact ((lexeme_lexes before c cs).covers hlex).ne_end

/-! ## A text as gaps and tokens -/

/-- The gaps before, between and after tokens of a text, from an offset on. -/
def gapsFrom (cs : List Char) : (i : Nat) → List Token → List (List Char)
  | i, [] => [cs.drop i]
  | i, t :: ts => slice cs i t.start :: gapsFrom cs t.stop ts

/-- The characters that tokens cover. -/
def covered (cs : List Char) (ts : List Token) : List (List Char) :=
  ts.map fun t => slice cs t.start t.stop

/-- Gaps with tokens between them. -/
def weave : List (List Char) → List (List Char) → List Char
  | [], _ => []
  | g :: _, [] => g
  | g :: gs, o :: os => g ++ (o ++ weave gs os)

theorem joined_eq_weave (xs : List Piece) (g : List Char) :
    joined xs g = weave (xs.map Piece.gap ++ [g]) (xs.map Piece.own) := by
  induction xs with
  | nil => rfl
  | cons x xs ih => simp [joined, weave, ih]

theorem slice_tokenAt {before : Option Kind} {x : Piece} {xs : List Piece} {rest : List Char}
    (h : Cut before (x :: xs) rest) (pre : List Char) :
    slice (pre ++ joined (x :: xs) rest) (x.tokenAt pre).start (x.tokenAt pre).stop = x.own := by
  rw [joined, x.stop_tokenAt, x.start_tokenAt, ← List.append_assoc, ← List.length_append,
    slice_left]
  exact h.take_claimed.1

theorem gapsFrom_placed {before : Option Kind} {xs : List Piece} {g : List Char}
    (h : Cut before xs g) (pre : List Char) :
    gapsFrom (pre ++ joined xs g) pre.length (placed (Position.advance {} pre) xs) =
      xs.map Piece.gap ++ [g] := by
  induction h generalizing pre with
  | done => simp [placed, gapsFrom, joined]
  | @piece before x xs g c cs hgap hall hlex hown htail ih =>
      have hcut := Cut.piece hgap hall hlex hown htail
      have hslice : slice (pre ++ joined (x :: xs) g) pre.length (x.tokenAt pre).start = x.gap := by
        rw [joined, x.start_tokenAt, slice_left, List.take_left]
      rw [placed_cons, gapsFrom, hslice, List.map_cons, List.cons_append, x.stop_tokenAt]
      refine congrArg (x.gap :: ·) ?_
      cases xs with
      | nil =>
          rw [placed, gapsFrom, joined, ← List.append_assoc, ← List.length_append,
            List.drop_length_add_append, hcut.take_claimed.2]
          rfl
      | cons y ys =>
          have hlen : pre.length + x.gap.length + x.own.length =
              (pre ++ (x.gap ++ x.own)).length := by
            simp only [List.length_append]
            omega
          rw [append_joined, hcut.claimed_eq htail.ne_nil, hlen]
          exact ih _

theorem covered_placed {before : Option Kind} {xs : List Piece} {g : List Char}
    (h : Cut before xs g) (pre : List Char) :
    covered (pre ++ joined xs g) (placed (Position.advance {} pre) xs) = xs.map Piece.own := by
  induction h generalizing pre with
  | done => rfl
  | @piece before x xs g c cs hgap hall hlex hown htail ih =>
      have hcut := Cut.piece hgap hall hlex hown htail
      rw [placed_cons, covered, List.map_cons, slice_tokenAt hcut, List.map_cons, append_joined]
      exact congrArg (x.own :: ·) (ih _)

/-! ## The words between two tokens -/

/-- Texts of the same words, whatever word they go on with. -/
def SameWords (cs cs' : List Char) : Prop :=
  ∀ current, Text.wordsFrom current cs = Text.wordsFrom current cs'

theorem SameWords.append {cs cs' : List Char} (h : SameWords cs cs') (v : List Char) :
    SameWords (v ++ cs) (v ++ cs') := by
  intro current
  induction v generalizing current with
  | nil => exact h current
  | cons c v ih => simp only [List.cons_append, Text.wordsFrom, ih]

theorem wordsFrom_isBlanks {g : List Char} (hg : IsBlanks g) (hne : g ≠ [])
    (current rest : List Char) :
    Text.wordsFrom current (g ++ rest) =
      (if current.isEmpty then [] else [current.reverse]) ++ Text.wordsFrom [] rest := by
  induction g generalizing current with
  | nil => exact absurd rfl hne
  | cons c g ih =>
      obtain ⟨hc, hg⟩ := List.forall_mem_cons.mp hg
      have htail : Text.wordsFrom [] (g ++ rest) = Text.wordsFrom [] rest := by
        cases g with
        | nil => rfl
        | cons d g => exact ih hg (by simp) []
      rw [List.cons_append, Text.wordsFrom, if_pos (isBlank_of_isGap c hc), htail]
      split <;> rfl

theorem SameWords.respaced {cs cs' g g' : List Char} (h : SameWords cs cs') (hg : Respaced g g') :
    SameWords (g ++ cs) (g' ++ cs') := by
  rcases hg with rfl | ⟨hne, hne', hb, hb'⟩
  · exact h.append g'
  · intro current
    rw [wordsFrom_isBlanks hb hne, wordsFrom_isBlanks hb' hne', h]

theorem slice_append {pre a cs : List Char} {j : Nat} (hj : (pre ++ a).length ≤ j) :
    slice (pre ++ (a ++ cs)) pre.length j = a ++ slice ((pre ++ a) ++ cs) (pre ++ a).length j := by
  obtain ⟨k, rfl⟩ := Nat.exists_eq_add_of_le hj
  rw [slice_left, List.length_append, Nat.add_assoc, slice_left, List.take_length_add_append]

theorem slice_of_le {cs : List Char} {i j : Nat} (h : j ≤ i) : slice cs i j = [] :=
  List.drop_eq_nil_of_le (Nat.le_trans (List.length_take_le j cs) h)

theorem offset_le_start {p : Position} {xs : List Piece} {t : Token} (h : t ∈ placed p xs) :
    p.offset ≤ t.start ∧ t.start ≤ t.stop := by
  induction xs generalizing p with
  | nil => cases h
  | cons x xs ih =>
      rw [placed, List.mem_cons] at h
      rcases h with rfl | h
      · simp only [Position.place, Position.advance_offset]
        omega
      · have hle := ih h
        rw [Position.advance_offset] at hle
        omega

theorem slice_to_first {before : Option Kind} {x : Piece} {xs : List Piece} {rest : List Char}
    (h : Cut before (x :: xs) rest) (pre : List Char) :
    slice (pre ++ joined (x :: xs) rest) pre.length (x.tokenAt pre).stop = x.gap ++ x.own := by
  have hown := slice_tokenAt h pre
  rw [x.start_tokenAt, ← List.length_append] at hown
  rw [joined] at hown ⊢
  rw [slice_append, List.append_assoc, hown]
  rw [x.stop_tokenAt, List.length_append]
  exact Nat.le_add_right _ _

/-- The end of a token that stands after a piece. -/
theorem length_le_stop {pre : List Char} {x : Piece} {xs : List Piece} {u : Token}
    (hu : u ∈ placed (Position.advance {} (pre ++ (x.gap ++ x.own))) xs) :
    (pre ++ (x.gap ++ x.own)).length ≤ u.start ∧ u.start ≤ u.stop := by
  have hle := offset_le_start hu
  rw [Position.advance_offset] at hle
  exact ⟨(Nat.zero_add _).symm.le.trans hle.1, hle.2⟩

theorem Cut.tail {before : Option Kind} {x : Piece} {xs : List Piece} {rest : List Char}
    (h : Cut before (x :: xs) rest) : Cut (some x.kind) xs rest := by
  cases h with
  | piece _ _ _ _ htail => exact htail

theorem Cut.stop_le {before : Option Kind} {x : Piece} {xs : List Piece} {rest : List Char}
    (h : Cut before (x :: xs) rest) {pre : List Char} {t : Token}
    (ht : t ∈ placed (Position.advance {} (pre ++ (x.gap ++ x.own))) xs) :
    (x.tokenAt pre).stop ≤ t.start := by
  cases xs with
  | nil => cases ht
  | cons y ys =>
      have hle := (length_le_stop ht).1
      rw [x.stop_tokenAt, h.claimed_eq h.tail.ne_nil]
      simp only [List.length_append] at hle
      omega

theorem slice_to_later {pre : List Char} {x : Piece} {xs : List Piece} {rest : List Char}
    {u : Token} (hu : u ∈ placed (Position.advance {} (pre ++ (x.gap ++ x.own))) xs) :
    slice (pre ++ joined (x :: xs) rest) pre.length u.stop =
      x.gap ++ (x.own ++ slice ((pre ++ (x.gap ++ x.own)) ++ joined xs rest)
        (pre ++ (x.gap ++ x.own)).length u.stop) := by
  obtain ⟨hstart, hstop⟩ := length_le_stop hu
  rw [joined, ← List.append_assoc x.gap, slice_append (Nat.le_trans hstart hstop),
    List.append_assoc x.gap x.own (slice _ _ _)]

theorem slice_from_first {pre : List Char} {x : Piece} {xs : List Piece} {rest : List Char}
    {u : Token} (hu : u ∈ placed (Position.advance {} (pre ++ (x.gap ++ x.own))) xs) :
    slice (pre ++ joined (x :: xs) rest) (x.tokenAt pre).start u.stop =
      x.own ++ slice ((pre ++ (x.gap ++ x.own)) ++ joined xs rest)
        (pre ++ (x.gap ++ x.own)).length u.stop := by
  obtain ⟨hstart, hstop⟩ := length_le_stop hu
  have hle : (pre ++ x.gap ++ x.own).length ≤ u.stop := by
    rw [List.append_assoc]
    exact Nat.le_trans hstart hstop
  rw [x.start_tokenAt, ← List.length_append, joined, ← List.append_assoc, slice_append hle,
    List.append_assoc pre]

/-- From the end of a token to the end of a later one there are the same words. -/
theorem sameWords_to {before before' : Option Kind} {xs xs' : List Piece} {g g' : List Char}
    (hcut : Cut before xs g) (hcut' : Cut before' xs' g') (h : List.Forall₂ Twin xs xs')
    (pre pre' : List Char) {j : Nat} {u u' : Token}
    (hu : (placed (Position.advance {} pre) xs)[j]? = some u)
    (hu' : (placed (Position.advance {} pre') xs')[j]? = some u') :
    SameWords (slice (pre ++ joined xs g) pre.length u.stop)
      (slice (pre' ++ joined xs' g') pre'.length u'.stop) := by
  induction h generalizing before before' pre pre' j with
  | nil => cases hu
  | @cons x x' xs xs' hx _ ih =>
      obtain ⟨⟨hown, -, -⟩, hgap⟩ := hx
      rw [placed_cons] at hu hu'
      cases j with
      | zero =>
          obtain rfl := Option.some.inj hu
          obtain rfl := Option.some.inj hu'
          rw [slice_to_first hcut, slice_to_first hcut', hown]
          exact SameWords.respaced (fun _ => rfl) hgap
      | succ j =>
          rw [List.getElem?_cons_succ] at hu hu'
          have hwords := ih hcut.tail hcut'.tail _ _ hu hu'
          rw [hown] at hwords
          rw [slice_to_later (List.mem_of_getElem? hu), slice_to_later (List.mem_of_getElem? hu'),
            hown]
          exact (hwords.append x.own).respaced hgap

/-- From the start of a token to the end of a token there are the same words. -/
theorem words_between {before before' : Option Kind} {xs xs' : List Piece} {g g' : List Char}
    (hcut : Cut before xs g) (hcut' : Cut before' xs' g') (h : Twins xs xs')
    (pre pre' : List Char) {i j : Nat} {t t' u u' : Token}
    (ht : (placed (Position.advance {} pre) xs)[i]? = some t)
    (ht' : (placed (Position.advance {} pre') xs')[i]? = some t')
    (hu : (placed (Position.advance {} pre) xs)[j]? = some u)
    (hu' : (placed (Position.advance {} pre') xs')[j]? = some u') :
    Text.words (slice (pre ++ joined xs g) t.start u.stop) =
      Text.words (slice (pre' ++ joined xs' g') t'.start u'.stop) := by
  induction xs generalizing before before' xs' pre pre' i j with
  | nil => cases ht
  | cons x xs ih =>
  cases h with
  | @cons _ x' _ xs' hx htwins =>
  rw [placed_cons] at ht ht' hu hu'
  match i, j with
  | 0, 0 =>
      obtain rfl := Option.some.inj ht
      obtain rfl := Option.some.inj ht'
      obtain rfl := Option.some.inj hu
      obtain rfl := Option.some.inj hu'
      rw [slice_tokenAt hcut, slice_tokenAt hcut', hx.1]
  | 0, j + 1 =>
      obtain rfl := Option.some.inj ht
      obtain rfl := Option.some.inj ht'
      rw [List.getElem?_cons_succ] at hu hu'
      have hwords := sameWords_to hcut.tail hcut'.tail htwins _ _ hu hu'
      rw [hx.1] at hwords
      rw [slice_from_first (List.mem_of_getElem? hu), slice_from_first (List.mem_of_getElem? hu'),
        hx.1]
      exact hwords.append x.own []
  | i + 1, 0 =>
      obtain rfl := Option.some.inj hu
      obtain rfl := Option.some.inj hu'
      rw [List.getElem?_cons_succ] at ht ht'
      rw [slice_of_le (hcut.stop_le (List.mem_of_getElem? ht)),
        slice_of_le (hcut'.stop_le (List.mem_of_getElem? ht'))]
  | i + 1, j + 1 =>
      rw [List.getElem?_cons_succ] at ht ht' hu hu'
      rw [append_joined, append_joined]
      exact ih hcut.tail hcut'.tail (twins_of_forall₂ htwins) _ _ ht ht' hu hu'

end VaultQuery.Token
