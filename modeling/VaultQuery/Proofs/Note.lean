import VaultQuery.Note
import VaultQuery.Proofs.Text.Pattern
import VaultQuery.Proofs.Token.Lexeme

/-!
The blocks of a note, line by line.  The pattern of a block takes an opening line, the lines up to
the first closing line, and that one (`Block.exists_found`, `Block.not_startsAt`); so the search for
it finds the blocks that a scan over the lines finds (`blocks_are_scanned`).
-/

namespace VaultQuery

open Text (lines Pattern)

/-! ## Lines -/

namespace Text

variable {cs pre : List Char}

theorem cutAt_append_mark (mark : Char) (s t : List Char) :
    cutAt mark (s ++ mark :: t) = cutAt mark s ++ cutAt mark t := by
  induction s with
  | nil =>
      cases h : cutAt mark t with
      | nil => exact absurd h (cutAt_ne_nil mark t)
      | cons part parts => simp [cutAt, h]
  | cons c s ih =>
      cases h : cutAt mark s with
      | nil => exact absurd h (cutAt_ne_nil mark s)
      | cons part parts =>
          simp only [List.cons_append, cutAt, ih, h]
          split <;> rfl

theorem cutAt_of_notMem {mark : Char} (h : mark ∉ cs) : cutAt mark cs = [cs] := by
  induction cs with
  | nil => rfl
  | cons c cs ih =>
      obtain ⟨hc, hcs⟩ : mark ≠ c ∧ mark ∉ cs := by simpa using h
      simp [cutAt, ih hcs, hc.symm]

theorem length_lines (cs : List Char) : (lines cs).length = cs.count '\n' + 1 := by
  induction cs with
  | nil => rfl
  | cons c cs ih =>
      rw [lines] at ih ⊢
      cases h : cutAt '\n' cs with
      | nil => exact absurd h (cutAt_ne_nil _ cs)
      | cons part parts =>
          rw [h] at ih
          by_cases hc : c = '\n'
          · simpa [cutAt, h, hc, List.count_cons] using ih
          · simpa [cutAt, h, hc, List.count_cons] using ih

theorem lines_line {line : List Char} (hline : '\n' ∉ line) (cs : List Char) :
    lines (line ++ '\n' :: cs) = line :: lines cs := by
  rw [lines, cutAt_append_mark, cutAt_of_notMem hline]
  rfl

/-- A text is one line, or it has a first line and goes on behind it. -/
theorem lines_cases (cs : List Char) :
    '\n' ∉ cs ∧ lines cs = [cs] ∨
      ∃ line cs', cs = line ++ '\n' :: cs' ∧ '\n' ∉ line ∧ lines cs = line :: lines cs' := by
  by_cases h : '\n' ∈ cs
  · right
    obtain ⟨line, cs', rfl, hline⟩ := List.eq_append_cons_of_mem h
    exact ⟨line, cs', rfl, hline, lines_line hline cs'⟩
  · exact .inl ⟨h, cutAt_of_notMem h⟩

/-- What stands behind a text starts a line. -/
def StartsLine (pre : List Char) : Prop :=
  pre.getLast?.all (· == '\n') = true

/-- What stands before a text ends a line. -/
def EndsLine (rest : List Char) : Prop :=
  rest.head?.all (· == '\n') = true

theorem startsLine_iff : StartsLine pre ↔ pre = [] ∨ ∃ s, pre = s ++ ['\n'] := by
  rcases List.eq_nil_or_concat pre with rfl | ⟨s, c, rfl⟩
  · simp [StartsLine]
  · simp [StartsLine]

theorem endsLine_iff {rest : List Char} : EndsLine rest ↔ rest = [] ∨ ∃ s, rest = '\n' :: s := by
  cases rest <;> simp [EndsLine]

theorem startsLine_concat (s : List Char) : StartsLine (s ++ ['\n']) :=
  startsLine_iff.mpr (.inr ⟨s, rfl⟩)

theorem StartsLine.append {s t : List Char} (ht : StartsLine t) : StartsLine (s ++ '\n' :: t) := by
  rcases startsLine_iff.mp ht with rfl | ⟨u, rfl⟩
  · exact startsLine_concat s
  · have hshift : s ++ '\n' :: (u ++ ['\n']) = (s ++ '\n' :: u) ++ ['\n'] := by simp
    rw [hshift]
    exact startsLine_concat _

/-- The lines before a place where a line starts. -/
def linesBefore (pre : List Char) : List (List Char) :=
  (lines pre).dropLast

theorem length_linesBefore (pre : List Char) : (linesBefore pre).length = pre.count '\n' := by
  rw [linesBefore, List.length_dropLast, length_lines, Nat.add_sub_cancel]

theorem linesBefore_concat (s : List Char) : linesBefore (s ++ ['\n']) = lines s := by
  rw [linesBefore, lines, cutAt_append_mark]
  exact List.dropLast_concat

theorem lines_append (h : StartsLine pre) (cs : List Char) :
    lines (pre ++ cs) = linesBefore pre ++ lines cs := by
  rcases startsLine_iff.mp h with rfl | ⟨s, rfl⟩
  · rfl
  · rw [linesBefore_concat, List.append_assoc, List.singleton_append]
    exact cutAt_append_mark '\n' s cs

theorem exists_lines_of_endsLine {line rest : List Char} (hline : '\n' ∉ line)
    (hrest : EndsLine rest) : ∃ after, lines (line ++ rest) = line :: after := by
  rcases endsLine_iff.mp hrest with rfl | ⟨s, rfl⟩
  · exact ⟨[], by rw [List.append_nil]; exact cutAt_of_notMem hline⟩
  · exact ⟨lines s, lines_line hline s⟩

/-- Where a line of a text stands in it. -/
theorem exists_of_lines_eq {before after : List (List Char)} {line : List Char}
    (h : lines cs = before ++ line :: after) :
    ∃ s rest, cs = s ++ (line ++ rest) ∧ StartsLine s ∧
      (rest = [] ∧ after = [] ∨ ∃ t, rest = '\n' :: t ∧ after = lines t) := by
  induction before generalizing cs with
  | nil =>
      rcases lines_cases cs with ⟨-, hlines⟩ | ⟨first, cs', rfl, -, hlines⟩
      · rw [hlines] at h
        cases h
        exact ⟨[], [], by simp, rfl, .inl ⟨rfl, rfl⟩⟩
      · rw [hlines] at h
        cases h
        exact ⟨[], '\n' :: cs', rfl, rfl, .inr ⟨cs', rfl, rfl⟩⟩
  | cons first before ih =>
      rcases lines_cases cs with ⟨-, hlines⟩ | ⟨first', cs', rfl, -, hlines⟩
      · rw [hlines] at h
        simp at h
      · rw [hlines] at h
        obtain ⟨-, h⟩ := List.cons_eq_cons.mp h
        obtain ⟨s, rest, rfl, hs, hrest⟩ := ih h
        exact ⟨first' ++ '\n' :: s, rest, by simp, hs.append, hrest⟩

theorem exists_of_mem_linesBefore (h : StartsLine pre) {line : List Char}
    (hline : line ∈ linesBefore pre) :
    ∃ s rest, pre = s ++ (line ++ '\n' :: rest) ∧ StartsLine s := by
  rcases startsLine_iff.mp h with rfl | ⟨u, rfl⟩
  · cases hline
  · rw [linesBefore_concat] at hline
    obtain ⟨before, after, hlines⟩ := List.append_of_mem hline
    obtain ⟨s, rest, rfl, hs, ⟨rfl, -⟩ | ⟨t, rfl, -⟩⟩ := exists_of_lines_eq hlines
    · exact ⟨s, [], by simp, hs⟩
    · exact ⟨s, t ++ ['\n'], by simp, hs⟩

end Text

open Text

/-! ## Fences -/

/-- A line with a fence: blanks, three backquotes, a word in any case, blanks, and perhaps a
carriage return. -/
def IsFence (word : String) (line : List Char) : Prop :=
  ∃ indent name blanks ending, line = indent ++ "```".toList ++ name ++ blanks ++ ending ∧
    (∀ c ∈ indent, Block.isInlineBlank c = true) ∧ Token.Spells word.toList name ∧
    (∀ c ∈ blanks, Block.isInlineBlank c = true) ∧ (ending = [] ∨ ending = ['\r'])

namespace Block

variable {word : String} {prev : Option Char} {cs rest line : List Char}

theorem takes_map_one {α : Type} (f : α → Char → Bool) (l : List α) :
    Pattern.Takes (l.map fun a => .one (f a)) prev cs rest ↔
      List.Forall₂ (fun a c => f a c = true) l cs := by
  induction l generalizing prev cs with
  | nil =>
      rw [List.forall₂_nil_left_iff]
      exact Iff.rfl
  | cons a l ih =>
      constructor
      · rintro ⟨_, cs', rfl, ⟨c, rfl, hc⟩, h⟩
        exact .cons hc (ih.mp h)
      · intro h
        cases h with
        | @cons _ c _ cs' hc h => exact ⟨[c], cs', rfl, ⟨c, rfl, hc⟩, ih.mpr h⟩

theorem forall₂_eq_iff (marks cs : List Char) :
    List.Forall₂ (fun mark c => (c == mark) = true) marks cs ↔ cs = marks := by
  simp only [beq_iff_eq]
  constructor
  · intro h
    exact List.forall₂_eq_eq_eq ▸ h.flip
  · rintro rfl
    exact List.forall₂_same.mpr fun _ _ => rfl

theorem takes_fence :
    Pattern.Takes (fence word) prev cs rest ↔ prev.all (· == '\n') = true ∧ IsFence word cs := by
  unfold fence
  simp only [Pattern.takes_append, takes_map_one, forall₂_eq_iff]
  constructor
  · rintro ⟨_, _, rfl, ⟨_, name, rfl, ⟨_, _, rfl, hindent, rfl⟩, hname⟩, hending⟩
    obtain ⟨_, indent, rfl, ⟨rfl, hprev⟩, hindent⟩ := hindent
    obtain ⟨blanks, ending, rfl, hblanks, hending⟩ := hending
    rw [Pattern.takes_singleton] at hindent hending
    refine ⟨hprev, indent, name, blanks, ending, by simp, hindent, hname, hblanks, ?_⟩
    rcases hending with rfl | ⟨c, rfl, hc⟩
    · exact .inl rfl
    · exact .inr (by rw [beq_iff_eq.mp hc])
  · rintro ⟨hprev, indent, name, blanks, ending, rfl, hindent, hname, hblanks, hending⟩
    refine ⟨indent ++ "```".toList ++ name, blanks ++ ending, by simp,
      ⟨indent ++ "```".toList, name, rfl, ⟨indent, _, rfl, ?_, rfl⟩, hname⟩, ?_⟩
    · exact ⟨[], indent, rfl, ⟨rfl, hprev⟩, Pattern.takes_singleton.mpr hindent⟩
    · refine ⟨blanks, ending, rfl, hblanks, Pattern.takes_singleton.mpr ?_⟩
      rcases hending with rfl | rfl
      · exact .inl rfl
      · exact .inr ⟨'\r', rfl, rfl⟩

theorem takes_opening :
    Pattern.Takes opening prev cs rest ↔
      prev.all (· == '\n') = true ∧ ∃ line, cs = line ++ ['\n'] ∧ IsFence "dataview" line := by
  unfold opening
  simp only [Pattern.takes_append, takes_fence, Pattern.takes_singleton]
  constructor
  · rintro ⟨line, _, rfl, ⟨hprev, hline⟩, c, rfl, hc⟩
    exact ⟨hprev, line, by rw [beq_iff_eq.mp hc], hline⟩
  · rintro ⟨hprev, line, rfl, hline⟩
    exact ⟨line, ['\n'], rfl, ⟨hprev, hline⟩, '\n', rfl, rfl⟩

theorem takes_closing :
    Pattern.Takes closing prev cs rest ↔
      prev.all (· == '\n') = true ∧ IsFence "" cs ∧ EndsLine rest := by
  unfold closing
  simp only [Pattern.takes_append, takes_fence, Pattern.takes_singleton]
  constructor
  · rintro ⟨line, _, rfl, ⟨hprev, hline⟩, rfl, hrest⟩
    rw [List.append_nil]
    exact ⟨hprev, hline, hrest⟩
  · rintro ⟨hprev, hline, hrest⟩
    exact ⟨cs, [], (List.append_nil cs).symm, ⟨hprev, hline⟩, rfl, hrest⟩

end Block

namespace IsFence

variable {word : String} {line : List Char}

theorem ne_nil (h : IsFence word line) : line ≠ [] := by
  obtain ⟨indent, name, blanks, ending, rfl, -⟩ := h
  simp

theorem newline_notMem (hword : ∀ l ∈ word.toList, l.isLower = true) (h : IsFence word line) :
    '\n' ∉ line := by
  obtain ⟨indent, name, blanks, ending, rfl, hindent, hname, hblanks, hending⟩ := h
  have hblank : Block.isInlineBlank '\n' ≠ true := by decide
  have hletter : Text.isWord '\n' ≠ true := by decide
  simp only [List.mem_append, not_or]
  refine ⟨⟨⟨⟨fun hmem => hblank (hindent _ hmem), by decide⟩, ?_⟩, ?_⟩, ?_⟩
  · exact fun hmem => hletter (hname.isWord hword _ hmem)
  · exact fun hmem => hblank (hblanks _ hmem)
  · rcases hending with rfl | rfl <;> decide

theorem newline_notMem_opening (h : IsFence "dataview" line) : '\n' ∉ line :=
  h.newline_notMem (List.all_eq_true.mp (by decide))

theorem newline_notMem_closing (h : IsFence "" line) : '\n' ∉ line :=
  h.newline_notMem (List.all_eq_true.mp (by decide))

end IsFence

/-! ## What the pattern finds -/

namespace Block

variable {prev : Option Char} {cs : List Char} {ts : List (List Char)}

/-- `Found cs ts opened body closed tail`: a text starts with an opening line, lines of which none
closes, and a closing line; and the stretches that were taken cover them. -/
structure Found (cs : List Char) (ts : List (List Char)) (opened body closed tail : List Char) :
    Prop where
  text : cs = ts.flatten ++ tail
  taken : ts.flatten = opened ++ '\n' :: (body ++ closed)
  query : ts.getD opening.length [] = body
  opens : IsFence "dataview" opened
  closes : IsFence "" closed
  startsLine : StartsLine body
  endsLine : EndsLine tail
  least : ∀ line ∈ linesBefore body, ¬ IsFence "" line

theorem Found.exists_getLast? {opened body closed tail : List Char}
    (h : Found cs ts opened body closed tail) : ∃ c ≠ '\n', ts.flatten.getLast? = some c := by
  obtain ⟨c, hc⟩ := Option.isSome_iff_exists.mp (List.getLast?_isSome.mpr h.closes.ne_nil)
  refine ⟨c, ?_, ?_⟩
  · rintro rfl
    exact h.closes.newline_notMem_closing (List.mem_of_getLast? hc)
  · rw [h.taken]
    simp [List.getLast?_append, List.getLast?_cons, hc]

theorem all_or_newline (s : List Char) :
    (s.getLast?.or (some '\n')).all (· == '\n') = true ↔ StartsLine s := by
  rw [StartsLine]
  cases s.getLast? <;> simp

/-- The pattern of a block takes a line that opens it, the lines up to the first that closes it, and
that one. -/
theorem exists_found (h : pattern.stretches? prev cs = some ts) :
    ∃ opened body closed tail, Found cs ts opened body closed tail := by
  obtain ⟨ss, us, rest, rfl, hlength, rfl, htakes, hus⟩ := Pattern.of_stretches?_append h
  obtain ⟨-, opened, hss, hopens⟩ := takes_opening.mp htakes
  have hlast : ss.flatten.getLast?.or prev = some '\n' := by rw [hss]; simp
  rw [hlast] at hus
  obtain ⟨body, rest, us, rfl, -, rfl, hclosing, hleast⟩ := Text.Step.of_takeFew_eq_some hus
  obtain ⟨tail, rfl, hclosed⟩ := Pattern.of_stretches? hclosing
  obtain ⟨hstarts, hcloses, hends⟩ := takes_closing.mp hclosed
  rw [all_or_newline] at hstarts
  refine ⟨opened, body, us.flatten, tail, ?_, ?_, ?_, hopens, hcloses, hstarts, hends, ?_⟩
  · simp
  · simp [hss]
  · rw [← hlength]
    simp
  · intro line hline hfence
    -- with a line that closes before, the body would be shorter
    obtain ⟨s, rest, rfl, hs⟩ := exists_of_mem_linesBefore hstarts hline
    have hshorter : Pattern.Takes closing (s.getLast?.or (some '\n')) line
        ('\n' :: (rest ++ (us.flatten ++ tail))) :=
      takes_closing.mpr ⟨(all_or_newline s).mpr hs, hfence, rfl⟩
    obtain ⟨vs, hvs⟩ := Pattern.exists_stretches? hshorter
    have hnone := hleast s _ rfl (by simp)
    rw [List.append_assoc, List.cons_append, hvs] at hnone
    cases hnone

/-- If the pattern takes nothing where a line starts, then no block starts there. -/
theorem not_isFence_of_stretches? (h : pattern.stretches? prev cs = none)
    (hprev : prev.all (· == '\n') = true) {opened body closed tail : List Char}
    (hcs : cs = opened ++ '\n' :: (body ++ (closed ++ tail))) (hopens : IsFence "dataview" opened)
    (hbody : StartsLine body) (hends : EndsLine tail) : ¬ IsFence "" closed := by
  intro hcloses
  have htakes : Pattern.Takes pattern prev (opened ++ ['\n'] ++ (body ++ closed)) tail := by
    refine Pattern.takes_append.mpr ⟨_, _, rfl, takes_opening.mpr ⟨hprev, opened, rfl, hopens⟩, ?_⟩
    refine ⟨body, closed, rfl, fun _ _ => rfl, takes_closing.mpr ⟨?_, hcloses, hends⟩⟩
    rw [List.getLast?_concat, Option.some_or]
    exact (all_or_newline body).mpr hbody
  obtain ⟨ts, hts⟩ := Pattern.exists_stretches? htakes
  have hsame : opened ++ ['\n'] ++ (body ++ closed) ++ tail = cs := by simp [hcs]
  rw [hsame, h] at hts
  cases hts

/-- The pattern takes something only where a line starts. -/
theorem stretches?_of_ne {c : Char} (hc : c ≠ '\n') (cs : List Char) :
    pattern.stretches? (some c) cs = none := by
  have hall : (some c).all (· == '\n') ≠ true := by simpa using hc
  exact if_neg hall

theorem stretches?_nil (prev : Option Char) : pattern.stretches? prev [] = none := by
  cases h : pattern.stretches? prev [] with
  | none => rfl
  | some ts =>
      obtain ⟨opened, body, closed, tail, hfound⟩ := exists_found h
      have htext := hfound.text
      rw [hfound.taken] at htext
      simp at htext

/-! ## Searching line by line -/

theorem search_last {c : Char} (hc : c ≠ '\n') {line : List Char} (hline : '\n' ∉ line)
    (place : Nat) : pattern.search place (some c) 0 line = [] := by
  induction line generalizing place c with
  | nil => rw [Pattern.search, stretches?_nil]; rfl
  | cons d line ih =>
      obtain ⟨hd, hline⟩ : '\n' ≠ d ∧ '\n' ∉ line := by simpa using hline
      rw [Pattern.search_of_stretches?_eq_none (stretches?_of_ne hc _)]
      exact ih hd.symm hline (place + 1)

theorem search_line {c : Char} (hc : c ≠ '\n') {line : List Char} (hline : '\n' ∉ line)
    (place : Nat) (cs : List Char) :
    pattern.search place (some c) 0 (line ++ '\n' :: cs) =
      pattern.search (place + line.length + 1) (some '\n') 0 cs := by
  induction line generalizing place c with
  | nil =>
      exact Pattern.search_of_stretches?_eq_none (stretches?_of_ne hc _)
  | cons d line ih =>
      obtain ⟨hd, hline⟩ : '\n' ≠ d ∧ '\n' ∉ line := by simpa using hline
      rw [List.cons_append, Pattern.search_of_stretches?_eq_none (stretches?_of_ne hc _),
        ih hd.symm hline, List.length_cons]
      congr 1
      omega

variable {place : Nat}

theorem search_of_stretches?_last (h : pattern.stretches? prev cs = none) (hcs : '\n' ∉ cs) :
    pattern.search place prev 0 cs = [] := by
  cases cs with
  | nil => rw [Pattern.search, h]; rfl
  | cons c cs =>
      obtain ⟨hc, hcs⟩ : '\n' ≠ c ∧ '\n' ∉ cs := by simpa using hcs
      rw [Pattern.search_of_stretches?_eq_none h]
      exact search_last hc.symm hcs (place + 1)

theorem search_of_stretches?_line {line : List Char}
    (h : pattern.stretches? prev (line ++ '\n' :: cs) = none) (hline : '\n' ∉ line) :
    pattern.search place prev 0 (line ++ '\n' :: cs) =
      pattern.search (place + line.length + 1) (some '\n') 0 cs := by
  cases line with
  | nil => exact Pattern.search_of_stretches?_eq_none h
  | cons c line =>
      obtain ⟨hc, hline⟩ : '\n' ≠ c ∧ '\n' ∉ line := by simpa using hline
      rw [List.cons_append] at h ⊢
      rw [Pattern.search_of_stretches?_eq_none h, search_line hc.symm hline, List.length_cons]
      congr 1
      omega

end Block

/-! ## Scanning -/

/-- A line of a note opens a block. -/
def OpensAt (ls : List (List Char)) (o : Nat) : Prop :=
  ∃ line, ls[o]? = some line ∧ IsFence "dataview" line

/-- A line of a note closes a block. -/
def ClosesAt (ls : List (List Char)) (c : Nat) : Prop :=
  ∃ line, ls[c]? = some line ∧ IsFence "" line

/-- A line opens a block, and a later one closes it. -/
def StartsAt (ls : List (List Char)) (o : Nat) : Prop :=
  OpensAt ls o ∧ ∃ c, o < c ∧ ClosesAt ls c

/-- The query that stands on some lines: they are joined, and all line ends after the last one that
has something else are left out. -/
def queryOn (ls : List (List Char)) : String :=
  String.ofList (dropEndWhile Block.isLineEnd (['\n'].intercalate ls))

/-- `Scans ls i bs`: a scan over lines that goes on at number `i` finds some blocks.  Each starts at
the first line that opens a block which is closed later, ends at the first line after it that closes
a block, and has the lines between the two. -/
inductive Scans (ls : List (List Char)) : Nat → List Block → Prop
  | done {i : Nat} : (∀ o, i ≤ o → ¬ StartsAt ls o) → Scans ls i []
  | block {i o c : Nat} {bs : List Block} : i ≤ o → StartsAt ls o →
      (∀ o', i ≤ o' → o' < o → ¬ StartsAt ls o') → o < c → ClosesAt ls c →
      (∀ c', o < c' → c' < c → ¬ ClosesAt ls c') → Scans ls (c + 1) bs →
      Scans ls i (⟨queryOn ((ls.take c).drop (o + 1)), o, c⟩ :: bs)

namespace Scans

variable {ls : List (List Char)} {i : Nat} {bs : List Block}

/-- A scan finds one list of blocks. -/
theorem unique {bs' : List Block} (h : Scans ls i bs) (h' : Scans ls i bs') : bs = bs' := by
  induction h generalizing bs' with
  | done hnone =>
      cases h' with
      | done => rfl
      | block hio hstarts => exact absurd hstarts (hnone _ hio)
  | @block i o c bs hio hstarts hfirst hoc hcloses hnext _ ih =>
      cases h' with
      | done hnone => exact absurd hstarts (hnone _ hio)
      | @block _ o' c' bs' hio' hstarts' hfirst' hoc' hcloses' hnext' hrest' =>
          obtain rfl : o = o' := by
            rcases Nat.lt_trichotomy o o' with hlt | heq | hlt
            · exact absurd hstarts (hfirst' o hio hlt)
            · exact heq
            · exact absurd hstarts' (hfirst o' hio' hlt)
          obtain rfl : c = c' := by
            rcases Nat.lt_trichotomy c c' with hlt | heq | hlt
            · exact absurd hcloses (hnext' c hoc hlt)
            · exact heq
            · exact absurd hcloses' (hnext c' hoc' hlt)
          rw [ih hrest']

/-- A line at which no block starts can be passed over. -/
theorem skip (hi : ¬ StartsAt ls i) (h : Scans ls (i + 1) bs) : Scans ls i bs := by
  have hskip : ∀ {o}, i ≤ o → StartsAt ls o → i + 1 ≤ o := by
    intro o hio hstarts
    rcases Nat.eq_or_lt_of_le hio with rfl | hlt
    · exact absurd hstarts hi
    · exact hlt
  cases h with
  | done hnone => exact .done fun o hio hstarts => hnone o (hskip hio hstarts) hstarts
  | block hio hstarts hfirst hoc hcloses hnext hrest =>
      refine .block (by omega) hstarts (fun o hio hlt ho => ?_) hoc hcloses hnext hrest
      exact hfirst o (hskip hio ho) hlt ho

theorem done_of_length_le (h : ls.length ≤ i) : Scans ls i [] := by
  refine .done fun o hio hstarts => ?_
  obtain ⟨⟨line, hline, -⟩, -⟩ := hstarts
  obtain ⟨hlt, -⟩ := List.getElem?_eq_some_iff.mp hline
  omega

/-- A block that starts at the next line. -/
theorem next {front mid after : List (List Char)} {opened closed : List Char}
    (hls : ls = front ++ opened :: (mid ++ closed :: after)) (hopens : IsFence "dataview" opened)
    (hcloses : IsFence "" closed) (hmid : ∀ line ∈ mid, ¬ IsFence "" line)
    (h : Scans ls (front.length + mid.length + 2) bs) :
    Scans ls front.length
      (⟨queryOn mid, front.length, front.length + mid.length + 1⟩ :: bs) := by
  have hopened : OpensAt ls front.length := ⟨opened, by simp [hls], hopens⟩
  have hclosed : ClosesAt ls (front.length + mid.length + 1) := by
    refine ⟨closed, ?_, hcloses⟩
    have hindex : front.length + mid.length + 1 = front.length + (mid.length + 1) := by omega
    simp [hls, hindex]
  have hquery : (ls.take (front.length + mid.length + 1)).drop (front.length + 1) = mid := by
    have hsplit : ls = (front ++ [opened]) ++ (mid ++ closed :: after) := by simp [hls]
    have htake : front.length + mid.length + 1 = (front ++ [opened]).length + mid.length := by
      simp
      omega
    have hdrop : front.length + 1 = (front ++ [opened]).length := by simp
    rw [hsplit, htake, hdrop, List.take_length_add_append, List.drop_left, List.take_left]
  have hlt : front.length < front.length + mid.length + 1 := by omega
  have hblock := Scans.block (Nat.le_refl _) ⟨hopened, _, hlt, hclosed⟩ (fun o' hle hlt' => by omega)
    hlt hclosed (fun c' hlt' hgt hc' => ?_) h
  · rwa [hquery] at hblock
  · -- the lines between the two are those of the body
    obtain ⟨line, hline, hfence⟩ := hc'
    refine hmid line ?_ hfence
    have hindex : c' = front.length + (c' - front.length - 1 + 1) := by omega
    rw [hls, hindex, List.getElem?_append_right (by omega), Nat.add_sub_cancel_left,
      List.getElem?_cons_succ, List.getElem?_append_left (by omega)] at hline
    exact List.mem_of_getElem? hline

theorem le_start (h : Scans ls i bs) :
    (∀ b ∈ bs, i ≤ b.start ∧ b.start < b.stop) ∧ bs.Pairwise fun b b' => b.stop < b'.start := by
  induction h with
  | done => exact ⟨List.forall_mem_nil _, .nil⟩
  | @block i o c bs hio _ _ hoc _ _ _ ih =>
      refine ⟨List.forall_mem_cons.mpr ⟨⟨hio, hoc⟩, fun b hb => ?_⟩, ih.2.cons fun b hb => ?_⟩
      · have hb := ih.1 b hb
        omega
      · exact (ih.1 b hb).1

end Scans

/-! ## Search and scan -/

namespace Block

variable {pre cs : List Char}

/-- The query of a block is the one on its lines. -/
theorem ofList_eq_queryOn {body : List Char} (h : StartsLine body) :
    String.ofList (dropEndWhile isLineEnd body) = queryOn (linesBefore body) := by
  rcases startsLine_iff.mp h with rfl | ⟨s, rfl⟩
  · rfl
  · rw [linesBefore_concat, queryOn, lines, intercalate_cutAt]
    simp [dropEndWhile, isLineEnd]

/-- Where the pattern takes nothing, no block starts. -/
theorem not_startsAt (hpre : StartsLine pre) (h : pattern.stretches? pre.getLast? cs = none) :
    ¬ StartsAt (lines (pre ++ cs)) (pre.count '\n') := by
  rintro ⟨⟨opened, hopened, hopens⟩, c, hlt, closed, hclosed, hcloses⟩
  obtain ⟨k, rfl⟩ : ∃ k, c = pre.count '\n' + (k + 1) := ⟨c - pre.count '\n' - 1, by omega⟩
  rw [lines_append hpre, ← length_linesBefore] at hopened hclosed
  rw [List.getElem?_append_right (Nat.le_refl _), Nat.sub_self] at hopened
  rw [List.getElem?_append_right (Nat.le_add_right _ _), Nat.add_sub_cancel_left] at hclosed
  rcases lines_cases cs with ⟨-, hlines⟩ | ⟨first, rest, rfl, -, hlines⟩
  · rw [hlines] at hclosed
    cases hclosed
  rw [hlines] at hopened hclosed
  cases hopened
  obtain ⟨before, after, hrest⟩ := List.append_of_mem (List.mem_of_getElem? (i := k) hclosed)
  obtain ⟨body, tail, rfl, hbody, htail⟩ := exists_of_lines_eq hrest
  have hends : EndsLine tail := endsLine_iff.mpr (htail.imp And.left fun ⟨t, ht, _⟩ => ⟨t, ht⟩)
  exact not_isFence_of_stretches? h hpre rfl hopens hbody hends hcloses

theorem count_of_notMem {line : List Char} (h : '\n' ∉ line) : line.count '\n' = 0 :=
  List.count_eq_zero.mpr h

/-- What was found is a block of the scan; it starts at the line where the search stands. -/
theorem scans_of_found {ts : List (List Char)} {opened body closed tail : List Char}
    (hpre : StartsLine pre) (hfound : Found cs ts opened body closed tail) {bs : List Block}
    (h : Scans (lines (pre ++ cs)) ((pre ++ ts.flatten).count '\n' + 1) bs) :
    Scans (lines (pre ++ cs)) (pre.count '\n') (ofStretches (pre ++ cs) pre.length ts :: bs) := by
  have hopened := count_of_notMem hfound.opens.newline_notMem_opening
  have hclosed := count_of_notMem hfound.closes.newline_notMem_closing
  have hstop : (pre ++ ts.flatten).count '\n' =
      (linesBefore pre).length + (linesBefore body).length + 1 := by
    simp [hfound.taken, length_linesBefore, hopened, hclosed]
    omega
  obtain ⟨after, hlines⟩ : ∃ after, lines (pre ++ cs) =
      linesBefore pre ++ opened :: (linesBefore body ++ closed :: after) := by
    obtain ⟨after, hafter⟩ := exists_lines_of_endsLine hfound.closes.newline_notMem_closing
      hfound.endsLine
    refine ⟨after, ?_⟩
    rw [lines_append hpre, hfound.text, hfound.taken, List.append_assoc, List.cons_append,
      List.append_assoc, lines_line hfound.opens.newline_notMem_opening,
      lines_append hfound.startsLine, hafter]
  have hblock : ofStretches (pre ++ cs) pre.length ts =
      ⟨queryOn (linesBefore body), (linesBefore pre).length,
        (linesBefore pre).length + (linesBefore body).length + 1⟩ := by
    rw [ofStretches, hfound.query, ofList_eq_queryOn hfound.startsLine, List.take_left,
      hfound.text, ← List.append_assoc, ← List.length_append, List.take_left, hstop,
      length_linesBefore]
  rw [hblock, ← length_linesBefore]
  rw [hstop] at h
  exact .next hlines hfound.opens hfound.closes hfound.least h

/-- Where the search stands at the start of a line, the scan finds what it finds. -/
theorem scans_search (pre cs : List Char) (hpre : StartsLine pre) :
    Scans (lines (pre ++ cs)) (pre.count '\n')
      ((pattern.search pre.length pre.getLast? 0 cs).map fun (place, ts) =>
        ofStretches (pre ++ cs) place ts) := by
  -- the rest of the text gets shorter by the lines of a block, or by one line
  induction hn : cs.length using Nat.strong_induction_on generalizing pre cs with
  | _ n ih =>
  have hnext : ∀ s cs', cs = s ++ '\n' :: cs' →
      Scans (lines (pre ++ cs)) ((pre ++ s).count '\n' + 1)
        ((pattern.search (pre.length + s.length + 1) (some '\n') 0 cs').map fun (place, ts) =>
          ofStretches (pre ++ cs) place ts) := by
    rintro s cs' rfl
    have hlength : cs'.length < n := by
      simp at hn
      omega
    have hrest := ih cs'.length hlength (pre ++ s ++ ['\n']) cs' (startsLine_concat _) rfl
    simpa [Nat.add_assoc] using hrest
  cases hfound : pattern.stretches? pre.getLast? cs with
  | none =>
      refine .skip (not_startsAt hpre hfound) ?_
      rcases lines_cases cs with ⟨hcs, hlines⟩ | ⟨line, cs', rfl, hline, -⟩
      · rw [search_of_stretches?_last hfound hcs]
        refine .done_of_length_le ?_
        rw [length_lines, List.count_append, count_of_notMem hcs, Nat.add_zero]
      · rw [search_of_stretches?_line hfound hline]
        have hrest := hnext line cs' rfl
        rwa [List.count_append, count_of_notMem hline, Nat.add_zero] at hrest
  | some ts =>
      obtain ⟨opened, body, closed, tail, hparts⟩ := exists_found hfound
      obtain ⟨c, hc, hlast⟩ := hparts.exists_getLast?
      have hne : ts.flatten ≠ [] := by
        rw [hparts.taken]
        simp
      have hsearch : pattern.search pre.length pre.getLast? 0 cs = (pre.length, ts) ::
          pattern.search (pre.length + ts.flatten.length) (some c) 0 tail := by
        rw [hparts.text] at hfound ⊢
        rw [Pattern.search_of_stretches? pre.length hfound hne, hlast, Option.some_or]
      rw [hsearch, List.map_cons]
      refine scans_of_found hpre hparts ?_
      rcases endsLine_iff.mp hparts.endsLine with rfl | ⟨cs', rfl⟩
      · rw [search_last hc List.not_mem_nil]
        refine .done_of_length_le ?_
        rw [length_lines, hparts.text, List.append_nil]
      · have hline := search_line hc List.not_mem_nil (pre.length + ts.flatten.length) cs'
        rw [List.nil_append] at hline
        rw [hline]
        exact hnext ts.flatten cs' hparts.text

end Block

/-- The blocks of a note are those that a scan over its lines finds, and no others.  So every block
ends behind its start and before the start of the next one, and a note has a block exactly if the
pattern of a block occurs in it. -/
theorem blocks_are_scanned (note : String) :
    (∀ bs, Scans (lines note.toList) 0 bs ↔ bs = Block.all note) ∧
      (∀ b ∈ Block.all note, b.start < b.stop) ∧
      (Block.all note).Pairwise (fun b b' => b.stop < b'.start) ∧
      (Block.occurs note = true ↔ Block.all note ≠ []) := by
  have hscans : Scans (lines note.toList) 0 (Block.all note) :=
    Block.scans_search [] note.toList rfl
  obtain ⟨hstart, hpairwise⟩ := hscans.le_start
  refine ⟨fun bs => ⟨fun h => h.unique hscans, ?_⟩, fun b hb => (hstart b hb).2, hpairwise, ?_⟩
  · rintro rfl
    exact hscans
  · rw [Block.occurs, Pattern.occurs_iff 0, Block.all, ne_eq, ne_eq, List.map_eq_nil_iff]

end VaultQuery
