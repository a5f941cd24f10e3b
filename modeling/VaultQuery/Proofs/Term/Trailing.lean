import VaultQuery.Proofs.Term.Written

/-!
Terms that end in a quoted text.  What stands before an operator is read by itself, also if a string
is left open in it: the string then ends at the next quote, and the quote that was meant to close the
text opens another one (`all?_append_open`).  So an operation with `now() + "…"` on its right is read
as an operation on that sum exactly if its operator is looser than the sum.
-/

namespace VaultQuery

namespace Token

/-- An open string ends at the next quote that a blank stands before. -/
theorem stringBody_append_blank {quote : Char} (hb : quote ≠ '\x5c') (hs : quote ≠ ' ')
    {cs : List Char} (h : stringBody quote cs = none) (rest : List Char) :
    ∃ body, stringBody quote (cs ++ ' ' :: quote :: rest) = some (body, cs.length + 2) := by
  have hblank : stringBody quote (' ' :: quote :: rest) = some ([' '], 2) := by
    rw [stringBody_plain hs.symm (by decide), stringBody_close]
    rfl
  fun_induction stringBody quote cs with
  | case1 => exact ⟨_, hblank⟩
  | case2 => cases h
  | case3 c hc =>
      by_cases hescape : c = '\x5c'
      · subst hescape
        refine ⟨[unescape ' '], ?_⟩
        rw [List.cons_append, List.nil_append, stringBody_escape hb, stringBody_close]
        rfl
      · refine ⟨[c, ' '], ?_⟩
        rw [List.cons_append, stringBody_plain (by simpa using hc) hescape, List.nil_append, hblank]
        rfl
  | case4 => cases h
  | case5 c d cs hc hescape ih =>
      obtain rfl : c = '\x5c' := by simpa using hescape
      obtain ⟨body, hbody⟩ := ih (by simpa using h)
      refine ⟨unescape d :: body, ?_⟩
      rw [List.cons_append, List.cons_append, stringBody_escape hb, hbody]
      rfl
  | case6 c d cs hc hescape ih =>
      obtain ⟨body, hbody⟩ := ih (by simpa using h)
      refine ⟨c :: body, ?_⟩
      rw [List.cons_append, stringBody_plain (by simpa using hc) (by simpa using hescape), hbody]
      rfl

end Token

namespace Sign

/-- A text that is not cut by itself is not cut in front of a quoted text either, if what stands
between the quotes and the closing one are not cut by themselves. -/
theorem all?_append_open {cs rest : List Char} (h : all? cs = none) (hrest : all? rest = none) :
    all? (cs ++ ' ' :: '\x22' :: rest) = none := by
  have hblank : Detached (' ' :: '\x22' :: rest) := detached_cons (by decide) _
  induction cs using drop_induction with
  | nil => exact absurd h (by simp [all?_nil])
  | cons c cs ih =>
      rw [all?_cons] at h
      rw [List.cons_append, all?_cons]
      cases hf : first? c cs with
      | some r =>
          rw [hf, Option.bind_some, Option.map_eq_none_iff] at h
          rw [first?_append hf hblank, Option.bind_some,
            List.drop_append_of_le_length (first?_le hf), ih r.2 h]
          rfl
      | none =>
          by_cases hc : c = '\x22'
          · subst hc
            rw [first?_quote, Option.map_eq_none_iff] at hf
            obtain ⟨body, hbody⟩ :=
              Token.stringBody_append_blank (by decide) (by decide) hf rest
            have hdrop : (cs ++ ' ' :: '\x22' :: rest).drop (cs.length + 2) = rest := by
              simp
            rw [first?_quote, hbody, Option.map_some, Option.bind_some, hdrop, hrest]
            rfl
          · rw [first?_append_of_ne hc cs hblank, hf]
            rfl

end Sign

namespace Term

/-! ## How a term with a text at its end is spelled -/

theorem Spelled.last {k : Nat} {ss : List Sign} {t : Term} (h : Spelled k ss t) :
    ∃ us s, ss = us ++ [s] ∧ s ≠ .parenOpen := by
  match h with
  | .word w => exact ⟨[], _, rfl, by simp⟩
  | .numeral n => exact ⟨[], _, rfl, by simp⟩
  | .text s => exact ⟨[], _, rfl, by simp⟩
  | .paren _ => exact ⟨.parenOpen :: _, _, rfl, by simp⟩
  | .list _ => exact ⟨.bracketOpen :: _, _, rfl, by simp⟩
  | .call w _ => exact ⟨.word w :: .parenOpen :: _, _, rfl, by simp⟩
  | @Spelled.member ss _ w _ => exact ⟨ss ++ [.dot], .word w, by simp, by simp⟩
  | @Spelled.item ss us _ _ _ _ => exact ⟨ss ++ .bracketOpen :: us, .bracketClose, by simp, by simp⟩
  | .not h =>
      obtain ⟨us, s, rfl, hs⟩ := h.last
      exact ⟨.bang :: us, s, rfl, hs⟩
  | @Spelled.binary _ symbol ss _ _ _ _ _ h =>
      obtain ⟨us, s, rfl, hs⟩ := h.last
      exact ⟨ss ++ .operator symbol :: us, s, by simp, hs⟩
  | .looser h => exact h.last

/-- What is spelled at the end of a text ends as the text does. -/
theorem Spelled.getLast?_eq {k : Nat} {us vs ss : List Sign} {s : Sign} {t : Term}
    (h : Spelled k vs t) (hss : us ++ s :: vs = ss) : vs.getLast? = ss.getLast? := by
  obtain ⟨vs, s', rfl, -⟩ := h.last
  rw [← hss, ← List.cons_append, ← List.append_assoc, List.getLast?_concat, List.getLast?_concat]

theorem Spelled.binary_cases {k : Nat} {ss : List Sign} {w t u : Term} {symbol : String}
    (h : Spelled k ss w) (hw : w = .binary symbol t u) (hlast : ss.getLast? ≠ some .parenClose) :
    ∃ j us vs, rank? symbol = some (j + 1) ∧ j + 1 ≤ k ∧ ss = us ++ .operator symbol :: vs ∧
      Spelled (j + 1) us t ∧ Spelled j vs u := by
  match h with
  | .paren _ =>
      rw [← List.cons_append] at hlast
      exact absurd List.getLast?_concat hlast
  | .binary hrank ht hu =>
      obtain ⟨rfl, rfl, rfl⟩ := Term.binary.inj hw
      exact ⟨_, _, _, hrank, Nat.le_refl _, rfl, ht, hu⟩
  | .looser h =>
      obtain ⟨j, us, vs, hrank, hle, hss, ht, hu⟩ := h.binary_cases hw hlast
      exact ⟨j, us, vs, hrank, Nat.le_succ_of_le hle, hss, ht, hu⟩
  | .word w => rcases ofWord_cases w with ⟨b, hb⟩ | hn | hn <;> simp_all

theorem Spelled.text_cases {k : Nat} {ss : List Sign} {w : Term} {s : String}
    (h : Spelled k ss w) (hw : w = .text s) (hlast : ss.getLast? ≠ some .parenClose) :
    ss = [.text s] := by
  match h with
  | .paren _ =>
      rw [← List.cons_append] at hlast
      exact absurd List.getLast?_concat hlast
  | .text _ => rw [Term.text.inj hw]
  | .looser h => exact h.text_cases hw hlast
  | .word w => rcases ofWord_cases w with ⟨b, hb⟩ | hn | hn <;> simp_all

/-- A call without arguments may stand in parentheses. -/
theorem Spelled.call_cases {k : Nat} {ss : List Sign} {w : Term} {f : String}
    (h : Spelled k ss w) (hw : w = .call f []) :
    ss = [.word f, .parenOpen, .parenClose] ∨
      ∃ us, ss = .parenOpen :: (us ++ [.parenClose]) ∧ Spelled loosest us w := by
  match h with
  | .paren h => exact .inr ⟨_, rfl, h⟩
  | .call _ h =>
      obtain ⟨rfl, rfl⟩ := Term.call.inj hw
      cases h
      exact .inl rfl
  | .looser h => exact h.call_cases hw
  | .word w => rcases ofWord_cases w with ⟨b, hb⟩ | hn | hn <;> simp_all

/-! ## A call that is moved by a text -/

/-- A call without arguments, and a text that is added to it. -/
def moved (f text : String) : Term :=
  .binary "+" (.call f []) (.text text)

/-- The signs of a call that is moved by a text. -/
def movedSigns (f text : String) : List Sign :=
  [.word f, .parenOpen, .parenClose, .operator "+", .text text]

theorem spelled_moved (f text : String) : Spelled 3 (movedSigns f text) (moved f text) := by
  have hcall : Spelled 3 [.word f, .parenOpen, .parenClose] (.call f []) :=
    (Spelled.call f .none).mono (Nat.zero_le 3)
  exact hcall.binary rfl ((Spelled.text text).mono (Nat.zero_le 2))

/-- The sum on the right of an operator is an operand exactly if the operator is looser. -/
theorem spelled_moved_iff {symbol f text : String} {j : Nat} (hrank : rank? symbol = some (j + 1))
    (hj : j + 1 ≤ loosest) {us : List Sign} {t : Term} :
    Spelled loosest (us ++ .operator symbol :: movedSigns f text)
        (.binary symbol t (moved f text)) ↔
      3 ≤ j ∧ Spelled (j + 1) us t := by
  constructor
  · intro h
    -- The text at the end closes no parenthesis, so neither operation stands in a pair of them.
    obtain ⟨i, us', vs, hi, -, hss, ht, hsum⟩ := h.binary_cases rfl (by simp [movedSigns])
    obtain rfl : i = j := by simpa using hi.symm.trans hrank
    have hlast := hsum.getLast?_eq hss.symm
    obtain ⟨i', vs', ws, hi', hle, rfl, hcall, htext⟩ :=
      hsum.binary_cases rfl (by simp [hlast, movedSigns])
    obtain rfl : 2 = i' := Nat.succ.inj (Option.some.inj hi')
    obtain rfl := htext.text_cases rfl (by rw [htext.getLast?_eq rfl, hlast]; simp [movedSigns])
    have hfront : us ++ [Sign.operator symbol, Sign.word f, Sign.parenOpen, Sign.parenClose] =
        us' ++ Sign.operator symbol :: vs' := by
      have hends : us ++ [Sign.operator symbol, Sign.word f, Sign.parenOpen, Sign.parenClose] ++
            [Sign.operator "+", Sign.text text] =
          us' ++ Sign.operator symbol :: vs' ++ [Sign.operator "+", Sign.text text] := by
        rw [List.append_assoc, List.append_assoc]
        exact hss
      exact (List.append_inj' hends rfl).1
    rcases hcall.call_cases rfl with rfl | ⟨xs, rfl, hxs⟩
    · obtain rfl := (List.append_inj' hfront rfl).1
      exact ⟨hle, ht⟩
    · -- In parentheses the call would end in an open one.
      obtain ⟨xs, s, rfl, hs⟩ := hxs.last
      have hopen : us ++ [Sign.operator symbol, Sign.word f] ++ [Sign.parenOpen, Sign.parenClose] =
          us' ++ Sign.operator symbol :: Sign.parenOpen :: xs ++ [s, Sign.parenClose] := by
        simpa using hfront
      exact absurd (List.cons.inj (List.append_inj' hopen rfl).2).1.symm hs
  · rintro ⟨hle, ht⟩
    exact (Spelled.binary hrank ht ((spelled_moved f text).mono hle)).mono hj

/-! ## Its text -/

/-- The text of a call that is moved by a text. -/
def movedText (f text : String) : String :=
  f ++ "() + " ++ Vocabulary.quote text

theorem quote_notMem_symbol {symbol : String} {k : Nat} (h : rank? symbol = some k) :
    '\x22' ∉ symbol.toList := by
  have hall : ∀ p ∈ ranks, '\x22' ∉ p.1.toList := by decide
  obtain ⟨l₁, l₂, hl, -⟩ := List.lookup_eq_some_iff.mp h
  exact hall (symbol, k) (by rw [hl]; simp)

section MovedText

variable {f text : String} (hf : Sign.isWordText f = true)

include hf

theorem all?_movedText (text : String) :
    Sign.all? (movedText f text).toList = some (movedSigns f text) := by
  have hchars : (movedText f text).toList =
      f.toList ++ '(' :: ')' :: ' ' :: '+' :: ' ' :: (Vocabulary.quote text).toList := by
    simp [movedText]
  rw [hchars, Sign.all?_append (Sign.all?_word hf) (Sign.detached_cons (by decide) _),
    Sign.all?_mark rfl (by decide), Sign.all?_mark rfl (by decide), Sign.all?_gap rfl,
    Sign.all?_mark rfl (by decide), Sign.all?_gap rfl, Sign.all?_quote]
  rfl

/-- A text is cut before an operator and a sum only if it is cut by itself. -/
theorem exists_all?_left
    (hopen : Sign.all? (text.toList.flatMap Vocabulary.quotedChar ++ ['\x22']) = none)
    {symbol s : String} {k : Nat} (hk : rank? symbol = some k) {ss : List Sign}
    (h : Sign.all? (s ++ " " ++ symbol ++ " " ++ movedText f text).toList = some ss) :
    ∃ us, Sign.all? s.toList = some us := by
  cases hs : Sign.all? s.toList with
  | some us => exact ⟨us, rfl⟩
  | none =>
      have hchars : (s ++ " " ++ symbol ++ " " ++ movedText f text).toList =
          (s.toList ++ ' ' :: (symbol.toList ++ ' ' :: (f.toList ++ ['(', ')', ' ', '+']))) ++
            ' ' :: '\x22' :: (text.toList.flatMap Vocabulary.quotedChar ++ ['\x22']) := by
        simp [movedText, Vocabulary.quote]
      have hquote : '\x22' ∉ ' ' :: (symbol.toList ++ ' ' :: (f.toList ++ ['(', ')', ' ', '+'])) := by
        have hword : '\x22' ∉ f.toList := fun hmem =>
          absurd (Sign.isWord_of_mem_isWordText hf hmem) (by decide)
        simp [quote_notMem_symbol hk, hword]
      rw [hchars, Sign.all?_append_open
        (Sign.all?_append_eq_none hs (Sign.detached_cons (by decide) _) hquote) hopen] at h
      cases h

/-- An operation with the sum on its right is read as an operation on the sum exactly if its operator
is looser than the sum and the text before it is written at its rank. -/
theorem read?_moved_iff
    (hopen : Sign.all? (text.toList.flatMap Vocabulary.quotedChar ++ ['\x22']) = none)
    {symbol : String} {j : Nat} (hrank : rank? symbol = some (j + 1)) (hj : j + 1 ≤ loosest)
    {s : String} {t : Term} :
    read? (s ++ " " ++ symbol ++ " " ++ movedText f text) =
        some (.binary symbol t (moved f text)) ↔
      3 ≤ j ∧ Written (j + 1) s t := by
  rw [read?_eq_some_iff]
  constructor
  · rintro ⟨ss, hss, h⟩
    obtain ⟨us, hus⟩ := exists_all?_left hf hopen hrank hss
    rw [all?_binary hrank hus (all?_movedText hf text)] at hss
    obtain rfl := Option.some.inj hss
    obtain ⟨hle, ht⟩ := (spelled_moved_iff hrank hj).mp h
    exact ⟨hle, us, hus, ht⟩
  · rintro ⟨hle, us, hus, ht⟩
    exact ⟨_, all?_binary hrank hus (all?_movedText hf text),
      (spelled_moved_iff hrank hj).mpr ⟨hle, ht⟩⟩

theorem written_emptyCall : Written 0 (f ++ "()") (.call f []) := by
  have htext : f ++ "()" = f ++ "(" ++ String.intercalate ", " [] ++ ")" := by
    simp [← String.toList_inj]
  rw [htext]
  exact written_call hf .nil

/-- An operator that is no looser than the sum takes only the call; the text is added to what comes
out. -/
theorem Written.before_moved {symbol : String} {j : Nat} (hrank : rank? symbol = some (j + 1))
    (hj : j + 1 ≤ 3) {s : String} {t : Term} (h : Written (j + 1) s t) :
    Written 3 (s ++ " " ++ symbol ++ " " ++ movedText f text)
      (.binary "+" (.binary symbol t (.call f [])) (.text text)) := by
  have hleft := h.binary hrank ((written_emptyCall hf).mono (Nat.zero_le j))
  have hplus : rank? "+" = some (2 + 1) := rfl
  have hsum := (hleft.mono hj).binary hplus ((written_quote text).mono (Nat.zero_le 2))
  simpa [movedText, String.append_assoc] using hsum

/-- A part after the sum is a part of the text. -/
theorem written_part_of_moved {key : String} (hkey : Sign.isWordText key = true) :
    Written 3 (movedText f text ++ "." ++ key)
      (.binary "+" (.call f []) (.member (.text text) key)) := by
  have hpart := (written_quote text).member hkey
  have hplus : rank? "+" = some (2 + 1) := rfl
  have hsum := ((written_emptyCall hf).mono (Nat.zero_le 3)).binary hplus
    (hpart.mono (Nat.zero_le 2))
  simpa [movedText, String.append_assoc] using hsum

end MovedText

end Term

end VaultQuery
