import VaultQuery.Text.Blank
import VaultQuery.Text.Digit
import VaultQuery.Token.Scan
import VaultQuery.Vocabulary

/-!
Classes of characters that exclude each other, and quoted texts.  What a base is written in is cut
at characters that are no word characters, so the facts below say which characters those are; a
text between quotes is taken out again by the reader of strings.
-/

namespace VaultQuery.Text

/-! ## Blanks are no word characters and no digits -/

/-- The code points of the blanks. -/
def blankPoints : List Nat :=
  [0x09, 0x0A, 0x0B, 0x0C, 0x0D, 0x1C, 0x1D, 0x1E, 0x1F, 0x20, 0x85, 0xA0, 0x1680, 0x2000, 0x2001,
   0x2002, 0x2003, 0x2004, 0x2005, 0x2006, 0x2007, 0x2008, 0x2009, 0x200A, 0x2028, 0x2029, 0x202F,
   0x205F, 0x3000]

theorem mem_blankPoints_of_isBlank {c : Char} (h : isBlank c = true) : c.toNat ∈ blankPoints := by
  have hpoints : blankPoints = List.range' 0x09 5 ++ (List.range' 0x1C 5 ++
      ([0x85, 0xA0, 0x1680] ++ (List.range' 0x2000 11 ++
        [0x2028, 0x2029, 0x202F, 0x205F, 0x3000]))) := rfl
  simp only [isBlank, Bool.or_eq_true, Bool.and_eq_true, decide_eq_true_eq, beq_iff_eq] at h
  simp only [hpoints, List.mem_append, List.mem_range'_1, List.mem_cons, List.not_mem_nil, or_false]
  omega

/-- A class of characters has no blank in it if it has none of their code points. -/
theorem eq_false_of_isBlank {p : Char → Bool} (hall : ∀ n ∈ blankPoints, p (Char.ofNat n) = false)
    {c : Char} (h : isBlank c = true) : p c = false := by
  have hc := hall c.toNat (mem_blankPoints_of_isBlank h)
  rwa [Char.ofNat_toNat] at hc

-- Both classes are decided in one go: the tables are long, and only the kernel gets through them.
theorem not_isWord_and_not_isDigit_of_mem_blankPoints :
    ∀ n ∈ blankPoints, isWord (Char.ofNat n) = false ∧ isDigit (Char.ofNat n) = false := by
  decide +kernel

theorem isWord_eq_false_of_isBlank {c : Char} (h : isBlank c = true) : isWord c = false :=
  eq_false_of_isBlank (fun n hn => (not_isWord_and_not_isDigit_of_mem_blankPoints n hn).1) h

theorem isDigit_eq_false_of_isBlank {c : Char} (h : isBlank c = true) : isDigit c = false :=
  eq_false_of_isBlank (fun n hn => (not_isWord_and_not_isDigit_of_mem_blankPoints n hn).2) h

theorem isBlank_eq_false_of_isWord {c : Char} (h : isWord c = true) : isBlank c = false := by
  cases hb : isBlank c with
  | false => rfl
  | true => rw [isWord_eq_false_of_isBlank hb] at h; exact absurd h Bool.false_ne_true

theorem isBlank_eq_false_of_isDigit {c : Char} (h : isDigit c = true) : isBlank c = false := by
  cases hb : isBlank c with
  | false => rfl
  | true => rw [isDigit_eq_false_of_isBlank hb] at h; exact absurd h Bool.false_ne_true

/-! ## Digits and the first characters of words -/

theorem isWord_of_isWordStart {c : Char} (h : isWordStart c = true) : isWord c = true := by
  simp only [isWordStart, Bool.and_eq_true] at h
  exact h.1

theorem toNat_lt_of_isDigit {c : Char} (h : c.isDigit = true) : c.toNat < 0x80 := by
  simp only [Char.isDigit, Bool.and_eq_true, decide_eq_true_eq, ge_iff_le,
    UInt32.le_iff_toNat_le] at h
  have h2 : c.val.toNat ≤ 57 := h.2
  show c.val.toNat < 128
  omega

theorem isWord_of_isDigit {c : Char} (h : c.isDigit = true) : isWord c = true := by
  simp [isWord, isAlphanumeric, toNat_lt_of_isDigit h, Char.isAlphanum, h]

theorem isDigit_eq_false_of_isWordStart {c : Char} (h : isWordStart c = true) :
    c.isDigit = false := by
  cases hd : c.isDigit with
  | false => rfl
  | true => simp [isWordStart, isDigit, digitValue?, toNat_lt_of_isDigit hd, hd] at h

theorem beq_quote_of_isWord {c : Char} (h : isWord c = true) : (c == '\x22') = false := by
  cases hq : c == '\x22' with
  | false => rfl
  | true =>
      rw [beq_iff_eq.mp hq] at h
      exact absurd h (by decide)

/-- No gap between signs is a word character. -/
theorem isGap_eq_false_of_isWord {c : Char} (h : isWord c = true) : Token.isGap c = false := by
  cases hg : Token.isGap c with
  | false => rfl
  | true =>
      simp only [Token.isGap, Bool.or_eq_true, beq_iff_eq] at hg
      have hw : isWord ' ' = false ∧ isWord '\t' = false ∧ isWord '\r' = false ∧
          isWord '\n' = false := by decide
      rcases hg with ((rfl | rfl) | rfl) | rfl <;> simp_all

end VaultQuery.Text

namespace VaultQuery.Token

/-! ## The body of a string -/

theorem stringBody_close (quote : Char) (cs : List Char) :
    stringBody quote (quote :: cs) = some ([], 1) := by
  cases cs with
  | nil => exact if_pos (beq_self_eq_true quote)
  | cons d cs => exact if_pos (beq_self_eq_true quote)

theorem stringBody_escape {quote : Char} (h : quote ≠ '\x5c') (d : Char) (cs : List Char) :
    stringBody quote ('\x5c' :: d :: cs) =
      (stringBody quote cs).map fun (s, n) => (unescape d :: s, n + 2) := by
  exact (if_neg (by simpa using h.symm)).trans (if_pos rfl)

theorem stringBody_plain {quote c : Char} (hq : c ≠ quote) (hb : c ≠ '\x5c') (cs : List Char) :
    stringBody quote (c :: cs) = (stringBody quote cs).map fun (s, n) => (c :: s, n + 1) := by
  cases cs with
  | nil => exact if_neg (by simpa using hq)
  | cons d cs => exact (if_neg (by simpa using hq)).trans (if_neg (by simpa using hb))

theorem stringBody_eq_none_of_notMem {quote : Char} {cs : List Char} (h : quote ∉ cs) :
    stringBody quote cs = none := by
  fun_induction stringBody quote cs with
  | case1 => rfl
  | case2 c hc => simp_all
  | case3 => rfl
  | case4 c d cs hc => simp_all
  | case5 c d cs hc hb ih => simp_all
  | case6 c d cs hc hb ih => simp_all

/-- A body that ends is not changed by what follows it. -/
theorem stringBody_append {quote : Char} {cs body : List Char} {n : Nat}
    (h : stringBody quote cs = some (body, n)) (rest : List Char) :
    stringBody quote (cs ++ rest) = some (body, n) ∧ n ≤ cs.length := by
  fun_induction stringBody quote cs generalizing body n with
  | case1 => exact absurd h (by simp)
  | case2 c hc =>
      obtain rfl : c = quote := by simpa using hc
      obtain ⟨rfl, rfl⟩ : [] = body ∧ 1 = n := by simpa using h
      exact ⟨stringBody_close c rest, Nat.le_refl 1⟩
  | case3 => exact absurd h (by simp)
  | case4 c d cs hc =>
      obtain rfl : c = quote := by simpa using hc
      obtain ⟨rfl, rfl⟩ : [] = body ∧ 1 = n := by simpa using h
      exact ⟨stringBody_close c _, by simp⟩
  | case5 c d cs hc hb ih =>
      obtain rfl : c = '\x5c' := by simpa using hb
      have hq : quote ≠ '\x5c' := fun he => hc (by simp [he])
      obtain ⟨⟨s, m⟩, hs, heq⟩ := Option.map_eq_some_iff.mp h
      obtain ⟨rfl, rfl⟩ : unescape d :: s = body ∧ m + 2 = n := by simpa using heq
      obtain ⟨ih, hle⟩ := ih hs
      refine ⟨?_, by simpa using hle⟩
      rw [List.cons_append, List.cons_append, stringBody_escape hq, ih]
      rfl
  | case6 c d cs hc hb ih =>
      obtain ⟨⟨s, m⟩, hs, heq⟩ := Option.map_eq_some_iff.mp h
      obtain ⟨rfl, rfl⟩ : c :: s = body ∧ m + 1 = n := by simpa using heq
      obtain ⟨ih, hle⟩ := ih hs
      refine ⟨?_, by simpa using hle⟩
      rw [List.cons_append, stringBody_plain (by simpa using hc) (by simpa using hb), ih]
      rfl

/-- A body that does not end still does not end with more characters after it, unless there is a
quote among them. -/
theorem stringBody_append_eq_none {quote : Char} {cs rest : List Char}
    (h : stringBody quote cs = none) (hr : quote ∉ rest) :
    stringBody quote (cs ++ rest) = none := by
  fun_induction stringBody quote cs with
  | case1 => exact stringBody_eq_none_of_notMem hr
  | case2 => exact absurd h (by simp)
  | case3 c hc =>
      refine stringBody_eq_none_of_notMem ?_
      simp only [List.cons_append, List.nil_append, List.mem_cons, not_or]
      exact ⟨fun he => hc (by simp [he]), hr⟩
  | case4 => exact absurd h (by simp)
  | case5 c d cs hc hb ih =>
      obtain rfl : c = '\x5c' := by simpa using hb
      have hq : quote ≠ '\x5c' := fun he => hc (by simp [he])
      rw [List.cons_append, List.cons_append, stringBody_escape hq, ih (by simpa using h)]
      rfl
  | case6 c d cs hc hb ih =>
      rw [List.cons_append, stringBody_plain (by simpa using hc) (by simpa using hb),
        ih (by simpa using h)]
      rfl

/-- A quoted character is an escape that stands for it, or the character itself, which then is
neither a quote nor a backslash. -/
theorem quotedChar_cases (c : Char) :
    (∃ d, Vocabulary.quotedChar c = ['\x5c', d] ∧ unescape d = c) ∨
      (Vocabulary.quotedChar c = [c] ∧ c ≠ '\x22' ∧ c ≠ '\x5c') := by
  unfold Vocabulary.quotedChar
  split
  · next h => exact .inl ⟨'\x5c', rfl, by simp_all [unescape]⟩
  · next hb =>
    split
    · next h => exact .inl ⟨'\x22', rfl, by simp_all [unescape]⟩
    · next hq =>
      split
      · next h => exact .inl ⟨'n', rfl, by simp_all [unescape]⟩
      · split
        · next h => exact .inl ⟨'r', rfl, by simp_all [unescape]⟩
        · split
          · next h => exact .inl ⟨'t', rfl, by simp_all [unescape]⟩
          · exact .inr ⟨rfl, by simpa using hq, by simpa using hb⟩

/-- The reader of strings takes a quoted text out of its quotes again. -/
theorem stringBody_quotedChar (s rest : List Char) :
    stringBody '\x22' (s.flatMap Vocabulary.quotedChar ++ '\x22' :: rest) =
      some (s, (s.flatMap Vocabulary.quotedChar).length + 1) := by
  induction s with
  | nil => exact stringBody_close _ _
  | cons c s ih =>
      rw [List.flatMap_cons]
      rcases quotedChar_cases c with ⟨d, hd, hc⟩ | ⟨hc, hq, hb⟩
      · rw [hd, List.append_assoc, List.cons_append, List.cons_append, List.nil_append,
          stringBody_escape (by decide), ih, ← hc]
        simp only [Option.map_some, List.length_append, List.length_cons, List.length_nil]
        congr 2
        omega
      · rw [hc, List.append_assoc, List.cons_append, List.nil_append, stringBody_plain hq hb, ih]
        simp only [Option.map_some, List.length_append, List.length_cons, List.length_nil]
        congr 2
        omega

end VaultQuery.Token
