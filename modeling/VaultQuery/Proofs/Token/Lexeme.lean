import Mathlib.Data.List.Forall2
import Mathlib.Data.List.TakeWhile
import VaultQuery.Proofs.Text

/-!
The shapes of lexemes.  `Lexes` has one case for each shape that can stand at the start of a text,
with what tells it from the others, and `lexeme_eq_iff` says that these are all; how long a lexeme
is and what its text is follow from the cases.
-/

namespace VaultQuery.Token

/-- The two quotes. -/
def isQuote (c : Char) : Bool :=
  c == '\x22' || c == '\x27'

/-- What stands at the start of the text `c :: cs` after a token of the kind `before`. -/
inductive Lexes (before : Option Kind) : Char → List Char → Except Complaint Lexeme → Prop
  | blank {c : Char} {cs : List Char} : isGap c = true → Lexes before c cs (.ok (.gap 1))
  | comment {cs : List Char} :
      Lexes before '/' ('/' :: cs) (.ok (.gap (Text.firstLine ('/' :: '/' :: cs)).length))
  | string {c : Char} {cs body : List Char} {n : Nat} : isQuote c = true →
      stringBody c cs = some (body, n) →
      Lexes before c cs (.ok (.token .string (String.ofList body) (n + 1)))
  | openString {c : Char} {cs : List Char} : isQuote c = true → stringBody c cs = none →
      Lexes before c cs (.error .unterminatedString)
  | link {cs body : List Char} : linkBody cs = some body →
      Lexes before '[' ('[' :: cs) (.ok (.token .link (linkTarget body) (body.length + 4)))
  | openLink {cs : List Char} : linkBody cs = none →
      Lexes before '[' ('[' :: cs) (.error .unterminatedLink)
  | date {c : Char} {cs : List Char} {n : Nat} : Text.isDigit c = true →
      Moment.length? (c :: cs) = some n →
      Lexes before c cs (.ok (.token .date (String.ofList ((c :: cs).take n)) n))
  | number {c : Char} {cs : List Char} : Text.isDigit c = true → Moment.length? (c :: cs) = none →
      Lexes before c cs (.ok (.token .number
        (String.ofList ((c :: cs).take (numberLength (c :: cs)))) (numberLength (c :: cs))))
  | tag {d : Char} {cs : List Char} : isTagChar d = true →
      Lexes before '#' (d :: cs) (.ok (.token .tag
        (String.ofList (('#' :: d :: cs).take (((d :: cs).takeWhile isTagChar).length + 1)))
        (((d :: cs).takeWhile isTagChar).length + 1)))
  | pair {c d : Char} {cs : List Char} {kind : Kind} : pairOperator? c d = some kind →
      Lexes before c (d :: cs) (.ok (.token kind (String.ofList [c, d]) 2))
  | single {c : Char} {cs : List Char} {kind : Kind} : operator? c = some kind →
      cs.head?.bind (pairOperator? c) = none → (c = '/' → cs.head? ≠ some '/') →
      Lexes before c cs (.ok (.token kind c.toString (if cs.isEmpty then 2 else 1)))
  | word {c : Char} {cs : List Char} : Text.isWordStart c = true →
      Lexes before c cs (.ok (Token.word before (c :: cs) (identifierTail cs + 1)))
  | mark {c : Char} {cs : List Char} {kind : Kind} : punctuation? c = some kind →
      (c = '[' → cs.head? ≠ some '[') → Lexes before c cs (.ok (.token kind c.toString 1))
  | unknown {c : Char} {cs : List Char} : isGap c = false → isQuote c = false →
      Text.isDigit c = false → (c = '#' → cs.head?.any isTagChar = false) → operator? c = none →
      Text.isWordStart c = false → punctuation? c = none →
      Lexes before c cs (.error (.unexpectedCharacter c))

theorem lexeme_lexes (before : Option Kind) (c : Char) (cs : List Char) :
    Lexes before c cs (lexeme before c cs) := by
  unfold lexeme
  dsimp only
  by_cases hg : isGap c = true
  · rw [if_pos hg]
    exact .blank hg
  rw [if_neg hg]
  by_cases hc : (c == '/' && cs.head? == some '/') = true
  · rw [if_pos hc]
    simp only [Bool.and_eq_true, beq_iff_eq] at hc
    obtain ⟨rfl, hc⟩ := hc
    obtain ⟨cs, rfl⟩ := List.head?_eq_some_iff.mp hc
    exact .comment
  rw [if_neg hc]
  by_cases hq : (c == '\x22' || c == '\x27') = true
  · rw [if_pos hq]
    cases hs : stringBody c cs with
    | none => exact .openString hq hs
    | some r => exact .string hq hs
  rw [if_neg hq]
  by_cases hl : (c == '[' && cs.head? == some '[') = true
  · rw [if_pos hl]
    simp only [Bool.and_eq_true, beq_iff_eq] at hl
    obtain ⟨rfl, hl⟩ := hl
    obtain ⟨cs, rfl⟩ := List.head?_eq_some_iff.mp hl
    rw [List.drop_one, List.tail_cons]
    cases hs : linkBody cs with
    | none => exact .openLink hs
    | some body => exact .link hs
  rw [if_neg hl]
  by_cases hd : Text.isDigit c = true
  · rw [if_pos hd]
    cases hm : Moment.length? (c :: cs) with
    | none => exact .number hd hm
    | some n => exact .date hd hm
  rw [if_neg hd]
  by_cases ht : (c == '#' && cs.head?.any isTagChar) = true
  · rw [if_pos ht]
    simp only [Bool.and_eq_true, beq_iff_eq] at ht
    obtain ⟨rfl, ht⟩ := ht
    cases cs with
    | nil => cases ht
    | cons d cs => exact .tag ht
  rw [if_neg ht]
  split
  case h_1 kind hp =>
      obtain ⟨d, hd, hp⟩ := Option.bind_eq_some_iff.mp hp
      obtain ⟨cs, rfl⟩ := List.head?_eq_some_iff.mp hd
      exact .pair hp
  case h_2 kind hp ho =>
      refine .single ho hp ?_
      rintro rfl hcs
      exact hc (by simp [hcs])
  case h_3 hp ho =>
  split
  case isTrue hw => exact .word hw
  case isFalse hw =>
  split
  case h_1 kind hm =>
      refine .mark hm ?_
      rintro rfl hcs
      exact hl (by simp [hcs])
  case h_2 hm =>
      refine .unknown (by simpa using hg) (by simpa [isQuote] using hq) (by simpa using hd) ?_ ho
        (by simpa using hw) hm
      rintro rfl
      simpa using ht

/-- The characters that stand for themselves, or that open what is no word and no number. -/
def signs : List Char :=
  [' ', '\t', '\r', '\n', '/', '\x22', '\x27', '[', '#', '=', '<', '>', '+', '-', '*', '%', '&',
    '|', '!', ',', '(', ')', ']', '.']

theorem notMem_signs_of_isDigit {c : Char} (h : Text.isDigit c = true) : c ∉ signs := by
  have hall : signs.all (fun c => !Text.isDigit c) = true := by decide
  intro hc
  have hnot := List.all_eq_true.mp hall c hc
  rw [h] at hnot
  cases hnot

theorem notMem_signs_of_isWord {c : Char} (h : Text.isWord c = true) : c ∉ signs := by
  have hall : signs.all (fun c => !Text.isWord c) = true := by decide
  intro hc
  have hnot := List.all_eq_true.mp hall c hc
  rw [h] at hnot
  cases hnot

theorem isDigit_eq_false_of_isWordStart {c : Char} (h : Text.isWordStart c = true) :
    Text.isDigit c = false := by
  simp only [Text.isWordStart, Bool.and_eq_true, Bool.not_eq_true'] at h
  exact h.2

theorem pairOperator?_eq_none {c : Char} (h : operator? c = none) (d : Char) :
    pairOperator? c d = none := by
  have hne : c ≠ '!' ∧ c ≠ '<' ∧ c ≠ '>' := by
    refine ⟨?_, ?_, ?_⟩ <;> rintro rfl <;> cases h
  simp [pairOperator?, hne]

theorem head?_bind_eq_none {c : Char} (h : operator? c = none) (cs : List Char) :
    cs.head?.bind (pairOperator? c) = none := by
  cases cs with
  | nil => rfl
  | cons d cs => exact pairOperator?_eq_none h d

theorem mem_signs_of_operator? {c : Char} {kind : Kind} (h : operator? c = some kind) :
    c ∈ signs := by
  unfold operator? at h
  split at h <;> cases h <;> decide

/-- No test for a sign succeeds at a character that is none. -/
theorem lexeme_tests_of_notMem_signs {c : Char} (h : c ∉ signs) :
    isGap c = false ∧ c ≠ '/' ∧ (c == '\x22' || c == '\x27') = false ∧ c ≠ '[' ∧ c ≠ '#' ∧
      operator? c = none := by
  have hoperator : operator? c = none :=
    Option.eq_none_iff_forall_ne_some.mpr fun _ ho => h (mem_signs_of_operator? ho)
  simp only [signs, List.mem_cons, not_or, List.not_mem_nil, not_false_eq_true, and_true] at h
  exact ⟨by simp [isGap, h], h.2.2.2.2.1, by simp [h], h.2.2.2.2.2.2.2.1, h.2.2.2.2.2.2.2.2.1,
    hoperator⟩

theorem lexeme_tests_of_operator? {c : Char} {kind : Kind} (h : operator? c = some kind) :
    isGap c = false ∧ (c == '\x22' || c == '\x27') = false ∧ c ≠ '[' ∧ c ≠ '#' ∧
      Text.isDigit c = false ∧ kind ≠ .endOfText := by
  unfold operator? at h
  split at h <;> cases h <;> decide

theorem lexeme_tests_of_punctuation? {c : Char} {kind : Kind} (h : punctuation? c = some kind) :
    isGap c = false ∧ c ≠ '/' ∧ (c == '\x22' || c == '\x27') = false ∧ c ≠ '#' ∧
      Text.isDigit c = false ∧ operator? c = none ∧ Text.isWordStart c = false ∧
      kind ≠ .endOfText := by
  unfold punctuation? at h
  split at h <;> cases h <;> decide

theorem pairOperator?_eq_some {c d : Char} {kind : Kind} (h : pairOperator? c d = some kind) :
    d = '=' ∧ kind ≠ .endOfText ∧ ∃ kind', operator? c = some kind' := by
  refine ⟨?_, ?_, ?_⟩
  · unfold pairOperator? at h
    split at h
    case isTrue => cases h
    case isFalse hd => simpa using hd
  · rintro rfl
    unfold pairOperator? at h
    repeat' split at h
    all_goals cases h
  · cases ho : operator? c with
    | some kind' => exact ⟨kind', rfl⟩
    | none =>
        rw [pairOperator?_eq_none ho] at h
        cases h

theorem Lexes.lexeme_eq {before : Option Kind} {c : Char} {cs : List Char}
    {r : Except Complaint Lexeme} (h : Lexes before c cs r) : lexeme before c cs = r := by
  cases h with
  | blank hg => simp [lexeme, hg]
  | comment => simp [lexeme, isGap]
  | string hq hs =>
      simp only [isQuote, Bool.or_eq_true, beq_iff_eq] at hq
      rcases hq with rfl | rfl <;> simp [lexeme, isGap, hs]
  | openString hq hs =>
      simp only [isQuote, Bool.or_eq_true, beq_iff_eq] at hq
      rcases hq with rfl | rfl <;> simp [lexeme, isGap, hs]
  | link hs => simp [lexeme, isGap, hs]
  | openLink hs => simp [lexeme, isGap, hs]
  | date hd hm => simp [lexeme, lexeme_tests_of_notMem_signs (notMem_signs_of_isDigit hd), hd, hm]
  | number hd hm => simp [lexeme, lexeme_tests_of_notMem_signs (notMem_signs_of_isDigit hd), hd, hm]
  | tag ht =>
      have hd : Text.isDigit '#' = false := by decide
      simp [lexeme, isGap, ht, hd]
  | pair hp =>
      obtain ⟨rfl, -, kind', ho⟩ := pairOperator?_eq_some hp
      simp [lexeme, lexeme_tests_of_operator? ho, hp]
  | single ho hp hc =>
      have hcomment : (c == '/' && cs.head? == some '/') = false := by
        simpa using hc
      simp [lexeme, lexeme_tests_of_operator? ho, hcomment, hp, ho]
  | word hw =>
      have hs :=
        lexeme_tests_of_notMem_signs (notMem_signs_of_isWord (Text.isWord_of_isWordStart hw))
      simp [lexeme, hs, hw, isDigit_eq_false_of_isWordStart hw, head?_bind_eq_none]
  | mark hm hl =>
      have hlink : (c == '[' && cs.head? == some '[') = false := by
        simpa using hl
      have hs := lexeme_tests_of_punctuation? hm
      simp [lexeme, hs, hlink, hm, head?_bind_eq_none]
  | unknown hg hq hd ht ho hw hm =>
      have hslash : c ≠ '/' := by
        rintro rfl
        cases ho
      have hbracket : c ≠ '[' := by
        rintro rfl
        cases hm
      have htag : (c == '#' && cs.head?.any isTagChar) = false := by
        cases hc : c == '#' with
        | false => rfl
        | true => simpa using ht (by simpa using hc)
      rw [isQuote] at hq
      simp [lexeme, hg, hslash, hq, hbracket, hd, htag, ho, hw, hm, head?_bind_eq_none]

theorem lexeme_eq_iff {before : Option Kind} {c : Char} {cs : List Char}
    {r : Except Complaint Lexeme} : lexeme before c cs = r ↔ Lexes before c cs r := by
  constructor
  · rintro rfl
    exact lexeme_lexes before c cs
  · exact Lexes.lexeme_eq

/-! ## Phrases -/

/-- Characters that spell a lower-case word, in any case. -/
def Spells (word cs : List Char) : Prop :=
  List.Forall₂ (isLetterOf · · = true) word cs

theorem afterWord?_eq_some_iff {word cs rest : List Char} :
    afterWord? word cs = some rest ↔ ∃ a, cs = a ++ rest ∧ Spells word a := by
  fun_induction afterWord? word cs with
  | case1 cs =>
      constructor
      · intro h
        obtain rfl := Option.some.inj h
        exact ⟨[], rfl, .nil⟩
      · rintro ⟨a, rfl, hs⟩
        cases hs
        rfl
  | case2 l ls =>
      constructor
      · intro h
        cases h
      · rintro ⟨a, ha, hs⟩
        cases hs
        cases ha
  | case3 l ls c cs hl ih =>
      rw [ih]
      constructor
      · rintro ⟨a, rfl, hs⟩
        exact ⟨c :: a, rfl, .cons hl hs⟩
      · rintro ⟨a, ha, hs⟩
        cases hs with
        | cons _ hs =>
            obtain ⟨rfl, rfl⟩ := List.cons_eq_cons.mp ha
            exact ⟨_, rfl, hs⟩
  | case4 l ls c cs hl =>
      constructor
      · intro h
        cases h
      · rintro ⟨a, ha, hs⟩
        cases hs with
        | cons hlc _ =>
            obtain ⟨rfl, -⟩ := List.cons_eq_cons.mp ha
            exact absurd hlc hl

theorem toNat_lt_of_isLower_toLower {c : Char} (h : c.toLower.isLower = true) : c.toNat < 0x80 := by
  unfold Char.toLower at h
  split at h
  case isTrue hu =>
      have hle := UInt32.le_iff_toNat_le.mp hu.2
      exact Nat.lt_of_le_of_lt hle (by decide)
  case isFalse =>
      have hz := of_decide_eq_true (Bool.and_eq_true_iff.mp h).2
      have hle := UInt32.le_iff_toNat_le.mp hz
      exact Nat.lt_of_le_of_lt hle (by decide)

theorem isWord_of_isLetterOf {l c : Char} (hl : l.isLower = true) (h : isLetterOf l c = true) :
    Text.isWord c = true := by
  have hascii : ∀ n < 0x80, (Char.ofNat n).toLower.isLower = true →
      Text.isWord (Char.ofNat n) = true := by decide
  simp only [isLetterOf, Bool.or_eq_true, beq_iff_eq, Bool.and_eq_true] at h
  rcases h with rfl | ⟨-, h | h⟩
  · have hw := hascii c.toNat (toNat_lt_of_isLower_toLower hl)
    rw [Char.ofNat_toNat] at hw
    exact hw hl
  · rw [← Char.ofNat_toNat c, h]
    decide +kernel
  · rw [← Char.ofNat_toNat c, h]
    decide +kernel

theorem Spells.isWord {word cs : List Char} (h : Spells word cs)
    (hlower : ∀ l ∈ word, l.isLower = true) : ∀ c ∈ cs, Text.isWord c = true := by
  induction h with
  | nil => simp
  | cons hlc _ ih =>
      simp only [List.mem_cons, forall_eq_or_imp] at hlower ⊢
      exact ⟨isWord_of_isLetterOf hlower.1 hlc, ih hlower.2⟩

/-- A text that does not go on with a word character. -/
def EndsWord (cs : List Char) : Prop :=
  ∀ c ∈ cs.head?, Text.isWord c = false

theorem drop_length_takeWhile (p : Char → Bool) (cs : List Char) :
    cs.drop (cs.takeWhile p).length = cs.dropWhile p := by
  induction cs with
  | nil => rfl
  | cons c cs ih =>
      by_cases hc : p c = true <;> simp [hc, ih]

theorem takeWhile_exact {p : Char → Bool} {body rest : List Char}
    (hbody : ∀ c ∈ body, p c = true) (hrest : ∀ c ∈ rest.head?, p c = false) :
    (body ++ rest).takeWhile p = body := by
  rw [List.takeWhile_append_of_pos hbody]
  cases rest with
  | nil => simp
  | cons c rest => simp [hrest c rfl]

/-- A phrase is two words with blanks between them, and no word character after them. -/
theorem phraseLength?_eq_some_iff {first second : String} {cs : List Char} {n : Nat}
    (hlower : ∀ l ∈ second.toList, l.isLower = true) (hne : second.toList ≠ []) :
    phraseLength? first second cs = some n ↔
      ∃ a g b rest, cs = a ++ (g ++ (b ++ rest)) ∧ Spells first.toList a ∧ g ≠ [] ∧
        (∀ c ∈ g, Text.isBlank c = true) ∧ Spells second.toList b ∧ EndsWord rest ∧
        n = a.length + g.length + b.length := by
  constructor
  · intro h
    obtain ⟨rest₁, h₁, h⟩ := Option.bind_eq_some_iff.mp h
    dsimp only at h
    split at h
    case isTrue => cases h
    case isFalse hgap =>
    obtain ⟨rest₂, h₂, h⟩ := Option.bind_eq_some_iff.mp h
    have hend : EndsWord rest₂ ∧ cs.length - rest₂.length = n := by
      cases rest₂ with
      | nil => exact ⟨by simp [EndsWord], Option.some.inj h⟩
      | cons c tail =>
          dsimp only at h
          split at h
          case isTrue => cases h
          case isFalse hc => exact ⟨by simpa [EndsWord] using hc, Option.some.inj h⟩
    rw [drop_length_takeWhile] at h₂
    obtain ⟨a, rfl, ha⟩ := afterWord?_eq_some_iff.mp h₁
    obtain ⟨b, hb, hbs⟩ := afterWord?_eq_some_iff.mp h₂
    refine ⟨a, rest₁.takeWhile Text.isBlank, b, rest₂, ?_, ha, by simpa using hgap,
      fun c hc => List.mem_takeWhile_imp hc, hbs, hend.1, ?_⟩
    · rw [← hb, List.takeWhile_append_dropWhile]
    · have hlen : (rest₁.takeWhile Text.isBlank ++ rest₁.dropWhile Text.isBlank).length =
          rest₁.length := by
        rw [List.takeWhile_append_dropWhile]
      rw [hb] at hlen
      simp only [List.length_append] at hlen hend
      omega
  · rintro ⟨a, g, b, rest, rfl, ha, hg, hblank, hb, hend, rfl⟩
    have hgap : (g ++ (b ++ rest)).takeWhile Text.isBlank = g := by
      refine takeWhile_exact hblank ?_
      cases b with
      | nil => exact absurd (List.forall₂_nil_right_iff.mp hb) hne
      | cons c b =>
          intro c' hc
          obtain rfl : c = c' := by simpa using hc
          exact Text.isBlank_eq_false_of_isWord (hb.isWord hlower c (by simp))
    have hfirst : afterWord? first.toList (a ++ (g ++ (b ++ rest))) = some (g ++ (b ++ rest)) :=
      afterWord?_eq_some_iff.mpr ⟨a, rfl, ha⟩
    have hsecond : afterWord? second.toList (b ++ rest) = some rest :=
      afterWord?_eq_some_iff.mpr ⟨b, rfl, hb⟩
    have hlen :
        (a ++ (g ++ (b ++ rest))).length - rest.length = a.length + g.length + b.length := by
      simp only [List.length_append]
      omega
    simp only [phraseLength?, hfirst, Option.bind_eq_bind, Option.bind_some, hgap, List.drop_left,
      hsecond, hlen, List.length_eq_zero_iff, hg, if_false]
    cases rest with
    | nil => rfl
    | cons c rest => simp [hend c rfl]

/-! ## How far a lexeme reaches -/

theorem identifierTail_le (cs : List Char) : identifierTail cs ≤ cs.length := by
  fun_induction identifierTail cs <;> simp_all

theorem numberLength_bounds {c : Char} (hc : Text.isDigit c = true) (cs : List Char) :
    1 ≤ numberLength (c :: cs) ∧ numberLength (c :: cs) ≤ cs.length + 1 := by
  have hwhole : 1 ≤ ((c :: cs).takeWhile Text.isDigit).length := by simp [hc]
  have hsplit : ((c :: cs).takeWhile Text.isDigit).length +
      ((c :: cs).drop ((c :: cs).takeWhile Text.isDigit).length).length = cs.length + 1 := by
    have hle := (List.takeWhile_prefix (p := Text.isDigit) (l := c :: cs)).length_le
    rw [List.length_drop]
    simp only [List.length_cons] at hle ⊢
    omega
  unfold numberLength
  dsimp only
  split
  case h_1 rest hrest =>
      have hle := (List.takeWhile_prefix (p := Text.isDigit) (l := rest)).length_le
      rw [hrest, List.length_cons] at hsplit
      split <;> omega
  case h_2 => omega

theorem linkBody_length {cs body : List Char} (h : linkBody cs = some body) :
    body.length + 2 ≤ cs.length := by
  fun_induction linkBody cs generalizing body with
  | case1 => simp_all
  | case2 => cases h
  | case3 c cs hc ih =>
      obtain ⟨b, hb, rfl⟩ := Option.map_eq_some_iff.mp h
      have hle := ih hb
      simp only [List.length_cons]
      omega

end VaultQuery.Token

namespace VaultQuery.MomentShape

/-- A character of a written moment. -/
def isPart (c : Char) : Bool :=
  Text.isDigit c || c == '-' || c == 'T' || c == ':' || c == '.'

theorem takeDigits_eq_some {least most : Nat} {cs ds rest : List Char}
    (h : takeDigits least most cs = some (ds, rest)) :
    cs = ds ++ rest ∧ least ≤ ds.length ∧ ∀ d ∈ ds, isPart d = true := by
  unfold takeDigits at h
  dsimp only at h
  split at h
  case isTrue => cases h
  case isFalse hlen =>
      obtain ⟨rfl, rfl⟩ := Prod.mk.inj (Option.some.inj h)
      have hpre : (cs.take most).takeWhile Text.isDigit <+: cs :=
        (List.takeWhile_prefix _).trans (List.take_prefix most cs)
      refine ⟨(List.prefix_iff_eq_append.mp hpre).symm, Nat.le_of_not_lt hlen, fun d hd => ?_⟩
      simp [isPart, List.mem_takeWhile_imp hd]

theorem takeChar_eq_some {c : Char} {cs rest : List Char} (h : takeChar c cs = some rest) :
    cs = c :: rest := by
  cases cs with
  | nil => cases h
  | cons d cs =>
      rw [takeChar] at h
      split at h
      case isTrue hd =>
          obtain rfl := Option.some.inj h
          rw [beq_iff_eq.mp hd]
      case isFalse => cases h

theorem takeDay_eq_some {cs : List Char} {r : MomentShape × List Char} (h : takeDay cs = some r) :
    ∃ a, cs = a ++ r.2 ∧ 4 ≤ a.length ∧ ∀ c ∈ a, isPart c = true := by
  obtain ⟨⟨year, cs₁⟩, h₁, h⟩ := Option.bind_eq_some_iff.mp h
  obtain ⟨cs₂, h₂, h⟩ := Option.bind_eq_some_iff.mp h
  obtain ⟨⟨month, cs₃⟩, h₃, h⟩ := Option.bind_eq_some_iff.mp h
  obtain ⟨cs₄, h₄, h⟩ := Option.bind_eq_some_iff.mp h
  obtain ⟨⟨day, cs₅⟩, h₅, h⟩ := Option.bind_eq_some_iff.mp h
  obtain rfl := Option.some.inj h
  obtain ⟨rfl, hlen, hyear⟩ := takeDigits_eq_some h₁
  obtain rfl := takeChar_eq_some h₂
  obtain ⟨rfl, -, hmonth⟩ := takeDigits_eq_some h₃
  obtain rfl := takeChar_eq_some h₄
  obtain ⟨rfl, -, hday⟩ := takeDigits_eq_some h₅
  refine ⟨year ++ '-' :: (month ++ '-' :: day), by simp, ?_, ?_⟩
  · simp only [List.length_append]
    omega
  · simp only [List.forall_mem_append, List.forall_mem_cons]
    exact ⟨hyear, rfl, hmonth, rfl, hday⟩

theorem takeClock_eq_some {shape : MomentShape} {cs : List Char} {r : MomentShape × List Char}
    (h : takeClock shape cs = some r) : ∃ a, cs = a ++ r.2 ∧ ∀ c ∈ a, isPart c = true := by
  obtain ⟨cs₁, h₁, h⟩ := Option.bind_eq_some_iff.mp h
  obtain ⟨⟨hour, cs₂⟩, h₂, h⟩ := Option.bind_eq_some_iff.mp h
  obtain ⟨cs₃, h₃, h⟩ := Option.bind_eq_some_iff.mp h
  obtain ⟨⟨minute, cs₄⟩, h₄, h⟩ := Option.bind_eq_some_iff.mp h
  obtain rfl := Option.some.inj h
  obtain rfl := takeChar_eq_some h₁
  obtain ⟨rfl, -, hhour⟩ := takeDigits_eq_some h₂
  obtain rfl := takeChar_eq_some h₃
  obtain ⟨rfl, -, hminute⟩ := takeDigits_eq_some h₄
  refine ⟨'T' :: (hour ++ ':' :: minute), by simp, ?_⟩
  simp only [List.forall_mem_append, List.forall_mem_cons]
  exact ⟨rfl, hhour, rfl, hminute⟩

theorem takeSecond_eq_some {shape : MomentShape} {cs : List Char} {r : MomentShape × List Char}
    (h : takeSecond shape cs = some r) : ∃ a, cs = a ++ r.2 ∧ ∀ c ∈ a, isPart c = true := by
  obtain ⟨cs₁, h₁, h⟩ := Option.bind_eq_some_iff.mp h
  obtain ⟨⟨second, cs₂⟩, h₂, h⟩ := Option.bind_eq_some_iff.mp h
  obtain rfl := Option.some.inj h
  obtain rfl := takeChar_eq_some h₁
  obtain ⟨rfl, -, hsecond⟩ := takeDigits_eq_some h₂
  exact ⟨':' :: second, rfl, List.forall_mem_cons.mpr ⟨rfl, hsecond⟩⟩

theorem takeFraction_eq_some {shape : MomentShape} {cs : List Char} {r : MomentShape × List Char}
    (h : takeFraction shape cs = some r) : ∃ a, cs = a ++ r.2 ∧ ∀ c ∈ a, isPart c = true := by
  obtain ⟨cs₁, h₁, h⟩ := Option.bind_eq_some_iff.mp h
  obtain ⟨⟨fraction, cs₂⟩, h₂, h⟩ := Option.bind_eq_some_iff.mp h
  obtain rfl := Option.some.inj h
  obtain rfl := takeChar_eq_some h₁
  obtain ⟨rfl, -, hfraction⟩ := takeDigits_eq_some h₂
  exact ⟨'.' :: fraction, rfl, List.forall_mem_cons.mpr ⟨rfl, hfraction⟩⟩

/-- What a reading of a moment takes off stands at the start of the text. -/
theorem of_mem_readings {cs : List Char} {r : MomentShape × List Char} (h : r ∈ readings cs) :
    ∃ a, cs = a ++ r.2 ∧ 4 ≤ a.length ∧ ∀ c ∈ a, isPart c = true := by
  unfold readings at h
  split at h
  case h_1 => cases h
  case h_2 day hday =>
  obtain ⟨a, ha, hlen, hparts⟩ := takeDay_eq_some hday
  have hlonger : ∀ {b rest : List Char}, day.2 = b ++ rest → (∀ c ∈ b, isPart c = true) →
      ∃ a, cs = a ++ rest ∧ 4 ≤ a.length ∧ ∀ c ∈ a, isPart c = true := by
    intro b rest hb hmore
    refine ⟨a ++ b, by rw [ha, hb, List.append_assoc], ?_, List.forall_mem_append.mpr
      ⟨hparts, hmore⟩⟩
    rw [List.length_append]
    exact Nat.le_add_right_of_le hlen
  split at h
  case h_1 =>
      obtain rfl := List.mem_singleton.mp h
      exact ⟨a, ha, hlen, hparts⟩
  case h_2 clock hclock =>
  obtain ⟨b, hb, hclockParts⟩ := takeClock_eq_some hclock
  split at h
  case h_1 =>
      simp only [List.mem_cons, List.not_mem_nil, or_false] at h
      rcases h with rfl | rfl
      · exact hlonger hb hclockParts
      · exact ⟨a, ha, hlen, hparts⟩
  case h_2 second hsecond =>
  obtain ⟨d, hd, hsecondParts⟩ := takeSecond_eq_some hsecond
  have hbd := List.forall_mem_append.mpr ⟨hclockParts, hsecondParts⟩
  simp only [List.mem_append, Option.mem_toList, List.mem_cons, List.not_mem_nil, or_false] at h
  rcases h with h | rfl | rfl | rfl
  · obtain ⟨e, he, hfractionParts⟩ := takeFraction_eq_some h
    refine hlonger (b := b ++ d ++ e) (by rw [hb, hd, he]; simp) ?_
    exact List.forall_mem_append.mpr ⟨hbd, hfractionParts⟩
  · exact hlonger (b := b ++ d) (by rw [hb, hd]; simp) hbd
  · exact hlonger hb hclockParts
  · exact ⟨a, ha, hlen, hparts⟩

end VaultQuery.MomentShape

namespace VaultQuery.Token

/-- The moment at the start of a text. -/
theorem exists_of_momentLength? {cs : List Char} {n : Nat} (h : Moment.length? cs = some n) :
    ∃ a rest, cs = a ++ rest ∧ n = a.length ∧ 4 ≤ n ∧ ∀ c ∈ a, MomentShape.isPart c = true := by
  obtain ⟨r, hr, rfl⟩ := Option.map_eq_some_iff.mp h
  obtain ⟨a, rfl, hlen, hparts⟩ := MomentShape.of_mem_readings (List.mem_of_find?_eq_some hr)
  have hlength : (a ++ r.2).length - r.2.length = a.length := by simp
  rw [hlength]
  exact ⟨a, r.2, rfl, rfl, hlen, hparts⟩

theorem momentLength?_bounds {cs : List Char} {n : Nat} (h : Moment.length? cs = some n) :
    1 ≤ n ∧ n ≤ cs.length := by
  obtain ⟨a, rest, rfl, rfl, hlen, -⟩ := exists_of_momentLength? h
  rw [List.length_append]
  omega

/-- The two words of a phrase, by its kind. -/
inductive IsPhrase : Kind → String → String → Prop
  | groupBy : IsPhrase .groupBy "group" "by"
  | withoutId : IsPhrase .withoutId "without" "id"

theorem IsPhrase.isLower {kind : Kind} {first second : String} (h : IsPhrase kind first second) :
    (∀ l ∈ first.toList, l.isLower = true) ∧ (∀ l ∈ second.toList, l.isLower = true) ∧
      second.toList ≠ [] := by
  cases h with
  | groupBy => exact ⟨List.all_eq_true.mp (by decide), List.all_eq_true.mp (by decide), by decide⟩
  | withoutId =>
      exact ⟨List.all_eq_true.mp (by decide), List.all_eq_true.mp (by decide), by decide⟩

theorem IsPhrase.length?_eq_some_iff {kind : Kind} {first second : String}
    (h : IsPhrase kind first second) {cs : List Char} {n : Nat} :
    phraseLength? first second cs = some n ↔
      ∃ a g b rest, cs = a ++ (g ++ (b ++ rest)) ∧ Spells first.toList a ∧ g ≠ [] ∧
        (∀ c ∈ g, Text.isBlank c = true) ∧ Spells second.toList b ∧ EndsWord rest ∧
        n = a.length + g.length + b.length :=
  phraseLength?_eq_some_iff h.isLower.2.1 h.isLower.2.2

/-- The kinds of the words that are written in upper case. -/
def isKeyword : Kind → Bool
  | .table | .list | .task | .calendar | .fromClause | .whereClause | .sortClause | .limitClause
  | .flattenClause | .asKeyword | .and | .or | .not | .null => true
  | _ => false

theorem of_ite_eq_some {α : Type} {P : α → Prop} {b : Bool} {a : α} {x : Option α} (ha : P a)
    (hx : ∀ r, x = some r → P r) (r : α) (h : (if b then some a else x) = some r) : P r := by
  cases b with
  | true => exact Option.some.inj h ▸ ha
  | false => exact hx r h

theorem isKeyword_of_headerWord? {upper : String} :
    ∀ kind, headerWord? upper = some kind → isKeyword kind = true := by
  unfold headerWord?
  iterate 4 refine of_ite_eq_some rfl ?_
  nofun

theorem isKeyword_of_keyword? {upper : String} :
    ∀ kind, keyword? upper = some kind → isKeyword kind = true ∨ kind = .boolean := by
  unfold keyword?
  iterate 12 refine of_ite_eq_some (by decide) ?_
  nofun

/-- A word is a name, a truth value, a keyword or the first word of a phrase. -/
theorem word_cases (before : Option Kind) (cs : List Char) (length : Nat) :
    (∃ kind, (kind = .identifier ∨ kind = .boolean) ∧
      word before cs length = .token kind (String.ofList (cs.take length)) length) ∨
    (∃ kind, isKeyword kind = true ∧
      word before cs length =
        .token kind (Text.upperCase (String.ofList (cs.take length))) length) ∨
    ∃ kind first second n, IsPhrase kind first second ∧ phraseLength? first second cs = some n ∧
      word before cs length = phraseToken kind cs n := by
  have hname : ∀ {l : Lexeme}, l = .token .identifier (String.ofList (cs.take length)) length →
      ∃ kind, (kind = Kind.identifier ∨ kind = .boolean) ∧
        l = .token kind (String.ofList (cs.take length)) length :=
    fun h => ⟨.identifier, .inl rfl, h⟩
  unfold word
  dsimp only
  split
  case h_1 => exact .inl (hname rfl)
  case h_2 =>
      split
      case h_1 kind hk => exact .inr (.inl ⟨kind, isKeyword_of_headerWord? kind hk, rfl⟩)
      case h_2 => exact .inl (hname rfl)
  case h_3 =>
  split
  case h_1 n hn =>
      split at hn
      case isTrue => exact .inr (.inr ⟨_, _, _, n, .groupBy, hn, rfl⟩)
      case isFalse => cases hn
  case h_2 n _ hn =>
      split at hn
      case isTrue => exact .inr (.inr ⟨_, _, _, n, .withoutId, hn, rfl⟩)
      case isFalse => cases hn
  case h_3 =>
  split
  case h_1 => exact .inl (hname rfl)
  case h_2 => exact .inl ⟨.boolean, .inr rfl, rfl⟩
  case h_3 kind hb hk =>
      split
      case isTrue => exact .inl (hname rfl)
      case isFalse =>
          exact .inr (.inl ⟨kind, (isKeyword_of_keyword? kind hk).resolve_right hb, rfl⟩)

/-- Whether the text of a token is what it covers: logical operators are as they stand only if they
are symbols. -/
def isVerbatim (kind : Kind) (own : List Char) : Bool :=
  match kind with
  | .identifier | .number | .date | .tag | .boolean | .eq | .ne | .lt | .gt | .le | .ge | .plus
  | .minus | .star | .slash | .percent | .comma | .parenOpen | .parenClose | .bracketOpen
  | .bracketClose | .dot => true
  | .and | .or | .not => own.all fun c => (operator? c).isSome
  | _ => false

/-- A keyword that is as it stands is made of operators. -/
theorem all_operator?_of_isKeyword {kind : Kind} (hk : isKeyword kind = true) {own : List Char}
    (h : isVerbatim kind own = true) : own.all (fun c => (operator? c).isSome) = true := by
  cases kind <;> first
    | exact h
    | exact absurd hk Bool.false_ne_true
    | exact absurd h Bool.false_ne_true

/-- What a lexeme that is a token covers: at least one character, and no more than there are, but
for an operator at the end of a text, which claims one more. -/
structure Covers (c : Char) (cs : List Char) (kind : Kind) (text : String) (n : Nat) : Prop where
  pos : 1 ≤ n
  reach : if cs = [] ∧ (operator? c).isSome = true then n = 2 else n ≤ cs.length + 1
  ne_end : kind ≠ .endOfText
  verbatim : isVerbatim kind ((c :: cs).take n) = true → text = String.ofList ((c :: cs).take n)

theorem operator?_eq_none_of_notMem {c : Char} (h : c ∉ signs) : operator? c = none :=
  (lexeme_tests_of_notMem_signs h).2.2.2.2.2

theorem operator?_eq_none_of_isWordStart {c : Char} (h : Text.isWordStart c = true) :
    operator? c = none :=
  operator?_eq_none_of_notMem (notMem_signs_of_isWord (Text.isWord_of_isWordStart h))

theorem reach_of_operator? {c : Char} {cs : List Char} {n : Nat} (ho : operator? c = none)
    (hle : n ≤ cs.length + 1) :
    if cs = [] ∧ (operator? c).isSome = true then n = 2 else n ≤ cs.length + 1 := by
  rw [if_neg (by simp [ho])]
  exact hle

theorem covers_word {c : Char} (hc : Text.isWordStart c = true) (before : Option Kind)
    (cs : List Char) {kind : Kind} {text : String} {n : Nat}
    (h : word before (c :: cs) (identifierTail cs + 1) = .token kind text n) :
    Covers c cs kind text n := by
  have ho := operator?_eq_none_of_isWordStart hc
  have hle := Nat.succ_le_succ (identifierTail_le cs)
  rcases word_cases before (c :: cs) (identifierTail cs + 1) with
    ⟨kind, hk, hw⟩ | ⟨kind, hk, hw⟩ | ⟨kind, first, second, n, hp, hn, hw⟩
  · cases hw.symm.trans h
    refine ⟨Nat.le_add_left _ _, reach_of_operator? ho hle, ?_, fun _ => rfl⟩
    rcases hk with rfl | rfl <;> decide
  · cases hw.symm.trans h
    refine ⟨Nat.le_add_left _ _, reach_of_operator? ho hle, ?_, fun hv => ?_⟩
    · rintro rfl
      cases hk
    -- the first character of a keyword is no operator
    · have hall := all_operator?_of_isKeyword hk hv
      simp [ho] at hall
  · cases hw.symm.trans h
    obtain ⟨a, g, b, rest, hcs, -, hg, -, -, -, rfl⟩ := hp.length?_eq_some_iff.mp hn
    have hlen := congrArg List.length hcs
    have hpos := List.length_pos_of_ne_nil hg
    simp only [List.length_cons, List.length_append] at hlen
    refine ⟨by omega, reach_of_operator? ho (by omega), ?_, fun hv => ?_⟩
    · cases hp <;> decide
    · cases hp <;> cases hv

theorem Lexes.covers {before : Option Kind} {c : Char} {cs : List Char}
    {r : Except Complaint Lexeme} (h : Lexes before c cs r) {kind : Kind} {text : String} {n : Nat}
    (hr : r = .ok (.token kind text n)) : Covers c cs kind text n := by
  cases h with
  | blank | comment | openString | openLink | unknown => cases hr
  | string hq hs =>
      cases hr
      have hle := (stringBody_append hs []).2
      have ho : operator? c = none := by
        simp only [isQuote, Bool.or_eq_true, beq_iff_eq] at hq
        rcases hq with rfl | rfl <;> rfl
      exact ⟨by omega, reach_of_operator? ho (by omega), by decide, nofun⟩
  | @link cs body hs =>
      cases hr
      have hlen := linkBody_length hs
      exact ⟨by omega, reach_of_operator? rfl (by simp only [List.length_cons]; omega), by decide,
        nofun⟩
  | date hd hm =>
      cases hr
      have hn := momentLength?_bounds hm
      have hnot := operator?_eq_none_of_notMem (notMem_signs_of_isDigit hd)
      exact ⟨hn.1, reach_of_operator? hnot hn.2, by decide, fun _ => rfl⟩
  | number hd hm =>
      cases hr
      have hn := numberLength_bounds hd cs
      have hnot := operator?_eq_none_of_notMem (notMem_signs_of_isDigit hd)
      exact ⟨hn.1, reach_of_operator? hnot hn.2, by decide, fun _ => rfl⟩
  | @tag d cs ht =>
      cases hr
      have hle := (List.takeWhile_prefix (p := isTagChar) (l := d :: cs)).length_le
      exact ⟨Nat.le_add_left _ _, reach_of_operator? rfl (Nat.succ_le_succ hle), by decide,
        fun _ => rfl⟩
  | pair hp =>
      cases hr
      exact ⟨by decide, by simp, (pairOperator?_eq_some hp).2.1, fun _ => rfl⟩
  | single ho hp hc =>
      cases hr
      have hne := (lexeme_tests_of_operator? ho).2.2.2.2.2
      cases cs with
      | nil => exact ⟨by decide, by simp [ho], hne, fun _ => rfl⟩
      | cons d cs => exact ⟨Nat.le_refl 1, by simp, hne, fun _ => rfl⟩
  | word hw => exact covers_word hw before cs (Except.ok.inj hr)
  | mark hm hl =>
      cases hr
      obtain ⟨-, -, -, -, -, ho, -, hne⟩ := lexeme_tests_of_punctuation? hm
      exact ⟨Nat.le_refl 1, reach_of_operator? ho (Nat.le_add_left _ _), hne, fun _ => rfl⟩

theorem word_ne_gap (before : Option Kind) (cs : List Char) (length n : Nat) :
    word before cs length ≠ .gap n := by
  intro h
  rcases word_cases before cs length with ⟨_, _, hw⟩ | ⟨_, _, hw⟩ | ⟨_, _, _, _, _, _, hw⟩ <;>
    cases hw.symm.trans h

/-- What is skipped is a blank or a comment. -/
theorem Lexes.gap_cases {before : Option Kind} {c : Char} {cs : List Char}
    {r : Except Complaint Lexeme} (h : Lexes before c cs r) {n : Nat} (hr : r = .ok (.gap n)) :
    isGap c = true ∨ c = '/' ∧ ∃ ds, cs = '/' :: ds := by
  cases h with
  | blank hc => exact .inl hc
  | comment => exact .inr ⟨rfl, _, rfl⟩
  | word _ => exact absurd (Except.ok.inj hr) (word_ne_gap _ _ _ n)
  | _ => cases hr

end VaultQuery.Token
