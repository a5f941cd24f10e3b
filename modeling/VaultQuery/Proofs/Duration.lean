import VaultQuery.Proofs.Expr.Derived
import VaultQuery.Proofs.Expr.Shift
import VaultQuery.Proofs.Query.Limited
import VaultQuery.Proofs.Token.Quoted

/-!
The two ways to write a duration.  In a call of `dur` an amount and a word for the unit stand either
as tokens of their own or in a quoted text.  The first are recognised by the reader of expressions,
the second only when the duration is asked for; both give the same duration, and what is written for
one is written for the other (`duration_spellings_agree`).  The text of a duration is such a spelling
too, in days if the unit is the week.
-/

namespace VaultQuery

/-! ## Words in any case -/

namespace Text

/-- Of letters without accents only the case changes. -/
theorem lower_of_ascii {cs : List Char} (h : ∀ c ∈ cs, c.toNat < 0x80) :
    lower cs = cs.map Char.toLower := by
  have hfrom : ∀ before, lowerFrom before cs = cs.map Char.toLower := by
    induction cs with
    | nil =>
        intro before
        rfl
    | cons c cs ih =>
        intro before
        have hc := h c List.mem_cons_self
        have hsigma : (c.toNat == 0x3A3) = false := beq_false_of_ne (by omega)
        rw [lowerFrom, hsigma, ih fun d hd => h d (List.mem_cons_of_mem c hd)]
        simp only [lowerChar, if_pos hc, Bool.false_eq_true, if_false, List.map_cons,
          List.singleton_append]
  exact hfrom []

theorem upper_of_ascii {cs : List Char} (h : ∀ c ∈ cs, c.toNat < 0x80) :
    upper cs = cs.map Char.toUpper := by
  induction cs with
  | nil => rfl
  | cons c cs ih =>
      rw [upper, List.flatMap_cons, ← upper, ih fun d hd => h d (List.mem_cons_of_mem c hd),
        upperChar, if_pos (h c List.mem_cons_self)]
      rfl

/-- A letter whose lower case is one of the 26 letters. -/
structure IsLetter (c : Char) : Prop where
  ascii : c.toNat < 0x80
  alpha : c.isAlpha = true
  start : isWordStart c = true
  upper : c.toLower.toUpper = c.toUpper

theorem isLetter_of_isLower_toLower {c : Char} (h : c.toLower.isLower = true) : IsLetter c := by
  have hascii : ∀ n < 0x80, (Char.ofNat n).toLower.isLower = true →
      (Char.ofNat n).isAlpha = true ∧ isWordStart (Char.ofNat n) = true ∧
        (Char.ofNat n).toLower.toUpper = (Char.ofNat n).toUpper := by decide
  have hlt := Token.toNat_lt_of_isLower_toLower h
  have hc := hascii c.toNat hlt
  rw [Char.ofNat_toNat] at hc
  obtain ⟨halpha, hstart, hupper⟩ := hc h
  exact ⟨hlt, halpha, hstart, hupper⟩

end Text

namespace TimeUnit

/-- The word is a spelling of the unit, with each letter in either case. -/
def IsSpelledBy (unit : TimeUnit) (word : List Char) : Prop :=
  ∃ spelling ∈ unit.spellings, word.map Char.toLower = spelling.toList

/-- A spelling consists of small letters, is no keyword, and spells one unit only. -/
def isClear (unit : TimeUnit) (spelling : String) : Bool :=
  let upper := String.ofList (spelling.toList.map Char.toUpper)
  !spelling.toList.isEmpty && spelling.toList.all Char.isLower &&
    upper != "GROUP" && upper != "WITHOUT" && Token.keyword? upper == none &&
    standard.find? (fun u => u.spellings.contains spelling) == some unit

theorem isClear_of_mem {unit : TimeUnit} {spelling : String} (h : spelling ∈ unit.spellings) :
    isClear unit spelling = true := by
  have hall : (standard.all fun u => u.spellings.all (isClear u)) = true := by decide +kernel
  have hunit : unit ∈ standard := by
    cases unit with
    | other name => cases h
    | _ => decide
  exact List.all_eq_true.mp (List.all_eq_true.mp hall unit hunit) spelling h

namespace IsSpelledBy

variable {unit : TimeUnit} {word : List Char}

theorem ne_nil (h : unit.IsSpelledBy word) : word ≠ [] := by
  obtain ⟨spelling, hmem, hword⟩ := h
  have hclear := isClear_of_mem hmem
  rintro rfl
  simp [isClear, ← hword] at hclear

theorem isLetter (h : unit.IsSpelledBy word) {c : Char} (hc : c ∈ word) : Text.IsLetter c := by
  obtain ⟨spelling, hmem, hword⟩ := h
  have hclear := isClear_of_mem hmem
  simp only [isClear, Bool.and_eq_true, List.all_eq_true, ← hword] at hclear
  have hlower := hclear.1.1.1.1.2 c.toLower (List.mem_map_of_mem hc)
  exact Text.isLetter_of_isLower_toLower hlower

/-- In upper case the word is its spelling in upper case. -/
theorem upperCase_eq (h : unit.IsSpelledBy word) {spelling : String}
    (hword : word.map Char.toLower = spelling.toList) :
    Text.upperCase (String.ofList word) = String.ofList (spelling.toList.map Char.toUpper) := by
  have hupper : (word.map Char.toLower).map Char.toUpper = word.map Char.toUpper := by
    rw [List.map_map]
    exact List.map_congr_left fun c hc => (h.isLetter hc).upper
  rw [Text.upperCase, String.toList_ofList, Text.upper_of_ascii fun c hc => (h.isLetter hc).ascii,
    ← hupper, hword]

theorem lowerCase_eq (h : unit.IsSpelledBy word) {spelling : String}
    (hword : word.map Char.toLower = spelling.toList) :
    Text.lowerCase (String.ofList word) = spelling := by
  rw [Text.lowerCase, String.toList_ofList, Text.lower_of_ascii fun c hc => (h.isLetter hc).ascii,
    hword, String.ofList_toList]

theorem ofSpelling?_eq (h : unit.IsSpelledBy word) :
    ofSpelling? (String.ofList word) = some unit := by
  have hspelled := h
  obtain ⟨spelling, hmem, hword⟩ := h
  have hclear := isClear_of_mem hmem
  simp only [isClear, Bool.and_eq_true, beq_iff_eq] at hclear
  rw [ofSpelling?, hspelled.lowerCase_eq hword]
  exact hclear.2

/-- A word for a unit is a name, wherever it stands but at the start. -/
theorem word_eq (h : unit.IsSpelledBy word) (kind : Token.Kind) (rest : List Char) :
    Token.word (some kind) (word ++ rest) word.length =
      .token .identifier (String.ofList word) word.length := by
  have hspelled := h
  obtain ⟨spelling, hmem, hword⟩ := h
  have hclear := isClear_of_mem hmem
  simp only [isClear, Bool.and_eq_true, bne_iff_ne, beq_iff_eq,
    ← hspelled.upperCase_eq hword] at hclear
  obtain ⟨⟨⟨⟨-, hgroup⟩, hwithout⟩, hkeyword⟩, -⟩ := hclear
  unfold Token.word
  simp only [List.take_left, beq_false_of_ne hgroup, beq_false_of_ne hwithout, hkeyword]
  cases kind <;> rfl

end IsSpelledBy

end TimeUnit

/-! ## A spelling and its texts -/

/-- A duration as it is written: digits that are not too many, perhaps with a minus sign before them,
and a word for the unit. -/
structure Spelling where
  negative : Bool
  digits : List Char
  unit : TimeUnit
  word : List Char
  digits_ne_nil : digits ≠ []
  isDigit : ∀ c ∈ digits, Text.isDigit c = true
  length_le : digits.length ≤ digitLimit
  spelled : unit.IsSpelledBy word

namespace Spelling

variable (x : Spelling)

/-- The characters of a spelling. -/
def chars : List Char :=
  Numeral.plain x.negative x.digits [] ++ ' ' :: x.word

/-- The text of a spelling. -/
def text : String :=
  String.ofList x.chars

/-- The duration that is spelled. -/
def value : Duration :=
  ⟨.int (Numeral.signed x.negative x.digits), x.unit⟩

/-- A call of `dur` on a spelling. -/
def bareCall : String :=
  "dur(" ++ x.text ++ ")"

/-- A call of `dur` on a spelling in quotation marks. -/
def quotedCall : String :=
  "dur(\"" ++ x.text ++ "\")"

/-! ### The quoted text -/

theorem isBlank_eq_false {c : Char} (h : c.toNat < 0x80) (halpha : c.isAlpha = true) :
    Text.isBlank c = false := by
  have hascii : ∀ n < 0x80, (Char.ofNat n).isAlpha = true →
      Text.isBlank (Char.ofNat n) = false := by decide
  have hc := hascii c.toNat h
  rw [Char.ofNat_toNat] at hc
  exact hc halpha

theorem splitAt?_word (sign : List Char) :
    Duration.splitAt? sign x.digits [] (' ' :: x.word) =
      some (String.ofList (sign ++ x.digits), String.ofList x.word) := by
  have halpha : ∀ c ∈ x.word, c.isAlpha = true := fun c hc => (x.spelled.isLetter hc).alpha
  have hword : (' ' :: x.word).dropWhile Text.isBlank = x.word := by
    obtain ⟨c, cs, hcons⟩ := List.exists_cons_of_ne_nil x.spelled.ne_nil
    have hletter := x.spelled.isLetter (hcons ▸ List.mem_cons_self : c ∈ x.word)
    have hblank := isBlank_eq_false hletter.ascii hletter.alpha
    rw [List.dropWhile_cons_of_pos (by decide), hcons,
      List.dropWhile_cons_of_neg (Bool.eq_false_iff.mp hblank)]
  have hall : x.word.takeWhile Char.isAlpha = x.word := List.takeWhile_eq_self_iff.mpr halpha
  simp [Duration.splitAt?, hword, hall, x.digits_ne_nil, x.spelled.ne_nil]

/-- The numeral and the word of a spelling are found. -/
theorem split?_chars :
    Duration.split? x.chars =
      some (String.ofList (Numeral.plain x.negative x.digits []), String.ofList x.word) := by
  have hrun : (x.digits ++ ' ' :: x.word).takeWhile Text.isDigit = x.digits := by
    refine Token.takeWhile_exact x.isDigit ?_
    intro c hc
    obtain rfl := Option.some.inj hc
    decide
  have hsplit : ∀ sign, Duration.splitAt? sign x.digits
      (Numeral.fraction (' ' :: x.word)) (' ' :: x.word) =
        some (String.ofList (sign ++ x.digits), String.ofList x.word) := x.splitAt?_word
  rw [Duration.split?_eq]
  cases hsign : x.negative with
  | true =>
      have hchars : x.chars = '-' :: (x.digits ++ ' ' :: x.word) := by
        simp [chars, Numeral.plain, hsign]
      have hdash : Text.isBlank '-' ≠ true := by decide
      rw [hchars, List.dropWhile_cons_of_neg hdash]
      simp only [Duration.afterSign, hrun, List.drop_left, hsplit]
      simp [Numeral.plain]
  | false =>
      obtain ⟨c, cs, hcons⟩ := List.exists_cons_of_ne_nil x.digits_ne_nil
      have hc := x.isDigit c (hcons ▸ List.mem_cons_self)
      have hblank : Text.isBlank c ≠ true := by
        intro hb
        rw [Text.isDigit_eq_false_of_isBlank hb] at hc
        cases hc
      have hchars : x.chars = x.digits ++ ' ' :: x.word := by
        simp [chars, Numeral.plain, hsign]
      have hdrop : x.chars.dropWhile Text.isBlank = x.chars := by
        rw [hchars, hcons, List.cons_append, List.dropWhile_cons_of_neg hblank]
      have hafter : Duration.afterSign x.chars = ([], x.chars) := by
        rw [hchars, hcons, List.cons_append]
        unfold Duration.afterSign
        split
        case h_1 heq => exact absurd (List.cons.inj heq).1 (Text.ne_of_isDigit hc (by decide))
        case h_2 => rfl
      rw [hdrop, hafter]
      simp only [hchars, hrun, List.drop_left, hsplit]
      simp [Numeral.plain]

theorem read_numeral :
    Numeral.read (String.ofList (Numeral.plain x.negative x.digits [])) =
      .ok (.int (Numeral.signed x.negative x.digits)) := by
  rw [Numeral.read_integer x.isDigit x.digits_ne_nil, if_neg (Nat.not_lt.mpr x.length_le)]

/-- A call of `dur` on the text of a spelling denotes what is spelled. -/
theorem denotes_text {name : String} (hname : Text.lowerCase name = "dur") :
    (Expr.call name [.literal (.text x.text)]).Denotes x.value := by
  refine .spelled hname ?_ x.read_numeral
  rw [Duration.spelled?, text, String.toList_ofList, split?_chars]
  simp only [Option.bind_eq_bind, Option.bind_some, x.spelled.ofSpelling?_eq]
  rfl

/-! ### The tokens -/

/-- The tokens of a spelling, after an opening parenthesis and with the closing one. -/
def pieces : List Token.Piece :=
  (if x.negative then [⟨[], ['-'], .minus, "-", 1⟩] else []) ++
    [⟨[], x.digits, .number, String.ofList x.digits, x.digits.length⟩,
      ⟨[' '], x.word, .identifier, String.ofList x.word, x.word.length⟩,
      ⟨[], [')'], .parenClose, ")", 1⟩]

/-- A call of `dur`, cut up to what stands in the parentheses. -/
def callPieces (inside : List Token.Piece) : List Token.Piece :=
  ⟨[], ['d', 'u', 'r'], .identifier, "dur", 3⟩ :: ⟨[], ['('], .parenOpen, "(", 1⟩ :: inside

theorem cut_close (before : Option Token.Kind) :
    Token.Cut before [⟨[], [')'], .parenClose, ")", 1⟩] [] :=
  .piece .nil rfl (Token.Lexes.mark rfl (by decide)).lexeme_eq rfl .done

theorem cut_call {inside : List Token.Piece} (h : Token.Cut (some .parenOpen) inside []) :
    Token.Cut none (callPieces inside) [] := by
  have hdur : ∀ rest, Token.lexeme none 'd' (['u', 'r'] ++ '(' :: rest) =
      .ok (.token .identifier "dur" 3) := by
    intro rest
    have hlength : Token.identifierTail (['u', 'r'] ++ '(' :: rest) = 2 := by
      refine Token.identifierTail_word (List.all_eq_true.mp (by decide)) ?_
      intro c hc
      obtain rfl := Option.some.inj hc
      decide
    have hupper : Text.upperCase (String.ofList ['d', 'u', 'r']) = "DUR" := by decide +kernel
    have hword : Token.headerWord? "DUR" = none := by decide
    rw [(Token.Lexes.word (by decide)).lexeme_eq, hlength]
    simp [Token.word, hupper, hword]
  have hopen : ∀ rest, Token.lexeme (some .identifier) '(' rest =
      .ok (.token .parenOpen "(" 1) := fun rest =>
    (Token.Lexes.mark rfl fun h => absurd h (by decide)).lexeme_eq
  exact .piece .nil rfl (hdur _) rfl (.piece .nil rfl (hopen _) rfl h)

theorem cut_word :
    Token.Cut (some .number) [⟨[' '], x.word, .identifier, String.ofList x.word, x.word.length⟩,
      ⟨[], [')'], .parenClose, ")", 1⟩] [] := by
  obtain ⟨c, cs, hcons⟩ := List.exists_cons_of_ne_nil x.spelled.ne_nil
  have hletter : ∀ d ∈ x.word, Text.isWordStart d = true := fun d hd =>
    (x.spelled.isLetter hd).start
  have hlength : Token.identifierTail (cs ++ [')']) = cs.length := by
    refine Token.identifierTail_word ?_ ?_
    · intro d hd
      have hstart := hletter d (hcons ▸ List.mem_cons_of_mem c hd)
      exact (Bool.and_eq_true_iff.mp hstart).1
    · intro d hd
      obtain rfl := Option.some.inj hd
      decide
  have hlex : Token.lexeme (some .number) c (cs ++ [')']) =
      .ok (.token .identifier (String.ofList x.word) x.word.length) := by
    have hword := x.spelled.word_eq .number [')']
    rw [hcons, List.cons_append, List.length_cons] at hword
    rw [(Token.Lexes.word (hletter c (hcons ▸ List.mem_cons_self))).lexeme_eq, hlength, hword,
      hcons, List.length_cons]
  refine .piece (.blank rfl .nil) ?_ hlex ?_ (cut_close _)
  · show x.word ++ [')'] = c :: (cs ++ [')'])
    rw [hcons, List.cons_append]
  · rw [hcons, List.length_cons, ← List.cons_append]
    exact List.take_left.symm

theorem cut_digits (before : Option Token.Kind) :
    Token.Cut before [⟨[], x.digits, .number, String.ofList x.digits, x.digits.length⟩,
      ⟨[' '], x.word, .identifier, String.ofList x.word, x.word.length⟩,
      ⟨[], [')'], .parenClose, ")", 1⟩] [] := by
  obtain ⟨c, cs, hcons⟩ := List.exists_cons_of_ne_nil x.digits_ne_nil
  have hdetached : Token.Detached (' ' :: (x.word ++ [')'])) := by
    intro d hd
    obtain rfl := Option.some.inj hd
    decide
  have hlex : Token.lexeme before c (cs ++ ' ' :: (x.word ++ [')'])) =
      .ok (.token .number (String.ofList x.digits) x.digits.length) := by
    have hdigits : ∀ d ∈ c :: cs, Text.isDigit d = true := hcons ▸ x.isDigit
    have hmoment : Moment.length? (c :: (cs ++ ' ' :: (x.word ++ [')']))) = none := by
      rw [← List.cons_append, Token.momentLength?_append hdetached]
      exact Moment.length?_of_digits hdigits
    have hnumber : Token.numberLength (c :: (cs ++ ' ' :: (x.word ++ [')']))) =
        (c :: cs).length := by
      rw [← List.cons_append, Token.numberLength_append hdetached, Token.numberLength,
        List.takeWhile_eq_self_iff.mpr hdigits, List.drop_length]
    rw [(Token.Lexes.number (hdigits c List.mem_cons_self) hmoment).lexeme_eq, hnumber,
      ← List.cons_append, List.take_left, hcons]
  refine .piece .nil ?_ hlex ?_ x.cut_word
  · show x.digits ++ ' ' :: (x.word ++ [')']) = c :: (cs ++ ' ' :: (x.word ++ [')']))
    rw [hcons, List.cons_append]
  · rw [hcons, ← List.cons_append]
    exact List.take_left.symm

theorem cut_pieces : Token.Cut (some .parenOpen) x.pieces [] := by
  unfold pieces
  cases x.negative with
  | false => exact x.cut_digits _
  | true =>
      obtain ⟨c, cs, hcons⟩ := List.exists_cons_of_ne_nil x.digits_ne_nil
      have hnext : x.digits ++ ' ' :: (x.word ++ [')']) = c :: (cs ++ ' ' :: (x.word ++ [')'])) := by
        rw [hcons, List.cons_append]
      have hlex : Token.lexeme (some .parenOpen) '-' (x.digits ++ ' ' :: (x.word ++ [')'])) =
          .ok (.token .minus "-" 1) := by
        have hpair : (c :: (cs ++ ' ' :: (x.word ++ [')']))).head?.bind
            (Token.pairOperator? '-') = none := by
          simp [Token.pairOperator?]
        rw [hnext]
        exact (Token.Lexes.single rfl hpair fun h => absurd h (by decide)).lexeme_eq
      exact .piece .nil rfl hlex rfl (x.cut_digits _)

/-- The tokens of a spelling in quotation marks, with the closing parenthesis. -/
def quotedPieces : List Token.Piece :=
  [⟨[], '\x22' :: (x.chars ++ ['\x22']), .string, x.text, x.chars.length + 2⟩,
    ⟨[], [')'], .parenClose, ")", 1⟩]

theorem mem_chars {c : Char} (h : c ∈ x.chars) : c ≠ '\x22' ∧ c ≠ '\x5c' := by
  rcases List.mem_append.mp h with h | h
  · rcases Numeral.mem_plain x.isDigit (List.forall_mem_nil _) h with hdigit | rfl | rfl
    · exact ⟨Text.ne_of_isDigit hdigit (by decide), Text.ne_of_isDigit hdigit (by decide)⟩
    · decide
    · decide
  · rcases List.mem_cons.mp h with rfl | h
    · decide
    · have halpha := (x.spelled.isLetter h).alpha
      constructor
      · rintro rfl
        cases halpha
      · rintro rfl
        cases halpha

theorem stringBody_bare {cs : List Char} (h : ∀ c ∈ cs, c ≠ '\x22' ∧ c ≠ '\x5c')
    (rest : List Char) :
    Token.stringBody '\x22' (cs ++ '\x22' :: rest) = some (cs, cs.length + 1) := by
  induction cs with
  | nil => exact Token.stringBody_close '\x22' rest
  | cons c cs ih =>
      obtain ⟨hquote, hescape⟩ := h c List.mem_cons_self
      rw [List.cons_append, Token.stringBody_plain hquote hescape,
        ih fun d hd => h d (List.mem_cons_of_mem c hd)]
      rfl

theorem cut_quotedPieces : Token.Cut (some .parenOpen) x.quotedPieces [] := by
  have hbody : Token.stringBody '\x22' (x.chars ++ '\x22' :: [')']) =
      some (x.chars, x.chars.length + 1) := stringBody_bare (fun _ => x.mem_chars) [')']
  have hown : '\x22' :: (x.chars ++ '\x22' :: [')']) = '\x22' :: (x.chars ++ ['\x22']) ++ [')'] := by
    simp
  refine .piece .nil hown.symm (Token.Lexes.string (by decide) hbody).lexeme_eq ?_ (cut_close _)
  rw [hown]
  exact (List.take_left' (by simp)).symm

theorem toList_bareCall : x.bareCall.toList = Token.joined (callPieces x.pieces) [] := by
  unfold bareCall callPieces pieces
  cases hsign : x.negative <;> simp [text, chars, Numeral.plain, Token.joined, hsign]

theorem toList_quotedCall : x.quotedCall.toList = Token.joined (callPieces x.quotedPieces) [] := by
  simp [quotedCall, callPieces, quotedPieces, text, Token.joined]

/-! ### Reading -/

/-- A call of `dur` is read as what the grammar derives from its tokens. -/
theorem read_call {call : String} {inside : List Token.Piece} {e : Expr}
    (hcall : call.toList = Token.joined (callPieces inside) [])
    (hcut : Token.Cut (some .parenOpen) inside [])
    (hprimary : ∃ D : Expr.Primary (Token.placed {} (callPieces inside)) e, D.depth = 1)
    {limit : Int} (hlimit : 1 ≤ limit) : Expr.read call limit = .ok e := by
  have hwhole := cut_call hcut
  obtain ⟨stop, hstop, -, htokens⟩ := Token.tokenize_of_cut hwhole .nil hcall
  obtain ⟨D, hdepth⟩ := hprimary
  obtain ⟨D', hdepth'⟩ := D.derivation
  have hone : 1 ≤ Clause.followedDepth := by decide
  rw [Expr.read_eq_ok_iff htokens (fun t => hwhole.kind_ne_end {}) hstop]
  exact ⟨D', by omega⟩

theorem amount?_tokens {n u : Token} (hn : n.kind = .number) (hu : u.kind = .identifier)
    (hdigits : n.text = String.ofList x.digits) (hword : u.text = String.ofList x.word) :
    Expr.amount? [n, u] = some ⟨.int (Text.decimalValue x.digits), x.unit⟩ := by
  have hread : Numeral.read (String.ofList x.digits) =
      .ok (.int (Text.decimalValue x.digits)) := by
    rw [Numeral.read_digits x.isDigit x.digits_ne_nil, if_neg (Nat.not_lt.mpr x.length_le)]
  rw [Expr.amount?, if_pos ⟨hn, hu⟩, hdigits, hword, hread, x.spelled.ofSpelling?_eq]
  rfl

theorem exists_primary {name p q : Token} {ts : List Token} {d : Duration}
    (hname : name.kind = .identifier) (hdur : Text.lowerCase name.text = "dur")
    (hp : p.kind = .parenOpen) (hq : q.kind = .parenClose) (hamount : Expr.amount? ts = some d) :
    ∃ D : Expr.Primary (name :: p :: (ts ++ [q])) (.call name.text [.literal (.duration d)]),
      D.depth = 1 :=
  ⟨.duration name p q hname hdur hp hq hamount, by simp only [Expr.Primary.depth]⟩

theorem read_bareCall {limit : Int} (hlimit : 1 ≤ limit) :
    Expr.read x.bareCall limit = .ok (.call "dur" [.literal (.duration x.value)]) := by
  have hdur : Text.lowerCase "dur" = "dur" := by decide +kernel
  refine read_call x.toList_bareCall x.cut_pieces ?_ hlimit
  unfold value pieces
  cases x.negative with
  | false =>
      exact @exists_primary _ _ _ [_, _] _ rfl hdur rfl rfl (x.amount?_tokens rfl rfl rfl rfl)
  | true =>
      have hminus : ∀ {m n u : Token} {d : Duration}, m.kind = .minus →
          Expr.amount? [n, u] = some d → Expr.amount? [m, n, u] = some d.neg := by
        intro m n u d hm hd
        rw [Expr.amount?, if_pos hm, hd]
        rfl
      exact @exists_primary _ _ _ [_, _, _] _ rfl hdur rfl rfl
        (hminus rfl (x.amount?_tokens rfl rfl rfl rfl))

theorem read_quotedCall {limit : Int} (hlimit : 1 ≤ limit) :
    Expr.read x.quotedCall limit = .ok (.call "dur" [.literal (.text x.text)]) := by
  have hcall : ∀ {name p t q : Token}, name.kind = .identifier → p.kind = .parenOpen →
      t.kind = .string → q.kind = .parenClose →
      ∃ D : Expr.Primary [name, p, t, q] (.call name.text [.literal (.text t.text)]),
        D.depth = 1 := by
    intro name p t q hname hp ht hq
    have hatom : Expr.atom? t = some (.literal (.text t.text)) := by rw [Expr.atom?, ht]
    obtain ⟨D, hdepth⟩ := (Expr.Primary.atom t hatom).derivation
    refine ⟨.call name p q hname hp hq (.filled D .done), ?_⟩
    simp only [Expr.Primary.depth, Expr.Items.depth, Expr.More.depth, hdepth]
    rfl
  refine read_call x.toList_quotedCall x.cut_quotedPieces ?_ hlimit
  exact hcall rfl rfl rfl rfl

end Spelling

/-! ## Durations as operands -/

namespace Expr

/-- Expressions that cannot be told apart where a condition is made of them. -/
structure Alike (e e' : Expr) : Prop where
  duration : e.duration? = e'.duration?
  date : e.isDate = e'.isDate
  continues : ∀ place, continues place e = continues place e'
  operand : ∀ value parent onRight, operand e value parent onRight = operand e' value parent onRight
  lower : ∀ limit place depth, lower limit place depth e = lower limit place depth e'

theorem Alike.refl (e : Expr) : Alike e e :=
  ⟨rfl, rfl, fun _ => rfl, fun _ _ _ => rfl, fun _ _ _ => rfl⟩

/-- Sums of operands that cannot be told apart have the same condition. -/
theorem Alike.condition_binary {op : BinOp} (hop : op.isAdditive = true) {left left' right right' : Expr}
    (hleft : Alike left left') (hright : Alike right right') (limit depth : Nat) :
    (binary op left right).condition limit depth =
      (binary op left' right').condition limit depth := by
  have hlogical : op.isLogical = false := by
    cases op <;> first | rfl | cases hop
  have hshift : shift? op left right = shift? op left' right' := by
    rw [shift?, shift?, hright.duration, hleft.date]
  rw [condition, condition, lower_eq, lower_eq]
  refine bind_congr fun d => ?_
  simp only [lowerNode, hlogical, Bool.false_eq_true, if_false, hleft.lower, hshift]
  refine bind_congr fun value => bind_congr fun shift => ?_
  have htext : leftText op.precedence left value = leftText op.precedence left' value := by
    rw [leftText, leftText, hleft.continues, hleft.operand]
  cases shift with
  | some amount => simp only [operation, htext]
  | none => simp only [operation, htext, hright.lower, hright.operand]

/-- A call of `dur` that denotes a duration is written as the text of the duration. -/
theorem lower_dur {name : String} (hname : Text.lowerCase name = "dur") {args : List Expr}
    {d : Duration} (h : (call name args).Denotes d) (limit : Nat) (place : Place) (depth : Nat) :
    lower limit place depth (.call name args) = descend limit depth >>= fun _ =>
      (d.write.mapError Fault.numeral).map fun text => .leaf (Vocabulary.quote text) := by
  have hspecial : specialCall? name args =
      (d.write.mapError Fault.numeral).map fun text => some (Vocabulary.quote text) := by
    have hdate : ("dur" == "date") = false := by decide
    unfold specialCall?
    simp only [hname, hdate, duration?_eq_some_iff.mpr h, Bool.false_eq_true, if_false, BEq.rfl,
      if_true]
    show (d.write.mapError Fault.numeral).bind (fun text => .ok (some (Vocabulary.quote text))) = _
    cases d.write <;> rfl
  have hlevel : level limit place depth (.call name args) = descend limit depth := by
    cases place <;> rfl
  rw [lower_eq, hlevel]
  refine bind_congr fun _ => ?_
  simp only [lowerNode, hspecial]
  cases d.write <;> rfl

theorem alike_of_denotes {name : String} (hname : Text.lowerCase name = "dur")
    {args args' : List Expr} {d : Duration} (h : (call name args).Denotes d)
    (h' : (call name args').Denotes d) : Alike (.call name args) (.call name args') where
  duration := (duration?_eq_some_iff.mpr h).trans (duration?_eq_some_iff.mpr h').symm
  date := rfl
  continues place := by cases place <;> rfl
  operand value _ _ := by cases value <;> rfl
  lower limit place depth := by rw [lower_dur hname h, lower_dur hname h']

end Expr

/-! ## The text of a duration -/

namespace Spelling

/-- The name of a unit, in the singular or the plural, spells it. -/
theorem isSpelledBy_name {unit : TimeUnit} (h : unit ∈ TimeUnit.standard) (plural : Bool) :
    unit.IsSpelledBy (if plural then unit.name ++ "s" else unit.name).toList := by
  have hall : (TimeUnit.standard.all fun u => [u.name, u.name ++ "s"].all fun s =>
      u.spellings.contains s && s.toList.map Char.toLower == s.toList) = true := by decide +kernel
  have hunit := List.all_eq_true.mp (List.all_eq_true.mp hall unit h)
  have hmem : (if plural then unit.name ++ "s" else unit.name) ∈ [unit.name, unit.name ++ "s"] := by
    cases plural <;> simp
  have hspelling := hunit _ hmem
  simp only [Bool.and_eq_true, List.contains_iff_mem, beq_iff_eq] at hspelling
  exact ⟨_, hspelling.1, hspelling.2⟩

/-- The spelling of an integer amount of a unit of the query language. -/
def ofInt (amount : Int) (unit : TimeUnit) (h : unit ∈ TimeUnit.standard)
    (hamount : amount.natAbs < 10 ^ digitLimit) : Spelling where
  negative := decide (amount < 0)
  digits := Nat.toDigits 10 amount.natAbs
  unit := unit
  word := (if !(Duration.mk (.int amount) unit).isSingular then unit.name ++ "s"
    else unit.name).toList
  digits_ne_nil := Nat.toDigits_ne_nil
  isDigit _ := Text.isDigit_of_mem_toDigits
  length_le := Nat.toDigits_length 10 amount.natAbs digitLimit (by decide) hamount
  spelled := isSpelledBy_name h _

variable {amount : Int} {unit : TimeUnit} (h : unit ∈ TimeUnit.standard)
  (hamount : amount.natAbs < 10 ^ digitLimit)

theorem value_ofInt : (ofInt amount unit h hamount).value = ⟨.int amount, unit⟩ := by
  have hsigned : Numeral.signed (decide (amount < 0)) (Nat.toDigits 10 amount.natAbs) = amount := by
    rw [Numeral.signed, Text.decimalValue_toDigits]
    by_cases hneg : amount < 0
    · rw [if_pos (decide_eq_true hneg)]
      omega
    · rw [if_neg (by simpa using hneg)]
      omega
  rw [value]
  exact congrArg (fun n => Duration.mk (.int n) unit) hsigned

/-- A duration is written as the spelling of the amount and the unit that it is written in. -/
theorem write_eq_text {d : Duration} (hnormal : d.normal = ⟨.int amount, unit⟩) :
    d.write = .ok (ofInt amount unit h hamount).text := by
  have hoverlong : d.isOverlong = false := by
    rw [Duration.isOverlong, hnormal]
    exact Number.isOverlong_of_within hamount
  have htext : d.text = (ofInt amount unit h hamount).text := by
    apply String.ext
    rw [Duration.text, hnormal]
    by_cases hneg : amount < 0 <;> by_cases hone : (Duration.mk (.int amount) unit).isSingular = true <;>
      simp [ofInt, text, chars, Numeral.plain, Number.text, intText, hneg, hone]
  rw [Duration.write, hoverlong, htext]
  rfl

end Spelling

/-- A duration that stands in tokens and one that stands in a quoted text are read as the same
duration, they are written in the same way, and so are sums and differences with them.  And the text
of an amount of a unit is read as that duration, as days if the unit is the week. -/
theorem duration_spellings_agree :
    (∀ (x : Spelling) (limit : Int), 1 ≤ limit →
      ∃ bare quoted, Expr.read x.bareCall limit = .ok bare ∧
        Expr.read x.quotedCall limit = .ok quoted ∧
        bare.duration? = .ok (some x.value) ∧ quoted.duration? = .ok (some x.value) ∧
        (∀ levels depth, depth < levels → bare.condition levels depth =
          (x.value.write.mapError Fault.numeral).map fun text => .leaf (Vocabulary.quote text)) ∧
        (∀ levels depth, bare.condition levels depth = quoted.condition levels depth) ∧
        ∀ op : BinOp, op.isAdditive = true → ∀ other levels depth,
          (Expr.binary op other bare).condition levels depth =
            (Expr.binary op other quoted).condition levels depth ∧
          (Expr.binary op bare other).condition levels depth =
            (Expr.binary op quoted other).condition levels depth) ∧
    ∀ (amount : Int) (unit : TimeUnit), unit ∈ TimeUnit.standard →
      (7 * amount).natAbs < 10 ^ digitLimit →
      ∃ text, (Duration.mk (.int amount) unit).write = .ok text ∧
        (Expr.call "dur" [.literal (.text text)]).duration? =
          .ok (some (if unit = .week then ⟨.int (7 * amount), .day⟩ else ⟨.int amount, unit⟩)) := by
  have hdur : Text.lowerCase "dur" = "dur" := by decide +kernel
  constructor
  · intro x limit hlimit
    have hbare : (Expr.call "dur" [.literal (.duration x.value)]).Denotes x.value := .call _ hdur
    have hquoted := x.denotes_text hdur
    have halike := Expr.alike_of_denotes hdur hbare hquoted
    refine ⟨_, _, x.read_bareCall hlimit, x.read_quotedCall hlimit,
      Expr.duration?_eq_some_iff.mpr hbare, Expr.duration?_eq_some_iff.mpr hquoted, ?_, ?_, ?_⟩
    · intro levels depth hdepth
      have hdescend : descend levels depth = .ok (depth + 1) := if_pos hdepth
      rw [Expr.condition, Expr.lower_dur hdur hbare, hdescend]
      rfl
    · intro levels depth
      exact halike.lower levels .alone depth
    · intro op hop other levels depth
      exact ⟨Expr.Alike.condition_binary hop (.refl other) halike levels depth,
        Expr.Alike.condition_binary hop halike (.refl other) levels depth⟩
  · intro amount unit hunit hamount
    by_cases hweek : unit = .week
    · have hnormal : (Duration.mk (.int amount) unit).normal = ⟨.int (7 * amount), .day⟩ := by
        rw [Duration.normal, if_pos hweek, Int.mul_comm]
        rfl
      have hday : TimeUnit.day ∈ TimeUnit.standard := by decide
      refine ⟨_, Spelling.write_eq_text hday hamount hnormal, ?_⟩
      rw [if_pos hweek, ← Spelling.value_ofInt hday hamount]
      exact Expr.duration?_eq_some_iff.mpr (Spelling.denotes_text _ hdur)
    · have hnormal : (Duration.mk (.int amount) unit).normal = ⟨.int amount, unit⟩ := by
        rw [Duration.normal, if_neg hweek]
        rfl
      have hless : amount.natAbs < 10 ^ digitLimit := by
        generalize 10 ^ digitLimit = bound at hamount ⊢
        omega
      refine ⟨_, Spelling.write_eq_text hunit hless hnormal, ?_⟩
      rw [if_neg hweek, ← Spelling.value_ofInt hunit hless]
      exact Expr.duration?_eq_some_iff.mpr (Spelling.denotes_text _ hdur)

/-- Two weeks back, with a zero before the digit and with capital letters. -/
def twoWeeksBack : Spelling where
  negative := true
  digits := ['0', '2']
  unit := .week
  word := ['W', 'k', 'S']
  digits_ne_nil := by decide
  isDigit := List.all_eq_true.mp (by decide)
  length_le := by decide
  spelled := ⟨"wks", by decide, by decide⟩

theorem duration_spellings_agree_twoWeeksBack :
    (twoWeeksBack.bareCall = "dur(-02 WkS)" ∧ twoWeeksBack.quotedCall = "dur(\"-02 WkS\")") ∧
    (∃ bare quoted, Expr.read twoWeeksBack.bareCall 1 = .ok bare ∧
      Expr.read twoWeeksBack.quotedCall 1 = .ok quoted ∧
      bare.duration? = .ok (some twoWeeksBack.value) ∧
      (Expr.binary .sub (.call "now" []) bare).condition 2 0 =
        (Expr.binary .sub (.call "now" []) quoted).condition 2 0) ∧
    ∃ text, (Duration.mk (.int (-2)) .week).write = .ok text ∧
      (Expr.call "dur" [.literal (.text text)]).duration? = .ok (some ⟨.int (-14), .day⟩) := by
  obtain ⟨hread, hwritten⟩ := duration_spellings_agree
  obtain ⟨bare, quoted, hbare, hquoted, hduration, -, -, -, hsums⟩ :=
    hread twoWeeksBack 1 (by decide)
  have hsmall : (7 * (-2) : Int).natAbs < 10 ^ digitLimit :=
    Nat.lt_of_lt_of_le (by decide : 14 < 10 ^ 2) (Number.ten_pow_le (by decide))
  exact ⟨⟨by decide +kernel, by decide +kernel⟩,
    ⟨bare, quoted, hbare, hquoted, hduration, (hsums .sub rfl _ 2 0).1⟩,
    hwritten (-2) .week (by decide) hsmall⟩

end VaultQuery
