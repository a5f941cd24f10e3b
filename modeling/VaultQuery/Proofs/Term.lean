import Mathlib.Data.List.TakeWhile
import VaultQuery.Proofs.Text

/-!
Terms of the expression language of a base, and the signs they are written with.  This is the
language as its users read it, stated on its own: nothing here looks at how queries are lowered.
`Sign.all?` cuts a text into signs; its main law is that a text which is cut by itself is cut in the
same way in front of anything that does not run on from it.
-/

namespace VaultQuery

/-- A term of the expression language of a base. -/
inductive Term where
  | name (word : String)
  | text (value : String)
  | number (value : Nat)
  | bool (value : Bool)
  | null
  | list (items : List Term)
  | call (function : String) (args : List Term)
  /-- A property: `file.name`. -/
  | member (object : Term) (key : String)
  /-- An element: `row["key"]`. -/
  | item (object key : Term)
  | not (child : Term)
  | binary (symbol : String) (left right : Term)
deriving Repr, Inhabited

/-- A sign: what a text is made of between its gaps. -/
inductive Sign where
  | word (letters : String)
  | numeral (value : Nat)
  | text (value : String)
  | operator (symbol : String)
  | bang | parenOpen | parenClose | bracketOpen | bracketClose | comma | dot
deriving DecidableEq, Repr

namespace Sign

/-- Operators of two characters. -/
def pair? (c d : Char) : Option Sign :=
  if d == '=' && (c == '=' || c == '!' || c == '<' || c == '>') then
    some (.operator (String.ofList [c, d]))
  else if c == d && (c == '&' || c == '|') then some (.operator (String.ofList [c, d]))
  else none

/-- Signs of one character. -/
def single? (c : Char) : Option Sign :=
  match c with
  | '<' | '>' | '+' | '-' | '*' | '/' | '%' => some (.operator c.toString)
  | '!' => some .bang
  | '(' => some .parenOpen
  | ')' => some .parenClose
  | '[' => some .bracketOpen
  | ']' => some .bracketClose
  | ',' => some .comma
  | '.' => some .dot
  | _ => none

/-- What stands at the start of a text that is not empty: a gap or a sign, with the number of its
characters after the first one. -/
def first? (c : Char) (cs : List Char) : Option (Option Sign × Nat) :=
  if Token.isGap c then some (none, 0)
  else if c == '\x22' then
    (Token.stringBody c cs).map fun (body, n) => (some (.text (String.ofList body)), n)
  else if c.isDigit then
    let more := cs.takeWhile Char.isDigit
    some (some (.numeral (Nat.ofDigitChars 10 (c :: more) 0)), more.length)
  else if Text.isWordStart c then
    let more := cs.takeWhile Text.isWord
    some (some (.word (String.ofList (c :: more))), more.length)
  else match cs.head?.bind (pair? c) with
    | some sign => some (some sign, 1)
    | none => (single? c).map fun sign => (some sign, 0)

/-- The signs of a text of which the first `skip` characters belong to a sign already taken. -/
def allFrom : (skip : Nat) → List Char → Option (List Sign)
  | _, [] => some []
  | skip + 1, _ :: cs => allFrom skip cs
  | 0, c :: cs =>
    match first? c cs with
    | none => none
    | some (sign, n) => (allFrom n cs).map (sign.toList ++ ·)

/-- The signs of a text. -/
def all? (cs : List Char) : Option (List Sign) :=
  allFrom 0 cs

/-! ## One sign at a time -/

theorem allFrom_eq_drop (skip : Nat) (cs : List Char) :
    allFrom skip cs = all? (cs.drop skip) := by
  induction cs generalizing skip with
  | nil => cases skip <;> rfl
  | cons c cs ih =>
      cases skip with
      | zero => rfl
      | succ skip => exact ih skip

theorem all?_cons (c : Char) (cs : List Char) :
    all? (c :: cs) =
      (first? c cs).bind fun r => (all? (cs.drop r.2)).map (r.1.toList ++ ·) := by
  rw [all?, allFrom]
  cases first? c cs with
  | none => rfl
  | some r => rw [Option.bind_some, ← allFrom_eq_drop]

/-- A character that runs on from nothing before it: no word character, and none that ends an
operator. -/
def detaches (c : Char) : Bool :=
  !Text.isWord c && c != '=' && c != '&' && c != '|'

/-- A text that does not run on from what stands before it. -/
def Detached (cs : List Char) : Prop :=
  ∀ c ∈ cs.head?, detaches c = true

theorem detached_cons {c : Char} (hc : detaches c = true) (cs : List Char) :
    Detached (c :: cs) := by
  intro d hd
  obtain rfl : c = d := by simpa using hd
  exact hc

theorem Detached.takeWhile {p : Char → Bool} (hp : ∀ c, p c = true → Text.isWord c = true)
    {rest : List Char} (h : Detached rest) (cs : List Char) :
    (cs ++ rest).takeWhile p = cs.takeWhile p := by
  induction cs with
  | nil =>
      cases rest with
      | nil => rfl
      | cons d rest =>
          have hd : p d = false := by
            have hw : Text.isWord d = false := by
              have hd := h d rfl
              simp only [detaches, Bool.and_eq_true, Bool.not_eq_true'] at hd
              exact hd.1.1.1
            cases hpd : p d with
            | false => rfl
            | true => rw [← hw]; exact (hp d hpd).symm
          simp [hd]
  | cons c cs ih =>
      simp only [List.cons_append, List.takeWhile_cons, ih]

theorem Detached.pair? {rest : List Char} (h : Detached rest) (c : Char) (cs : List Char) :
    (cs ++ rest).head?.bind (pair? c) = cs.head?.bind (pair? c) := by
  cases cs with
  | cons d cs => rfl
  | nil =>
      cases rest with
      | nil => rfl
      | cons d rest =>
          have hd := h d rfl
          simp only [detaches, Bool.and_eq_true, bne_iff_ne, ne_eq] at hd
          obtain ⟨⟨⟨-, he⟩, ha⟩, ho⟩ := hd
          have hpair : Sign.pair? c d = none := by
            simp only [Sign.pair?, Bool.and_eq_true, beq_iff_eq, Bool.or_eq_true]
            rw [if_neg (fun hd => he hd.1), if_neg]
            rintro ⟨rfl, rfl | rfl⟩
            · exact ha rfl
            · exact ho rfl
          simpa using hpair

/-- Only a string looks further than the next detached character. -/
theorem first?_append_of_ne {c : Char} (hc : c ≠ '\x22') (cs : List Char) {rest : List Char}
    (hr : Detached rest) : first? c (cs ++ rest) = first? c cs := by
  have hq : (c == '\x22') = false := by simpa using hc
  simp only [first?, hq, hr.takeWhile (fun _ h => Text.isWord_of_isDigit h),
    hr.takeWhile (fun _ h => h), hr.pair?, Bool.false_eq_true, if_false]

theorem first?_quote (cs : List Char) :
    first? '\x22' cs =
      (Token.stringBody '\x22' cs).map fun (body, n) => (some (.text (String.ofList body)), n) :=
  rfl

/-- The first sign takes no more characters than there are. -/
theorem first?_le {c : Char} {cs : List Char} {r : Option Sign × Nat} (h : first? c cs = some r) :
    r.2 ≤ cs.length := by
  by_cases hc : c = '\x22'
  · subst hc
    rw [first?_quote] at h
    obtain ⟨⟨body, n⟩, hs, rfl⟩ := Option.map_eq_some_iff.mp h
    exact (Token.stringBody_append hs []).2
  · unfold first? at h
    split at h
    · cases h; exact Nat.zero_le _
    · rw [if_neg (by simpa using hc)] at h
      split at h
      · cases h; exact List.takeWhile_prefix _ |>.length_le
      · split at h
        · cases h; exact List.takeWhile_prefix _ |>.length_le
        · split at h
          · next hp =>
            cases h
            cases cs with
            | nil => exact absurd hp (by simp)
            | cons d cs => simp
          · obtain ⟨sign, -, rfl⟩ := Option.map_eq_some_iff.mp h
            exact Nat.zero_le _

/-- The first sign is the same in front of anything detached. -/
theorem first?_append {c : Char} {cs rest : List Char} {r : Option Sign × Nat}
    (h : first? c cs = some r) (hr : Detached rest) : first? c (cs ++ rest) = some r := by
  by_cases hc : c = '\x22'
  · subst hc
    rw [first?_quote] at h ⊢
    obtain ⟨⟨body, n⟩, hs, rfl⟩ := Option.map_eq_some_iff.mp h
    rw [(Token.stringBody_append hs rest).1]
    rfl
  · rw [first?_append_of_ne hc cs hr, h]

theorem first?_append_eq_none {c : Char} {cs rest : List Char}
    (h : first? c cs = none) (hr : Detached rest) (hq : '\x22' ∉ rest) :
    first? c (cs ++ rest) = none := by
  by_cases hc : c = '\x22'
  · subst hc
    rw [first?_quote] at h ⊢
    rw [Token.stringBody_append_eq_none (by simpa using h) hq]
    rfl
  · rw [first?_append_of_ne hc cs hr, h]

/-! ## The whole text -/

theorem all?_nil : all? [] = some [] :=
  rfl

/-- Induction over the ends of a text: the signs after the first one are those of a shorter end. -/
theorem drop_induction {motive : List Char → Prop} (nil : motive [])
    (cons : ∀ c cs, (∀ k, motive (cs.drop k)) → motive (c :: cs)) (cs : List Char) : motive cs := by
  have hall : ∀ n, ∀ cs : List Char, cs.length ≤ n → motive cs := by
    intro n
    induction n with
    | zero =>
        intro cs hn
        rw [List.eq_nil_of_length_eq_zero (Nat.le_zero.mp hn)]
        exact nil
    | succ n ih =>
        intro cs hn
        cases cs with
        | nil => exact nil
        | cons c cs =>
            refine cons c cs (fun k => ih _ ?_)
            rw [List.length_drop]
            rw [List.length_cons] at hn
            omega
  exact hall cs.length cs (Nat.le_refl _)

/-- A text that is cut by itself is cut in the same way in front of anything detached. -/
theorem all?_append {cs rest : List Char} {ss : List Sign} (h : all? cs = some ss)
    (hr : Detached rest) : all? (cs ++ rest) = (all? rest).map (ss ++ ·) := by
  induction cs using drop_induction generalizing ss with
  | nil =>
      obtain rfl : [] = ss := by simpa [all?_nil] using h
      simp
  | cons c cs ih =>
      rw [all?_cons] at h
      obtain ⟨r, hf, hm⟩ := Option.bind_eq_some_iff.mp h
      obtain ⟨us, hu, rfl⟩ := Option.map_eq_some_iff.mp hm
      rw [List.cons_append, all?_cons, first?_append hf hr, Option.bind_some,
        List.drop_append_of_le_length (first?_le hf), ih r.2 hu, Option.map_map]
      congr 1
      funext vs
      simp

theorem all?_append_eq_none {cs rest : List Char} (h : all? cs = none) (hr : Detached rest)
    (hq : '\x22' ∉ rest) : all? (cs ++ rest) = none := by
  induction cs using drop_induction with
  | nil => exact absurd h (by simp [all?_nil])
  | cons c cs ih =>
      rw [all?_cons] at h
      rw [List.cons_append, all?_cons]
      cases hf : first? c cs with
      | none => rw [first?_append_eq_none hf hr hq]; rfl
      | some r =>
          rw [hf, Option.bind_some, Option.map_eq_none_iff] at h
          rw [first?_append hf hr, Option.bind_some, List.drop_append_of_le_length (first?_le hf),
            ih r.2 h]
          rfl

/-- Conversely, what is cut in front of a detached text without quotes is cut by itself. -/
theorem all?_of_append {cs rest : List Char} {ss : List Sign} (h : all? (cs ++ rest) = some ss)
    (hr : Detached rest) (hq : '\x22' ∉ rest) :
    ∃ us vs, all? cs = some us ∧ all? rest = some vs ∧ ss = us ++ vs := by
  cases hc : all? cs with
  | none =>
      rw [all?_append_eq_none hc hr hq] at h
      exact absurd h (by simp)
  | some us =>
      rw [all?_append hc hr] at h
      obtain ⟨vs, hv, rfl⟩ := Option.map_eq_some_iff.mp h
      exact ⟨us, vs, rfl, hv, rfl⟩

/-! ## Pieces of a text -/

/-- A word: a character that may open one, and word characters. -/
def isWordText (w : String) : Bool :=
  match w.toList with
  | [] => false
  | c :: cs => Text.isWordStart c && cs.all Text.isWord

theorem isWord_of_mem_isWordText {w : String} (h : isWordText w = true) {c : Char}
    (hc : c ∈ w.toList) : Text.isWord c = true := by
  unfold isWordText at h
  split at h
  · exact absurd h Bool.false_ne_true
  · next d ds hw =>
    rw [hw] at hc
    simp only [Bool.and_eq_true, List.all_eq_true] at h
    rcases List.mem_cons.mp hc with rfl | hm
    · exact Text.isWord_of_isWordStart h.1
    · exact h.2 c hm

theorem all?_gap {c : Char} (hc : Token.isGap c = true) (cs : List Char) :
    all? (c :: cs) = all? cs := by
  have hf : first? c cs = some (none, 0) := by rw [first?, if_pos hc]
  rw [all?_cons, hf, Option.bind_some, List.drop_zero]
  exact Option.map_id'

theorem all?_single {c : Char} {sign : Sign} (hs : single? c = some sign) {cs : List Char}
    (hp : cs.head?.bind (pair? c) = none) : all? (c :: cs) = (all? cs).map (sign :: ·) := by
  have hc : Token.isGap c = false ∧ (c == '\x22') = false ∧ c.isDigit = false ∧
      Text.isWordStart c = false := by
    unfold single? at hs
    split at hs <;> first | decide | exact absurd hs (by simp)
  have hf : first? c cs = some (some sign, 0) := by
    simp [first?, hc, hp, hs]
  rw [all?_cons, hf]
  rfl

/-- A bracket, a comma or a point is a sign whatever follows it. -/
theorem all?_mark {c : Char} {sign : Sign} (hs : single? c = some sign)
    (hc : ['=', '!', '<', '>', '&', '|'].contains c = false) (cs : List Char) :
    all? (c :: cs) = (all? cs).map (sign :: ·) := by
  refine all?_single hs ?_
  cases cs.head? with
  | none => rfl
  | some d =>
      simp only [List.contains_cons, List.contains_nil, Bool.or_eq_false_iff] at hc
      obtain ⟨he, hb, hl, hg, ha, ho, -⟩ := hc
      simp [pair?, he, hb, hl, hg, ha, ho]

theorem all?_word {w : String} (h : isWordText w = true) : all? w.toList = some [.word w] := by
  unfold isWordText at h
  split at h
  · exact absurd h Bool.false_ne_true
  · next c cs hw =>
    simp only [Bool.and_eq_true, List.all_eq_true] at h
    have hword := Text.isWord_of_isWordStart h.1
    have hmore : cs.takeWhile Text.isWord = cs := List.takeWhile_eq_self_iff.mpr h.2
    have hf : first? c cs = some (some (.word w), cs.length) := by
      simp only [first?, Text.isGap_eq_false_of_isWord hword, Text.beq_quote_of_isWord hword,
        Text.isDigit_eq_false_of_isWordStart h.1, h.1, hmore, ← hw, String.ofList_toList]
      rfl
    rw [hw, all?_cons, hf, Option.bind_some, List.drop_length]
    rfl

theorem all?_digits (n : Nat) : all? (Nat.toDigits 10 n) = some [.numeral n] := by
  have hdigit : ∀ c ∈ Nat.toDigits 10 n, c.isDigit = true :=
    fun c hc => Nat.isDigit_of_mem_toDigits (by decide) (by decide) hc
  have hvalue := Nat.ofDigitChars_ten_toDigits (n := n)
  cases hds : Nat.toDigits 10 n with
  | nil => exact absurd hds Nat.toDigits_ne_nil
  | cons c cs =>
      rw [hds] at hdigit hvalue
      have hc := hdigit c List.mem_cons_self
      have hword := Text.isWord_of_isDigit hc
      have hmore : cs.takeWhile Char.isDigit = cs :=
        List.takeWhile_eq_self_iff.mpr (fun d hd => hdigit d (List.mem_cons_of_mem _ hd))
      have hf : first? c cs = some (some (.numeral n), cs.length) := by
        simp [first?, Text.isGap_eq_false_of_isWord hword, Text.beq_quote_of_isWord hword, hc,
          hmore, hvalue]
      rw [all?_cons, hf, Option.bind_some, List.drop_length]
      rfl

theorem all?_quote (s : String) : all? (Vocabulary.quote s).toList = some [.text s] := by
  have hb := Token.stringBody_quotedChar s.toList []
  have hf : first? '\x22' (s.toList.flatMap Vocabulary.quotedChar ++ ['\x22']) =
      some (some (.text s), (s.toList.flatMap Vocabulary.quotedChar).length + 1) := by
    rw [first?_quote, hb]
    simp
  rw [Vocabulary.quote, String.toList_ofList, List.cons_append, all?_cons, hf, Option.bind_some,
    List.drop_of_length_le (by simp)]
  rfl

end Sign

end VaultQuery
