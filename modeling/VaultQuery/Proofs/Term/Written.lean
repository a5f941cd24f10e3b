import Mathlib.Data.List.Forall2
import VaultQuery.Proofs.Term.Grammar

/-!
Texts that are written at a rank.  `Written k s t` says that the text `s` is read as the term `t`
and binds at least as tightly as rank `k`; the lemmas below follow the grammar, one for each way to
put texts together.
-/

namespace VaultQuery.Term

/-- The text `s` spells the term `t` at rank `k`. -/
def Written (k : Nat) (s : String) (t : Term) : Prop :=
  ∃ ss, Sign.all? s.toList = some ss ∧ Spelled k ss t

/-- What a text is read as is what it spells at the loosest rank. -/
theorem read?_eq_some_iff {s : String} {t : Term} :
    read? s = some t ↔ Written loosest s t := by
  simp only [read?, Option.bind_eq_some_iff, parse?_eq_some_iff, Written]

theorem Written.mono {j k : Nat} {s : String} {t : Term} (h : Written j s t) (hle : j ≤ k) :
    Written k s t := by
  obtain ⟨ss, hs, ht⟩ := h
  exact ⟨ss, hs, ht.mono hle⟩

theorem Written.unique {j k : Nat} {s : String} {t u : Term} (hj : j ≤ loosest) (hk : k ≤ loosest)
    (ht : Written j s t) (hu : Written k s u) : t = u := by
  have hread := read?_eq_some_iff.mpr (ht.mono hj)
  rw [read?_eq_some_iff.mpr (hu.mono hk)] at hread
  exact (Option.some.inj hread).symm

/-! ## Primaries -/

theorem written_word {w : String} (h : Sign.isWordText w = true) : Written 0 w (ofWord w) :=
  ⟨[.word w], Sign.all?_word h, .word w⟩

theorem written_number (n : Nat) : Written 0 (String.ofList (Nat.toDigits 10 n)) (.number n) :=
  ⟨[.numeral n], by rw [String.toList_ofList, Sign.all?_digits], .numeral n⟩

theorem written_quote (s : String) : Written 0 (Vocabulary.quote s) (.text s) :=
  ⟨[.text s], Sign.all?_quote s, .text s⟩

theorem all?_bracketed {first last : Char} {s t : Sign} (hf : Sign.single? first = some s)
    (hfp : ['=', '!', '<', '>', '&', '|'].contains first = false)
    (hl : Sign.single? last = some t)
    (hlp : ['=', '!', '<', '>', '&', '|'].contains last = false)
    (hd : Sign.detaches last = true) {cs : List Char} {ss : List Sign}
    (h : Sign.all? cs = some ss) :
    Sign.all? (first :: (cs ++ [last])) = some (s :: (ss ++ [t])) := by
  rw [Sign.all?_mark hf hfp, Sign.all?_append h (Sign.detached_cons hd []), Sign.all?_mark hl hlp]
  rfl

theorem Written.paren {s : String} {t : Term} (h : Written loosest s t) :
    Written 0 ("(" ++ s ++ ")") t := by
  obtain ⟨ss, hs, ht⟩ := h
  refine ⟨.parenOpen :: (ss ++ [.parenClose]), ?_, .paren ht⟩
  have htext : ("(" ++ s ++ ")").toList = '(' :: (s.toList ++ [')']) := by simp
  rw [htext]
  exact all?_bracketed rfl (by decide) rfl (by decide) (by decide) hs

theorem Written.member {s w : String} {t : Term} (h : Written 0 s t)
    (hw : Sign.isWordText w = true) : Written 0 (s ++ "." ++ w) (.member t w) := by
  obtain ⟨ss, hs, ht⟩ := h
  refine ⟨ss ++ [.dot, .word w], ?_, .member w ht⟩
  have htext : (s ++ "." ++ w).toList = s.toList ++ '.' :: w.toList := by simp
  rw [htext, Sign.all?_append hs (Sign.detached_cons (by decide) _),
    Sign.all?_mark rfl (by decide), Sign.all?_word hw]
  rfl

theorem ofWord_cases (w : String) :
    (∃ b, ofWord w = .bool b) ∨ ofWord w = .null ∨ ofWord w = .name w := by
  unfold ofWord
  split
  case isTrue => exact .inl ⟨true, rfl⟩
  case isFalse =>
      split
      case isTrue => exact .inl ⟨false, rfl⟩
      case isFalse =>
          split
          case isTrue => exact .inr (.inl rfl)
          case isFalse => exact .inr (.inr rfl)

theorem Spelled.member_cases {k : Nat} {ss : List Sign} {t u : Term} {w : String}
    (h : Spelled k ss u) (hu : u = .member t w) :
    (∃ us, ss = us ++ [.dot, .word w] ∧ Spelled 0 us t) ∨ ss.getLast? = some .parenClose := by
  match h with
  | @Spelled.paren us _ _ =>
      refine .inr ?_
      rw [← List.cons_append]
      exact List.getLast?_concat
  | .member _ h =>
      obtain ⟨rfl, rfl⟩ := Term.member.inj hu
      exact .inl ⟨_, rfl, h⟩
  | .looser h => exact h.member_cases hu
  | .word w => rcases ofWord_cases w with ⟨b, hb⟩ | hn | hn <;> simp_all

/-- A text that is read as a part of what stands before its last point has a primary there. -/
theorem Written.of_member {s w : String} {t : Term} (hw : Sign.isWordText w = true)
    (h : Written loosest (s ++ "." ++ w) (.member t w)) : Written 0 s t := by
  obtain ⟨ss, hs, ht⟩ := h
  have htext : (s ++ "." ++ w).toList = s.toList ++ '.' :: w.toList := by simp
  have hquote : '\x22' ∉ '.' :: w.toList := by
    rw [List.mem_cons, not_or]
    refine ⟨by decide, fun hmem => ?_⟩
    exact absurd (Sign.isWord_of_mem_isWordText hw hmem) (by decide)
  rw [htext] at hs
  obtain ⟨us, vs, hus, hvs, rfl⟩ :=
    Sign.all?_of_append hs (Sign.detached_cons (by decide) _) hquote
  rw [Sign.all?_mark rfl (by decide), Sign.all?_word hw] at hvs
  obtain rfl := Option.some.inj hvs
  -- The last sign is a word, so the text is no term in parentheses.
  rcases ht.member_cases rfl with ⟨us', heq, hobject⟩ | hlast
  · obtain rfl := (List.append_inj' heq rfl).1
    exact ⟨us, hus, hobject⟩
  · simp at hlast

/-! ## Operations -/

theorem all?_bang {s : String} (hs : s.toList.head? ≠ some '=') :
    Sign.all? ("!" ++ s).toList = (Sign.all? s.toList).map (.bang :: ·) := by
  have htext : ("!" ++ s).toList = '!' :: s.toList := by simp
  have hpair : s.toList.head?.bind (Sign.pair? '!') = none := by
    cases hd : s.toList.head? with
    | none => rfl
    | some d =>
        have hne : d ≠ '=' := fun he => hs (by rw [hd, he])
        simp [Sign.pair?, hne]
  rw [htext, Sign.all?_single rfl hpair]

theorem Written.not {s : String} {t : Term} (h : Written 1 s t) (hs : s.toList.head? ≠ some '=') :
    Written 1 ("!" ++ s) (.not t) := by
  obtain ⟨ss, hss, ht⟩ := h
  refine ⟨.bang :: ss, ?_, .not ht⟩
  rw [all?_bang hs, hss]
  rfl

/-- A negation is no primary. -/
theorem not_written_of_bang {s : String} (hs : s.toList.head? ≠ some '=') (t : Term) :
    ¬ Written 0 ("!" ++ s) t := by
  rintro ⟨ss, hall, ht⟩
  obtain ⟨sign, us, rfl, -, hbang⟩ := ht.head
  rw [all?_bang hs] at hall
  obtain ⟨_, _, heq⟩ := Option.map_eq_some_iff.mp hall
  exact hbang rfl (List.cons.inj heq).1.symm

/-- Every operator with a rank is one sign. -/
theorem all?_symbol {symbol : String} {k : Nat} (h : rank? symbol = some k) :
    Sign.all? symbol.toList = some [.operator symbol] := by
  have hall : ∀ p ∈ ranks, Sign.all? p.1.toList = some [.operator p.1] := by decide
  obtain ⟨l₁, l₂, hl, -⟩ := List.lookup_eq_some_iff.mp h
  exact hall (symbol, k) (by rw [hl]; simp)

theorem all?_binary {k : Nat} {symbol s s' : String} {ss us : List Sign}
    (hk : rank? symbol = some k) (hs : Sign.all? s.toList = some ss)
    (hu : Sign.all? s'.toList = some us) :
    Sign.all? (s ++ " " ++ symbol ++ " " ++ s').toList = some (ss ++ .operator symbol :: us) := by
  have htext : (s ++ " " ++ symbol ++ " " ++ s').toList =
      s.toList ++ ' ' :: (symbol.toList ++ ' ' :: s'.toList) := by simp
  have hspace := Sign.detached_cons (c := ' ') (by decide)
  rw [htext, Sign.all?_append hs (hspace _), Sign.all?_gap rfl,
    Sign.all?_append (all?_symbol hk) (hspace _), Sign.all?_gap rfl, hu]
  rfl

theorem Written.binary {k : Nat} {symbol s s' : String} {t u : Term}
    (hk : rank? symbol = some (k + 1)) (h : Written (k + 1) s t) (h' : Written k s' u) :
    Written (k + 1) (s ++ " " ++ symbol ++ " " ++ s') (.binary symbol t u) := by
  obtain ⟨ss, hs, ht⟩ := h
  obtain ⟨us, hu, hu'⟩ := h'
  exact ⟨ss ++ .operator symbol :: us, all?_binary hk hs hu, .binary hk ht hu'⟩

/-- Operands with one operator between each two are grouped to the left. -/
theorem written_chain {k : Nat} {symbol : String} (hk : rank? symbol = some (k + 1))
    {texts : List String} {us : List Term} (hall : List.Forall₂ (Written k) texts us) :
    ∀ {s : String} {t : Term}, Written (k + 1) s t →
      Written (k + 1) (String.intercalate (" " ++ symbol ++ " ") (s :: texts))
        (us.foldl (.binary symbol) t) := by
  induction hall with
  | nil =>
      intro s t h
      rwa [String.intercalate_singleton]
  | @cons x u texts us hx _ ih =>
      intro s t h
      have hstep := ih (h.binary hk hx)
      have hsep : s ++ " " ++ symbol ++ " " ++ x = s ++ (" " ++ symbol ++ " ") ++ x := by
        simp only [String.append_assoc]
      rwa [hsep, String.intercalate_cons_append, ← String.intercalate_cons_cons] at hstep

/-! ## Lists and calls -/

theorem items_of_forall {texts : List String} {ts : List Term}
    (h : List.Forall₂ (Written loosest) texts ts) :
    ∃ ss, Sign.all? (String.intercalate ", " texts).toList = some ss ∧ Items ss ts := by
  induction h with
  | nil => exact ⟨[], rfl, .none⟩
  | @cons s t texts ts hs hall ih =>
      obtain ⟨us, hu, ht⟩ := hs
      cases hall with
      | nil => exact ⟨us, by rwa [String.intercalate_singleton], .one ht⟩
      | cons hs' hall' =>
          obtain ⟨vs, hv, hi⟩ := ih
          refine ⟨us ++ .comma :: vs, ?_, .more ht hi⟩
          rw [String.intercalate_cons_cons, String.toList_append, String.toList_append,
            List.append_assoc]
          have hcomma : ", ".toList = [',', ' '] := rfl
          rw [hcomma, List.cons_append, List.cons_append, List.nil_append,
            Sign.all?_append hu (Sign.detached_cons (by decide) _),
            Sign.all?_mark rfl (by decide), Sign.all?_gap rfl, hv]
          rfl

theorem written_list {texts : List String} {ts : List Term}
    (h : List.Forall₂ (Written loosest) texts ts) :
    Written 0 ("[" ++ String.intercalate ", " texts ++ "]") (.list ts) := by
  obtain ⟨ss, hs, hi⟩ := items_of_forall h
  refine ⟨.bracketOpen :: (ss ++ [.bracketClose]), ?_, .list hi⟩
  have htext : ("[" ++ String.intercalate ", " texts ++ "]").toList =
      '[' :: ((String.intercalate ", " texts).toList ++ [']']) := by simp
  rw [htext]
  exact all?_bracketed rfl (by decide) rfl (by decide) (by decide) hs

theorem written_call {w : String} (hw : Sign.isWordText w = true) {texts : List String}
    {ts : List Term} (h : List.Forall₂ (Written loosest) texts ts) :
    Written 0 (w ++ "(" ++ String.intercalate ", " texts ++ ")") (.call w ts) := by
  obtain ⟨ss, hs, hi⟩ := items_of_forall h
  refine ⟨.word w :: .parenOpen :: (ss ++ [.parenClose]), ?_, .call w hi⟩
  have htext : (w ++ "(" ++ String.intercalate ", " texts ++ ")").toList =
      w.toList ++ '(' :: ((String.intercalate ", " texts).toList ++ [')']) := by simp
  rw [htext, Sign.all?_append (Sign.all?_word hw) (Sign.detached_cons (by decide) _),
    all?_bracketed rfl (by decide) rfl (by decide) (by decide) hs]
  rfl

end VaultQuery.Term
