import VaultQuery.Proofs.Number
import VaultQuery.Proofs.Token.Weave

/-!
The shape of numbers and names among the tokens, and the numerals that tokens spell.
-/

namespace VaultQuery.Token

/-- A token that some lexeme is. -/
def Lexed (t : Token) : Prop :=
  ∃ before c cs n, lexeme before c cs = .ok (.token t.kind t.text n)

theorem pairOperator?_cases {c d : Char} {kind : Kind} (h : pairOperator? c d = some kind) :
    kind = .ne ∨ kind = .le ∨ kind = .ge := by
  unfold pairOperator? at h
  repeat' split at h
  all_goals cases h
  all_goals simp

/-- Numbers and names are cut off by their first character. -/
theorem Lexes.number_or_name {before : Option Kind} {c : Char} {cs : List Char}
    {r : Except Complaint Lexeme} (h : Lexes before c cs r) {kind : Kind} {text : String} {n : Nat}
    (hr : r = .ok (.token kind text n)) (hk : kind = .number ∨ kind = .identifier) :
    kind = .number ∧ Text.isDigit c = true ∧
        text = String.ofList ((c :: cs).take (numberLength (c :: cs))) ∨
      kind = .identifier ∧ Text.isWordStart c = true ∧
        text = String.ofList ((c :: cs).take (identifierTail cs + 1)) := by
  cases h with
  | number hd hm =>
      cases hr
      exact .inl ⟨rfl, hd, rfl⟩
  | word hw =>
      rcases word_cases before (c :: cs) (identifierTail cs + 1) with
        ⟨kind, hk', hword⟩ | ⟨kind, hk', hword⟩ | ⟨kind, first, second, n, hp, hn, hword⟩
      · cases hword.symm.trans (Except.ok.inj hr)
        rcases hk' with rfl | rfl
        · exact .inr ⟨rfl, hw, rfl⟩
        · simp at hk
      · cases hword.symm.trans (Except.ok.inj hr)
        rcases hk with rfl | rfl <;> cases hk'
      · cases hword.symm.trans (Except.ok.inj hr)
        cases hp <;> simp at hk
  | pair hp =>
      cases hr
      rcases pairOperator?_cases hp with rfl | rfl | rfl <;> simp at hk
  | single ho _ _ =>
      cases hr
      unfold operator? at ho
      split at ho <;> cases ho <;> simp at hk
  | mark hm _ =>
      cases hr
      unfold punctuation? at hm
      split at hm <;> cases hm <;> simp at hk
  | _ => cases hr <;> simp at hk

theorem take_numberLength {c : Char} (hc : Text.isDigit c = true) (cs : List Char) :
    ∃ ds fs, (∀ d ∈ ds, Text.isDigit d = true) ∧ ds ≠ [] ∧ (∀ d ∈ fs, Text.isDigit d = true) ∧
      (c :: cs).take (numberLength (c :: cs)) = Numeral.plain false ds fs := by
  obtain ⟨rest, hrest⟩ := List.takeWhile_prefix (p := Text.isDigit) (l := c :: cs)
  have hds : ∀ d ∈ (c :: cs).takeWhile Text.isDigit, Text.isDigit d = true :=
    fun d hd => List.mem_takeWhile_imp hd
  have hne : (c :: cs).takeWhile Text.isDigit ≠ [] := by simp [hc]
  rw [numberLength]
  generalize (c :: cs).takeWhile Text.isDigit = ds at hrest hds hne ⊢
  rw [← hrest, List.drop_left]
  refine ⟨ds, Numeral.fraction rest, hds, hne, Numeral.isDigit_of_mem_fraction, ?_⟩
  dsimp only
  split
  case h_1 tail =>
      have hfs : Numeral.fraction ('.' :: tail) = tail.takeWhile Text.isDigit := rfl
      rw [hfs]
      split
      case isTrue hnone =>
          rw [List.take_left, List.length_eq_zero_iff.mp hnone]
          simp [Numeral.plain]
      case isFalse hsome =>
          have hnot : (tail.takeWhile Text.isDigit).isEmpty = false := by
            simpa using fun h => hsome (List.length_eq_zero_iff.mpr h)
          have htake := List.prefix_iff_eq_take.mp
            (List.takeWhile_prefix (p := Text.isDigit) (l := tail))
          rw [Nat.add_assoc, List.take_length_add_append, Nat.add_comm 1, List.take_succ_cons,
            ← htake, Numeral.plain, hnot]
          simp
  case h_2 hnot =>
      have hfs : Numeral.fraction rest = [] := by
        unfold Numeral.fraction
        split
        case h_1 tail => exact absurd rfl (hnot tail)
        case h_2 => rfl
      rw [hfs, List.take_left]
      simp [Numeral.plain]

/-- The number of digits of the integer that a token spells: a number without a point, or the amount
of the duration in the text of another token. -/
def integerDigits (t : Token) : Nat :=
  if t.kind = .number then Numeral.integerDigits t.text.toList
  else ((Duration.spelled? t.text).map fun x => Numeral.integerDigits x.1.toList).getD 0

/-- A number among the tokens is read, as a number of no more digits than it has, or has too many of
them. -/
theorem Lexed.read_number {t : Token} (h : t.Lexed) (hk : t.kind = .number) :
    (∃ k, Numeral.read t.text = .ok k ∧ k.Within t.integerDigits) ∨
      digitLimit < t.integerDigits ∧
        Numeral.read t.text = .error (.tooManyDigits t.integerDigits) := by
  obtain ⟨before, c, cs, n, hlex⟩ := h
  have hshape := (lexeme_lexes before c cs).number_or_name hlex (.inl hk)
  rcases hshape with ⟨-, hc, htext⟩ | ⟨hname, -, -⟩
  · obtain ⟨ds, fs, hds, hne, hfs, htake⟩ := take_numberLength hc cs
    rw [integerDigits, if_pos hk, htext, htake, String.toList_ofList]
    exact Numeral.read_plain false hds hne hfs
  · rw [hk] at hname
    cases hname

theorem Lexed.exists_wordStart {t : Token} (h : t.Lexed) (hk : t.kind = .identifier) :
    ∃ c ∈ t.text.toList, Text.isWordStart c = true := by
  obtain ⟨before, c, cs, n, hlex⟩ := h
  rcases (lexeme_lexes before c cs).number_or_name hlex (.inr hk) with ⟨hn, -, -⟩ | ⟨-, hc, htext⟩
  · rw [hk] at hn
    cases hn
  · exact ⟨c, by simp [htext], hc⟩

end VaultQuery.Token
