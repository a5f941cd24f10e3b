import VaultQuery.Proofs.Expr.Part
import VaultQuery.Proofs.Term.Trailing

/-!
The days before and after today.  A base has no word for them; a call of `date` with one of them
becomes the sum of the present moment and a day, and it is written without parentheses wherever it
stands.  So it is an operand of a comparison, but not of a sum or a product, and a property after it
is one of the text of the day: `relative_date_is_split` says how each of these is read.
-/

namespace VaultQuery.Expr

open Term (moved movedText Written)

/-- The days beside today, and what is added to the present moment for them. -/
def otherDays : List (String × String) :=
  [("tomorrow", "1 day"), ("yesterday", "-1 day")]

/-- A call of `date` with the name or the text of a day beside today, in any case, and what is added
for it. -/
inductive OtherDay : Expr → String → Prop where
  | name {function day amount : String} : Text.lowerCase function = "date" →
      (Text.lowerCase day, amount) ∈ otherDays → OtherDay (.call function [.var day]) amount
  | text {function day amount : String} : Text.lowerCase function = "date" →
      (Text.lowerCase day, amount) ∈ otherDays →
      OtherDay (.call function [.literal (.text day)]) amount

theorem amount_cases {day amount : String} (h : (day, amount) ∈ otherDays) :
    (day = "tomorrow" ∧ amount = "1 day") ∨ (day = "yesterday" ∧ amount = "-1 day") := by
  simpa [otherDays] using h

theorem lookup_otherDays {day amount : String} (h : (day, amount) ∈ otherDays) :
    Vocabulary.relativeDates.lookup day = some (movedText "now" amount) := by
  rcases amount_cases h with ⟨rfl, rfl⟩ | ⟨rfl, rfl⟩ <;> decide

/-- A day beside today is a call with a text of its own. -/
theorem OtherDay.specialCall? {r : Expr} {amount : String} (h : OtherDay r amount) :
    ∃ function args, r = .call function args ∧ r.duration? = .ok none ∧
      Expr.specialCall? function args = .ok (some (movedText "now" amount)) := by
  cases h with
  | name hname hday =>
      refine ⟨_, _, rfl, rfl, ?_⟩
      unfold Expr.specialCall?
      simp [hname, lookup_otherDays hday]
  | text hname hday =>
      refine ⟨_, _, rfl, ?_, ?_⟩
      · simp [duration?, hname]
      · unfold Expr.specialCall?
        simp [hname, lookup_otherDays hday]

/-- What stands between the quotes of such an amount, and the closing quote, are no signs. -/
theorem open_amount {day amount : String} (h : (day, amount) ∈ otherDays) :
    Sign.all? (amount.toList.flatMap Vocabulary.quotedChar ++ ['\x22']) = none := by
  rcases amount_cases h with ⟨-, rfl⟩ | ⟨-, rfl⟩ <;> rfl

/-- The renaming of properties writes a low line for the dash of an amount. -/
theorem property_moved {day amount key : String} (h : (day, amount) ∈ otherDays)
    (hkey : Vocabulary.isIdentifier key = true) :
    Vocabulary.property (movedText "now" amount ++ "." ++ key) =
      movedText "now" (Vocabulary.underscored amount) ++ "." ++ Vocabulary.underscored key := by
  have hobject : Vocabulary.underscored (Vocabulary.unindented (movedText "now" amount)) =
      movedText "now" (Vocabulary.underscored amount) := by
    rcases amount_cases h with ⟨-, rfl⟩ | ⟨-, rfl⟩ <;> decide
  have hfile : movedText "now" (Vocabulary.underscored amount) ≠ "file" := by
    rcases amount_cases h with ⟨-, rfl⟩ | ⟨-, rfl⟩ <;> decide
  rw [Vocabulary.property_part _ hkey, hobject, Vocabulary.access, Vocabulary.partName_of_ne hfile]

section OtherDay

variable {r : Expr} {amount : String} (h : OtherDay r amount)

include h

theorem OtherDay.mem : ∃ day, (day, amount) ∈ otherDays := by
  cases h with
  | name _ hday => exact ⟨_, hday⟩
  | text _ hday => exact ⟨_, hday⟩

theorem OtherDay.lower_eq_ok_iff {limit depth : Nat} {place : Place} {c : Condition} :
    lower limit place depth r = .ok c ↔
      depth + 1 ≤ limit ∧ c = .leaf (movedText "now" amount) := by
  obtain ⟨function, args, rfl, -, hspecial⟩ := h.specialCall?
  have hstart : start place depth (.call function args) = depth + 1 :=
    start_of_not_continues (by cases place <;> rfl)
  constructor
  · intro hlower
    have hroom := room_of_lower hlower (by cases place <;> rfl)
    rw [hstart] at hroom
    refine ⟨Nat.le_of_add_right_le hroom, ?_⟩
    rcases of_lower_call hlower with ⟨text, htext, rfl⟩ | ⟨texts, hnone, -⟩
    · obtain rfl := Option.some.inj (Except.ok.inj (hspecial.symm.trans htext))
      rfl
    · cases hspecial.symm.trans hnone
  · rintro ⟨hroom, rfl⟩
    refine lower_of_lowerNode (by rwa [hstart]) ?_
    rw [lowerNode, hspecial]
    rfl

/-- Beside an operator the sum stands without parentheses. -/
theorem OtherDay.baseText_binary_iff {op : BinOp} (hop : op.isLogical = false) {l : Expr}
    {limit depth : Nat} {s : String} :
    (Expr.binary op l r).baseText limit depth = .ok s ↔ depth + 2 ≤ limit ∧
      ∃ value, lower limit (.chain op.precedence) (depth + 1) l = .ok value ∧
        s = leftText op.precedence l value ++ " " ++ op.baseSymbol ++ " " ++
          movedText "now" amount := by
  obtain ⟨function, args, rfl, hduration, -⟩ := h.specialCall?
  rw [baseText, map_eq_ok]
  constructor
  · rintro ⟨c, hc, rfl⟩
    obtain ⟨value, rightValue, hvalue, hright, rfl⟩ := of_lower_operation hop hduration hc
    rw [start_alone] at hvalue hright
    obtain ⟨hroom, rfl⟩ := h.lower_eq_ok_iff.mp hright
    exact ⟨hroom, value, hvalue, rfl⟩
  · rintro ⟨hroom, value, hvalue, rfl⟩
    refine ⟨.leaf _, lower_of_lowerNode (by rw [start_alone]; omega) ?_, rfl⟩
    rw [start_alone, lowerNode, if_neg (by simp [hop]), hvalue, shift?_eq_none hduration]
    show operation limit (depth + 1) op l (.call function args) value none = _
    rw [operation, h.lower_eq_ok_iff.mpr ⟨hroom, rfl⟩]
    rfl

/-- A property after the sum is put to the quoted text at its end. -/
theorem OtherDay.baseText_part_iff {key : String} (hkey : Vocabulary.isIdentifier key = true)
    (hdate : Vocabulary.dateParts.contains (Text.lowerCase key) = false) {limit depth : Nat}
    {s : String} :
    (Expr.index r (.literal (.text key))).baseText limit depth = .ok s ↔ depth + 2 ≤ limit ∧
      s = movedText "now" (Vocabulary.underscored amount) ++ "." ++ Vocabulary.underscored key := by
  obtain ⟨function, args, rfl, -⟩ := h.specialCall?
  obtain ⟨day, hday⟩ := h.mem
  have hpart : ∀ bare, partText (movedText "now" amount) bare key =
      movedText "now" (Vocabulary.underscored amount) ++ "." ++ Vocabulary.underscored key := by
    intro bare
    rw [partText_of_isIdentifier hkey hdate, property_moved hday hkey]
  rw [baseText, map_eq_ok]
  constructor
  · rintro ⟨c, hc, rfl⟩
    obtain ⟨raw, hraw, rfl⟩ := of_lower_part hc
    rw [start_alone] at hraw
    obtain ⟨hroom, rfl⟩ := h.lower_eq_ok_iff.mp hraw
    exact ⟨hroom, hpart _⟩
  · rintro ⟨hroom, rfl⟩
    refine ⟨.leaf _, lower_of_lowerNode (by rw [start_alone]; omega) ?_, hpart (movedText "now" amount)⟩
    rw [start_alone, lowerNode, h.lower_eq_ok_iff.mpr ⟨hroom, rfl⟩]
    rfl

end OtherDay

/-! ## How the texts are read -/

section Operation

variable {op : BinOp} (hop : BinOp.standard.contains op = true) (hlogical : op.isLogical = false)

include hop hlogical

/-- The comparisons are the operators that are looser than sums. -/
theorem isComparison_iff : op.isComparison = true ↔ 3 ≤ 6 - op.precedence := by
  cases op with
  | other symbol => simp [BinOp.standard] at hop
  | and => cases hlogical
  | or => cases hlogical
  | _ => decide

/-- Only a comparison has the sum as an operand. -/
theorem OtherDay.read?_iff {r : Expr} {amount : String} (h : OtherDay r amount) {left : String}
    {t : Term} :
    Term.read? (left ++ " " ++ op.baseSymbol ++ " " ++ movedText "now" amount) =
        some (.binary op.baseSymbol t (moved "now" amount)) ↔
      op.isComparison = true ∧ Written (7 - op.precedence) left t := by
  obtain ⟨day, hday⟩ := h.mem
  have hprec := precedence_of_standard hop
  have hrank : 7 - op.precedence = 6 - op.precedence + 1 := by omega
  have hle : 6 - op.precedence + 1 ≤ Term.loosest := by
    rw [Term.loosest]
    omega
  rw [isComparison_iff hop hlogical, hrank]
  exact Term.read?_moved_iff (by decide) (open_amount hday) (rank?_baseSymbol hop) hle

/-- Any other operator takes the present moment alone. -/
theorem read?_of_not_isComparison (hcomparison : op.isComparison = false) {left : String} {t : Term}
    (h : Written (7 - op.precedence) left t) (amount : String) :
    Term.read? (left ++ " " ++ op.baseSymbol ++ " " ++ movedText "now" amount) =
      some (.binary "+" (.binary op.baseSymbol t (.call "now" [])) (.text amount)) := by
  have hprec := precedence_of_standard hop
  have hrank : 7 - op.precedence = 6 - op.precedence + 1 := by omega
  have htight : 6 - op.precedence + 1 ≤ 3 := by
    have hnot := mt (isComparison_iff hop hlogical).mpr (by simp [hcomparison])
    omega
  rw [hrank] at h
  rw [Term.read?_eq_some_iff]
  exact (h.before_moved (by decide) (rank?_baseSymbol hop) htight).mono (by decide)

end Operation

/-- A day beside today is a sum without parentheses.  On the right of an operator it is read as an
operand exactly if the operator is a comparison; any other operator takes the present moment alone,
and the day is added to what comes out.  A property after it is one of the text of the day. -/
theorem relative_date_is_split {op : BinOp} (hop : BinOp.standard.contains op = true)
    (hlogical : op.isLogical = false) {r : Expr} {amount : String} (hr : OtherDay r amount)
    (l : Expr) (limit depth : Nat) :
    ((∃ s, (Expr.binary op l r).baseText limit depth = .ok s) ↔ depth + 2 ≤ limit ∧
      ∃ value, lower limit (.chain op.precedence) (depth + 1) l = .ok value) ∧
    (∀ s, (Expr.binary op l r).baseText limit depth = .ok s →
      ∃ value left, l.condition limit depth = .ok value ∧ left = leftText op.precedence l value ∧
        s = left ++ " " ++ op.baseSymbol ++ " " ++ movedText "now" amount ∧
        (∀ t, Term.read? s = some (.binary op.baseSymbol t (moved "now" amount)) ↔
          op.isComparison = true ∧ Written (7 - op.precedence) left t) ∧
        (∀ t, op.isComparison = false → Written (7 - op.precedence) left t →
          Term.read? s =
            some (.binary "+" (.binary op.baseSymbol t (.call "now" [])) (.text amount))) ∧
        (l.isPlain = true → ∃ t, Written (7 - op.precedence) left t ∧
          t.regrouped = (l.term Vocabulary.callName).regrouped)) ∧
    ∀ key, Vocabulary.isIdentifier key = true →
      Vocabulary.dateParts.contains (Text.lowerCase key) = false →
      ∀ s, (Expr.index r (.literal (.text key))).baseText limit depth = .ok s ↔
        depth + 2 ≤ limit ∧
        s = movedText "now" (Vocabulary.underscored amount) ++ "." ++ Vocabulary.underscored key ∧
        Term.read? s = some (.binary "+" (.call "now" [])
          (.member (.text (Vocabulary.underscored amount)) (Vocabulary.underscored key))) := by
  refine ⟨?_, ?_, ?_⟩
  · simp only [hr.baseText_binary_iff hlogical]
    constructor
    · rintro ⟨s, hroom, value, hvalue, -⟩
      exact ⟨hroom, value, hvalue⟩
    · rintro ⟨hroom, value, hvalue⟩
      exact ⟨_, hroom, value, hvalue, rfl⟩
  · intro s hs
    obtain ⟨hroom, value, hvalue, rfl⟩ := (hr.baseText_binary_iff hlogical).mp hs
    refine ⟨value, _, condition_of_lower not_isLogical_of_chain (by omega) hvalue, rfl, rfl,
      fun t => hr.read?_iff hop hlogical, fun t hcomparison ht =>
        read?_of_not_isComparison hop hlogical hcomparison ht amount, fun hplain => ?_⟩
    exact leftText_shows hplain (lower_renders l hplain hvalue) (precedence_of_standard hop).2
  · intro key hkey hdate s
    have hread := @Term.written_part_of_moved "now" (Vocabulary.underscored amount) (by decide) _
      (Vocabulary.isWordText_underscored hkey)
    rw [hr.baseText_part_iff hkey hdate]
    refine and_congr_right fun _ => ⟨fun hs => ⟨hs, ?_⟩, And.left⟩
    rw [hs, Term.read?_eq_some_iff]
    exact hread.mono (by decide)

/-- The difference `a - date(tomorrow)`. -/
def untilTomorrow : Expr :=
  .binary .sub (.var "a") (.call "date" [.var "tomorrow"])

/-- The difference is taken to the present moment, and a day is added to it. -/
theorem relative_date_is_split_untilTomorrow :
    OtherDay (.call "date" [.var "tomorrow"]) "1 day" ∧
      untilTomorrow.baseText 10 0 = .ok "a - now() + \"1 day\"" ∧
      Term.read? "a - now() + \"1 day\"" =
        some (.binary "+" (.binary "-" (.name "a") (.call "now" [])) (.text "1 day")) ∧
      ∀ t, Term.read? "a - now() + \"1 day\"" ≠ some (.binary "-" t (moved "now" "1 day")) := by
  have hday : OtherDay (.call "date" [.var "tomorrow"]) "1 day" := .name rfl (.head _)
  have htext : untilTomorrow.baseText 10 0 = .ok "a - now() + \"1 day\"" := rfl
  have h := @relative_date_is_split .sub rfl rfl _ _ hday (.var "a") 10 0
  obtain ⟨value, left, hvalue, rfl, -, hread, hsplit, -⟩ := h.2.1 _ htext
  obtain rfl : Filter.leaf "a" = value := Except.ok.inj hvalue
  have ha : Written 3 "a" (.name "a") := (Term.written_word rfl).mono (Nat.zero_le 3)
  refine ⟨hday, htext, hsplit _ rfl ha, fun t ht => ?_⟩
  cases ((hread t).mp ht).1

end VaultQuery.Expr
