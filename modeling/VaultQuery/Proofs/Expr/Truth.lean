import VaultQuery.Proofs.Expr.Lower
import VaultQuery.Proofs.Filter

/-!
The truth of an expression and of its condition.  `Expr.truth?` follows negations, and the
conjunctions and disjunctions that are predicates; what is below them is one text each.  The
condition of an expression has the same truth value (`lower_truth`), whatever groups its members
were merged into.
-/

namespace VaultQuery.Expr

/-! ## Truth -/

/-- The truth value of the text of an expression, if it is one text. -/
def textTruth? (limit : Nat) (v : String → Bool) (e : Expr) : Option Bool :=
  match e.condition limit 0 with
  | .ok (.leaf text) => some (v text)
  | _ => none

/-- The truth value of an expression, where `v` gives the truth values of texts. -/
def truth? (limit : Nat) (v : String → Bool) : Expr → Option Bool
  | .negated child => (truth? limit v child).map (!·)
  | .binary op left right =>
    if op.isLogical && isPredicate (.binary op left right) then
      (truth? limit v left).bind fun a =>
        (truth? limit v right).map fun b => (connective op).pair a b
    else textTruth? limit v (.binary op left right)
  | e => textTruth? limit v e

/-! ## Groups -/

theorem connective_ne_not (op : BinOp) : connective op ≠ .not := by
  cases op <;> simp [connective]

/-- Only predicates become groups. -/
theorem isPredicate_of_lower {limit : Nat} (e : Expr) {place : Place} {depth : Nat} {c : Condition}
    (h : lower limit place depth e = .ok c) (hc : c.isGroup = true) : e.isPredicate = true := by
  match e with
  | .negated child => rfl
  | .binary op left right =>
      cases hop : op.isLogical with
      | false =>
          obtain ⟨text, rfl⟩ := leaf_of_lower (e := .binary op left right) rfl hop h
          cases hc
      | true =>
          obtain ⟨value, rightValue, hv, hw, rfl⟩ := of_lower_logical hop h
          unfold logicalPair at hc
          split at hc
          case isFalse => cases hc
          case isTrue hgroup =>
              simp only [Bool.or_eq_true] at hgroup
              rcases hgroup with (hpred | hleft) | hright
              · exact hpred
              · simp [isPredicate, hop, isPredicate_of_lower left hv hleft]
              · simp [isPredicate, hop, isPredicate_of_lower right hw hright]
  | .var _ | .literal _ | .index _ _ | .call _ _ | .list _ | .foreign _ =>
      obtain ⟨text, rfl⟩ := leaf_of_lower rfl rfl h
      cases hc

theorem holds_member {v : String → Bool} (hparen : ∀ text, v ("(" ++ text ++ ")") = v text)
    (e : Expr) (value : Condition) :
    Condition.holds v (member e value) = Condition.holds v value := by
  cases value with
  | group c members => rfl
  | leaf text =>
      simp only [member]
      split
      case isTrue => exact hparen text
      case isFalse => rfl

theorem isFull_member (e : Expr) {value : Condition} (h : value.isFull = true) :
    (member e value).isFull = true := by
  cases value with
  | group c members => exact h
  | leaf text =>
      simp only [member]
      split <;> rfl

theorem isFull_of_lower {limit : Nat} (e : Expr) {place : Place} {depth : Nat} {c : Condition}
    (h : lower limit place depth e = .ok c) : c.isFull = true := by
  match e with
  | .negated child =>
      obtain ⟨value, -, rfl⟩ := of_lower_negated h
      rfl
  | .binary op left right =>
      cases hop : op.isLogical with
      | false =>
          obtain ⟨text, rfl⟩ := leaf_of_lower (e := .binary op left right) rfl hop h
          rfl
      | true =>
          obtain ⟨value, rightValue, hv, -, rfl⟩ := of_lower_logical hop h
          unfold logicalPair
          split
          case isFalse => rfl
          case isTrue => exact Filter.isFull_join _ (isFull_member left (isFull_of_lower left hv)) _
  | .var _ | .literal _ | .index _ _ | .call _ _ | .list _ | .foreign _ =>
      obtain ⟨text, rfl⟩ := leaf_of_lower rfl rfl h
      rfl

/-! ## Expressions -/

/-- An expression that is one text has that text by itself too. -/
theorem textTruth?_of_lower {limit : Nat} {v : String → Bool} {e : Expr} {place : Place}
    {depth : Nat} {text : String} (h : lower limit place depth e = .ok (.leaf text))
    (hstart : 1 ≤ start place depth e) (hroom : 1 + e.operatorChanges ≤ limit) :
    textTruth? limit v e = some (v text) := by
  have halone : e.condition limit 0 = .ok (.leaf text) :=
    lower_mono e h (by rwa [start_alone]) (by rwa [start_alone])
  rw [textTruth?, halone]

/-- The condition of an expression is as true as the expression. -/
theorem lower_truth {v : String → Bool} (hparen : ∀ text, v ("(" ++ text ++ ")") = v text)
    {limit : Nat} (e : Expr) {place : Place} {depth : Nat} {c : Condition}
    (h : lower limit place depth e = .ok c) (hstart : 1 ≤ start place depth e)
    (hroom : 1 + e.operatorChanges ≤ limit) :
    truth? limit v e = some (c.holds v) := by
  match e with
  | .negated child =>
      obtain ⟨value, hv, rfl⟩ := of_lower_negated h
      have hchild := room_of_lower hv (by cases child <;> rfl)
      rw [start_alone] at hchild
      rw [truth?, lower_truth hparen child hv (by rw [start_alone]; omega) (by omega)]
      simp [Condition.holds, Condition.holdsEach, Connective.value]
  | .binary op left right =>
      cases hpred : op.isLogical && isPredicate (.binary op left right) with
      | true =>
          obtain ⟨hop, hpredicate⟩ := Bool.and_eq_true_iff.mp hpred
          obtain ⟨value, rightValue, hv, hw, rfl⟩ := of_lower_logical hop h
          -- A left operand that continues the chain is covered by the check of the whole chain.
          have hchain := operatorChanges_left_le hop left right
          have hdepth := le_start .logical (start place depth (.binary op left right)) left
          have hleftRoom : 1 + left.operatorChanges ≤ limit := by
            have hchild := room_of_child hv hstart fun _ => by omega
            have hle := le_start .logical 1 left
            omega
          have hrightRoom := room_of_lower hw (by cases right <;> rfl)
          rw [start_alone] at hrightRoom
          have hleft := lower_truth hparen left hv (by omega) hleftRoom
          have hright := lower_truth hparen right hw (by rw [start_alone]; omega) (by omega)
          have hgroup : logicalPair op left right value rightValue =
              (member left value).join (connective op) (member right rightValue) := by
            simp only [logicalPair, hpredicate, Bool.true_or, if_true]
          rw [truth?, if_pos hpred, hleft, hright, hgroup,
            Condition.holds_join v (connective_ne_not op), holds_member hparen,
            holds_member hparen]
          rfl
      | false =>
          rw [truth?, hpred]
          cases hop : op.isLogical with
          | false =>
              obtain ⟨text, rfl⟩ := leaf_of_lower (e := .binary op left right) rfl hop h
              exact textTruth?_of_lower h hstart hroom
          | true =>
              rw [hop, Bool.true_and] at hpred
              cases c with
              | leaf text => exact textTruth?_of_lower h hstart hroom
              | group k members =>
                  exact absurd (isPredicate_of_lower _ h rfl) (by simp [hpred])
  | .var _ | .literal _ | .index _ _ | .call _ _ | .list _ | .foreign _ =>
      obtain ⟨text, rfl⟩ := leaf_of_lower rfl rfl h
      exact textTruth?_of_lower h hstart hroom

end VaultQuery.Expr
