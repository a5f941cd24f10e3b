import VaultQuery.Proofs.Expr.Truth
import VaultQuery.Proofs.Expr.Visit

/-!
The plain lowering of an expression: every node is made from the conditions of its children, with no
count of the depth and no regard to chains and paths.  The walk has the result of the plain
lowering, or it stops where a visit does not fit the limit (`bounded_lower`); so it succeeds exactly
if the plain lowering does and every visit fits (`condition_eq_ok_iff`).
-/

namespace VaultQuery

/-! ## Walks that a limit may stop -/

section Bounded

variable {ν α β : Type} {changes : ν → Nat} {limit : Nat} {visits visits' : List (Nat × ν)}

/-- `Bounded changes limit visits x y`: the walk with the result `x` would have the result `y`
without a limit; it has it, or it stops at a visit that is too deep, or at one whose chain changes
too often. -/
inductive Bounded (changes : ν → Nat) (limit : Nat) (visits : List (Nat × ν)) :
    Except Fault α → Except Fault α → Prop
  | within (x : Except Fault α) : Bounded changes limit visits x x
  | tooDeep {v : Nat × ν} (y : Except Fault α) : v ∈ visits → limit < v.1 →
      Bounded changes limit visits (.error (.obstacle (.tooDeep limit))) y
  | chainTooDeep {v : Nat × ν} (y : Except Fault α) : v ∈ visits → limit < v.1 + changes v.2 →
      Bounded changes limit visits (.error (.obstacle (.chainTooDeep limit))) y

theorem Bounded.mono {x y : Except Fault α} (h : Bounded changes limit visits x y)
    (hle : ∀ v ∈ visits, v ∈ visits') : Bounded changes limit visits' x y := by
  cases h with
  | within => exact .within _
  | tooDeep y hv hlt => exact .tooDeep y (hle _ hv) hlt
  | chainTooDeep y hv hlt => exact .chainTooDeep y (hle _ hv) hlt

theorem Bounded.bind {x y : Except Fault α} {f g : α → Except Fault β}
    (h : Bounded changes limit visits x y)
    (hf : ∀ a, x = .ok a → Bounded changes limit visits (f a) (g a)) :
    Bounded changes limit visits (x >>= f) (y >>= g) := by
  cases h with
  | tooDeep y hv hlt => exact .tooDeep _ hv hlt
  | chainTooDeep y hv hlt => exact .chainTooDeep _ hv hlt
  | within =>
      cases x with
      | ok a => exact hf a rfl
      | error f => exact .within _

theorem Bounded.eq_ok {a : α} {y : Except Fault α} (h : Bounded changes limit visits (.ok a) y) :
    y = .ok a := by
  cases h with
  | within => rfl

/-- A walk whose visits all fit has the result that it has without a limit. -/
theorem Bounded.eq {x y : Except Fault α} (h : Bounded changes limit visits x y)
    (hfits : ∀ v ∈ visits, v.1 + changes v.2 ≤ limit) : x = y := by
  cases h with
  | within => rfl
  | tooDeep y hv hlt => exact absurd (hfits _ hv) (by omega)
  | chainTooDeep y hv hlt => exact absurd (hfits _ hv) (by omega)

/-- One level further down, for a node that is visited there. -/
theorem Bounded.descend {depth : Nat} {n : ν} {f : Nat → Except Fault α} {y : Except Fault α}
    (hv : (depth + 1, n) ∈ visits) (h : Bounded changes limit visits (f (depth + 1)) y) :
    Bounded changes limit visits (descend limit depth >>= f) y := by
  rw [VaultQuery.descend]
  split
  case isTrue => exact h
  case isFalse hlt => exact .tooDeep y hv (Nat.lt_of_not_le hlt)

theorem exists_limit (changes : ν → Nat) (visits : List (Nat × ν)) :
    ∃ limit, ∀ v ∈ visits, v.1 + changes v.2 ≤ limit := by
  induction visits with
  | nil => exact ⟨0, nofun⟩
  | cons v visits ih =>
      obtain ⟨limit, hlimit⟩ := ih
      refine ⟨max limit (v.1 + changes v.2), fun w hw => ?_⟩
      rcases List.mem_cons.mp hw with rfl | hw
      · exact Nat.le_max_right _ _
      · exact Nat.le_trans (hlimit w hw) (Nat.le_max_left _ _)

end Bounded

namespace Expr

/-! ## The plain lowering -/

mutual

/-- The condition of an expression, made from those of its parts. -/
def plain : Expr → Except Fault Condition
  | .var name => .ok (.leaf (Vocabulary.property name))
  | .literal value => do
    let text ← literalText value
    return .leaf text
  | .index object key => do
    let raw ← plain object
    let value := operand object raw partPrecedence false
    match key with
    | .literal (.text name) => return .leaf (partText value raw.inline name)
    | _ => do
      let inside ← plain key
      return .leaf (value ++ "[" ++ inside.inline ++ "]")
  | .binary op left right => do
    let value ← plain left
    let text := operand left value op.precedence false
    if op.isLogical then
      let rightValue ← plain right
      if left.isPredicate || right.isPredicate then
        return (member left value).join (connective op) (member right rightValue)
      else
        return .leaf (text ++ " " ++ op.baseSymbol ++ " " ++
          operand right rightValue op.precedence true)
    else
      match ← shift? op left right with
      | some amount =>
        let moved ← (if op = .sub then amount.neg else amount).write.mapError .numeral
        return .leaf (text ++ " + \"" ++ moved ++ "\"")
      | none =>
        let rightValue ← plain right
        return .leaf (text ++ " " ++ op.baseSymbol ++ " " ++
          operand right rightValue op.precedence true)
  | .call name args => do
    match ← specialCall? name args with
    | some text => return .leaf text
    | none =>
      let texts ← plainAll args
      return .leaf (callText name texts)
  | .negated child => do
    let value ← plain child
    return .group .not [value]
  | .list items => do
    let texts ← plainAll items
    return .leaf ("[" ++ String.intercalate ", " texts ++ "]")
  | .foreign node => .error (.obstacle (.foreignField node.label))

/-- The texts of several expressions, made from their conditions. -/
def plainAll : List Expr → Except Fault (List String)
  | [] => .ok []
  | e :: es => do
    let value ← plain e
    let texts ← plainAll es
    return value.inline :: texts

end

theorem plain_element {object key : Expr} (hkey : ∀ name, key ≠ .literal (.text name)) :
    plain (.index object key) = (do
      let raw ← plain object
      let inside ← plain key
      return .leaf (operand object raw partPrecedence false ++ "[" ++ inside.inline ++ "]")) := by
  rw [plain]
  refine bind_congr fun raw => ?_
  split
  case h_1 name => exact absurd rfl (hkey name)
  case h_2 => rfl

/-! ## Links of a chain -/

section Links

variable {limit depth : Nat} {place : Place} {value rightValue : Condition}

/-- What continues a chain needs no parentheses as the left operand of its next link. -/
theorem leftText_of_lower {p : Nat} {left : Expr} (h : lower limit place depth left = .ok value) :
    leftText p left value = operand left value p false := by
  rw [leftText]
  split
  case isFalse => rfl
  case isTrue hc =>
      obtain ⟨text, rfl⟩ := leaf_of_lower
        (by cases left <;> first | rfl | cases hc) (not_isLogical_of_chain hc) h
      cases left with
      | binary op l r =>
          have hp : op.precedence = p := by simpa [continues] using (Bool.and_eq_true_iff.mp hc).2
          simp [operand, Condition.inline, hp]
      | _ => cases hc

/-- A path needs no parentheses before its next part. -/
theorem objectText_of_lower {object : Expr} (h : lower limit place depth object = .ok value) :
    objectText object value = operand object value partPrecedence false := by
  cases object with
  | index o k =>
      obtain ⟨text, rfl⟩ := leaf_of_lower rfl rfl h
      rfl
  | _ => rfl

/-- The groups among the operands need not be asked for: a group is a predicate. -/
theorem logicalPair_of_lower {op : BinOp} (hop : op.isLogical = true) {left right : Expr}
    {place' : Place} {depth' : Nat} (hleft : lower limit place depth left = .ok value)
    (hright : lower limit place' depth' right = .ok rightValue) :
    logicalPair op left right value rightValue =
      if left.isPredicate || right.isPredicate then
        (member left value).join (connective op) (member right rightValue)
      else .leaf (operand left value op.precedence false ++ " " ++ op.baseSymbol ++ " " ++
        operand right rightValue op.precedence true) := by
  have hcomparison : op.isComparison = false := by cases op <;> first | rfl | cases hop
  have htest : (isPredicate (.binary op left right) || value.isGroup || rightValue.isGroup) =
      (left.isPredicate || right.isPredicate) := by
    have hvalue : value.isGroup = true → left.isPredicate = true :=
      fun hg => isPredicate_of_lower left hleft hg
    have hrightValue : rightValue.isGroup = true → right.isPredicate = true :=
      fun hg => isPredicate_of_lower right hright hg
    rw [isPredicate, hop, hcomparison]
    generalize value.isGroup = a at hvalue
    generalize rightValue.isGroup = b at hrightValue
    revert hvalue hrightValue
    generalize left.isPredicate = l
    generalize right.isPredicate = r
    revert a b l r
    decide
  rw [logicalPair, htest]

end Links

/-! ## The walk and the plain lowering -/

section Walk

variable {limit : Nat}

theorem bounded_level {place : Place} {depth : Nat} {e : Expr} {f : Nat → Except Fault Condition}
    {y : Except Fault Condition}
    (h : Bounded operatorChanges limit (visits (start place depth e) e)
      (f (start place depth e)) y) :
    Bounded operatorChanges limit (visits (start place depth e) e)
      (level limit place depth e >>= f) y := by
  rw [level]
  cases hc : continues place e with
  | true =>
      rw [start_of_continues hc] at h ⊢
      exact h
  | false =>
      rw [start_of_not_continues hc] at h ⊢
      exact .descend (self_mem_visits (depth + 1) e) h

theorem bounded_checkChain {place : Place} {d : Nat} {e : Expr} {x y : Except Fault Condition}
    (h : Bounded operatorChanges limit (visits d e) x y) :
    Bounded operatorChanges limit (visits d e) (checkChain limit d place e >>= fun _ => x) y := by
  rw [checkChain]
  split
  case isTrue hlt =>
      simp only [Bool.and_eq_true, decide_eq_true_eq] at hlt
      exact .chainTooDeep y (self_mem_visits d e) hlt.2
  case isFalse => exact h

mutual

/-- The walk has the result of the plain lowering, unless a visit does not fit the limit. -/
theorem bounded_lower (e : Expr) (place : Place) (depth : Nat) :
    Bounded operatorChanges limit (visits (start place depth e) e) (lower limit place depth e)
      (plain e) := by
  rw [lower_eq]
  refine bounded_level ?_
  generalize start place depth e = d
  match e with
  | .var _ | .literal _ | .foreign _ => exact .within _
  | .negated child =>
      refine Bounded.bind ?_ fun value _ => .within _
      exact (bounded_lower child .alone d).mono fun v hv =>
        List.mem_cons_of_mem _ (start_alone d child ▸ hv)
  | .list items =>
      refine Bounded.bind ?_ fun texts _ => .within _
      exact (bounded_lowerAll items d).mono fun v hv => List.mem_cons_of_mem _ hv
  | .call name args =>
      refine (Bounded.within _).bind fun special hspecial => ?_
      cases special with
      | some text => exact .within _
      | none =>
          refine Bounded.bind ?_ fun texts _ => .within _
          exact (bounded_lowerAll args d).mono fun v hv => (mem_visits_call hspecial).mpr (.inr hv)
  | .index object key =>
      have hobject : Bounded operatorChanges limit (visits d (.index object key))
          (lower limit .path d object) (plain object) :=
        (bounded_lower object .path d).mono fun v hv =>
          List.mem_cons_of_mem _ (List.mem_append_left _ hv)
      by_cases hkey : ∃ name, key = .literal (.text name)
      · obtain ⟨name, rfl⟩ := hkey
        refine hobject.bind fun raw hraw => ?_
        rw [part, objectText_of_lower hraw]
        exact .within _
      · rw [not_exists] at hkey
        rw [lowerNode, plain_element hkey]
        refine hobject.bind fun raw hraw => ?_
        rw [part_element hkey, objectText_of_lower hraw]
        refine Bounded.bind ?_ fun inside _ => .within _
        refine (bounded_lower key .alone d).mono fun v hv => ?_
        exact (mem_visits_element hkey).mpr (.inr (.inr (start_alone d key ▸ hv)))
  | .binary op left right =>
      have hright : ∀ v, v ∈ visits (start .alone d right) right → v ∈ visits (d + 1) right :=
        fun v hv => start_alone d right ▸ hv
      rw [lowerNode, plain]
      cases hop : op.isLogical with
      | true =>
          refine bounded_checkChain (Bounded.bind ?_ fun value hvalue =>
            Bounded.bind ?_ fun rightValue hrightValue => ?_)
          · refine (bounded_lower left .logical d).mono fun v hv => ?_
            exact (mem_visits_logical hop).mpr (.inr (.inl hv))
          · refine (bounded_lower right .alone d).mono fun v hv => ?_
            exact (mem_visits_logical hop).mpr (.inr (.inr (hright v hv)))
          · rw [logicalPair_of_lower hop hvalue hrightValue]
            split <;> exact .within _
      | false =>
          refine Bounded.bind ?_ fun value hvalue => ?_
          · refine (bounded_lower left (.chain op.precedence) d).mono fun v hv => ?_
            rw [visits, if_neg (by simp [hop])]
            exact List.mem_cons_of_mem _ (List.mem_append_left _ hv)
          refine (Bounded.within _).bind fun shift hshift => ?_
          cases shift with
          | some amount =>
              rw [operation, leftText_of_lower hvalue]
              exact .within _
          | none =>
              rw [operation, leftText_of_lower hvalue]
              refine Bounded.bind ?_ fun rightValue _ => .within _
              refine (bounded_lower right .alone d).mono fun v hv => ?_
              exact (mem_visits_operation hop hshift).mpr (.inr (.inr (hright v hv)))

theorem bounded_lowerAll (es : List Expr) (depth : Nat) :
    Bounded operatorChanges limit (visitsAll (depth + 1) es) (lowerAll limit depth es)
      (plainAll es) := by
  match es with
  | [] => exact .within _
  | e :: es =>
      rw [lowerAll, plainAll]
      refine Bounded.bind ?_ fun value _ => Bounded.bind ?_ fun texts _ => .within _
      · exact (bounded_lower e .alone depth).mono fun v hv =>
          List.mem_append_left _ (start_alone depth e ▸ hv)
      · exact (bounded_lowerAll es depth).mono fun v hv => List.mem_append_right _ hv

end

/-- An expression has a condition exactly if its parts have theirs and every visit fits. -/
theorem condition_eq_ok_iff {depth : Nat} {e : Expr} {c : Condition} :
    e.condition limit depth = .ok c ↔
      plain e = .ok c ∧ ∀ v ∈ visits (depth + 1) e, Fits limit v := by
  have hwalk : Bounded operatorChanges limit (visits (depth + 1) e) (e.condition limit depth)
      (plain e) := start_alone depth e ▸ bounded_lower e .alone depth
  constructor
  · intro h
    have hfits := fits_of_lower e h (room_of_alone h)
    rw [start_alone] at hfits
    rw [h] at hwalk
    exact ⟨hwalk.eq_ok, hfits⟩
  · rintro ⟨h, hfits⟩
    rw [hwalk.eq hfits, h]

end Walk

end Expr

end VaultQuery
