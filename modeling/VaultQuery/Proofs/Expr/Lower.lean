import VaultQuery.Expr.Lower

/-!
What the lowering of an expression does, node by node, and that its result does not depend on where
the expression stands: an expression that is lowered at some depth has the same condition at every
place with no fewer levels left (`lower_mono`).
-/

namespace VaultQuery

theorem bind_eq_ok {ε α β : Type} {x : Except ε α} {f : α → Except ε β} {b : β} :
    x >>= f = .ok b ↔ ∃ a, x = .ok a ∧ f a = .ok b := by
  cases x with
  | error e => exact ⟨nofun, fun ⟨_, h, _⟩ => nomatch h⟩
  | ok a => exact ⟨fun h => ⟨a, rfl, h⟩, fun ⟨_, ha, h⟩ => Except.ok.inj ha ▸ h⟩

theorem bind_eq_error {ε α β : Type} {x : Except ε α} {f : α → Except ε β} {e : ε} :
    x >>= f = .error e ↔ x = .error e ∨ ∃ a, x = .ok a ∧ f a = .error e := by
  cases x with
  | error e' =>
      constructor
      · intro h
        cases h
        exact .inl rfl
      · rintro (h | ⟨a, h, -⟩) <;> cases h
        rfl
  | ok a =>
      constructor
      · intro h
        exact .inr ⟨a, rfl, h⟩
      · rintro (h | ⟨a', h, hf⟩) <;> cases h
        exact hf

theorem mapError_eq_ok {ε ε' α : Type} {f : ε → ε'} {x : Except ε α} {a : α} :
    x.mapError f = .ok a ↔ x = .ok a := by
  cases x with
  | error e => constructor <;> intro h <;> cases h
  | ok b => exact ⟨fun h => congrArg _ (Except.ok.inj h), fun h => congrArg _ (Except.ok.inj h)⟩

theorem map_eq_ok {ε α β : Type} {f : α → β} {x : Except ε α} {b : β} :
    x.map f = .ok b ↔ ∃ a, x = .ok a ∧ f a = b := by
  cases x <;> simp [Except.map]

theorem descend_eq_ok {limit depth d : Nat} :
    descend limit depth = .ok d ↔ depth + 1 ≤ limit ∧ d = depth + 1 := by
  unfold descend
  split
  case isTrue h => simp [h, eq_comm]
  case isFalse h => simp [h]

theorem descend_bind_eq_ok {α : Type} {limit depth : Nat} {f : Nat → Except Fault α} {a : α} :
    descend limit depth >>= f = .ok a ↔ depth + 1 ≤ limit ∧ f (depth + 1) = .ok a := by
  rw [bind_eq_ok]
  constructor
  · rintro ⟨d, hd, h⟩
    obtain ⟨hle, rfl⟩ := descend_eq_ok.mp hd
    exact ⟨hle, h⟩
  · rintro ⟨hle, h⟩
    exact ⟨depth + 1, descend_eq_ok.mpr ⟨hle, rfl⟩, h⟩

namespace Expr

/-! ## Depth -/

/-- The depth at which an expression is worked on, without regard to the limit. -/
def start (place : Place) (depth : Nat) (e : Expr) : Nat :=
  if continues place e then depth else depth + 1

theorem start_of_continues {place : Place} {depth : Nat} {e : Expr}
    (h : continues place e = true) : start place depth e = depth := by
  simp [start, h]

theorem start_of_not_continues {place : Place} {depth : Nat} {e : Expr}
    (h : continues place e = false) : start place depth e = depth + 1 := by
  simp [start, h]

@[simp] theorem start_alone (depth : Nat) (e : Expr) : start .alone depth e = depth + 1 :=
  start_of_not_continues (by cases e <;> rfl)

theorem le_start (place : Place) (depth : Nat) (e : Expr) : depth ≤ start place depth e := by
  unfold start
  split <;> omega

theorem start_mono (place : Place) {depth depth' : Nat} (h : depth' ≤ depth) (e : Expr) :
    start place depth' e ≤ start place depth e := by
  unfold start
  split <;> omega

theorem eq_start_of_level {limit : Nat} {place : Place} {depth d : Nat} {e : Expr}
    (h : level limit place depth e = .ok d) : d = start place depth e := by
  unfold level at h
  split at h
  case isTrue hc => rw [start_of_continues hc, Except.ok.inj h]
  case isFalse hc => rw [start_of_not_continues (by simpa using hc), (descend_eq_ok.mp h).2]

theorem level_of_start_le {limit : Nat} {place : Place} {depth : Nat} {e : Expr}
    (h : start place depth e ≤ limit) :
    level limit place depth e = .ok (start place depth e) := by
  unfold level
  split
  case isTrue hc => rw [start_of_continues hc]
  case isFalse hc =>
      rw [start_of_not_continues (by simpa using hc)] at h ⊢
      exact descend_eq_ok.mpr ⟨h, rfl⟩

theorem start_le_of_level {limit : Nat} {place : Place} {depth d : Nat} {e : Expr}
    (h : level limit place depth e = .ok d) (hc : continues place e = false) :
    start place depth e ≤ limit := by
  rw [level, hc] at h
  rw [start_of_not_continues hc]
  exact (descend_eq_ok.mp h).1

theorem checkChain_of_le {limit depth : Nat} (place : Place) {e : Expr}
    (h : depth + e.operatorChanges ≤ limit) : checkChain limit depth place e = .ok () := by
  have hle : ¬ limit < depth + e.operatorChanges := by omega
  simp [checkChain, hle]

theorem le_of_checkChain {limit depth : Nat} {place : Place} {e : Expr}
    (h : checkChain limit depth place e = .ok ()) (hc : continues place e = false) :
    depth + e.operatorChanges ≤ limit := by
  unfold checkChain at h
  split at h
  case isTrue => cases h
  case isFalse hlt =>
      simp only [hc, Bool.not_false, Bool.true_and, decide_eq_true_eq] at hlt
      omega

theorem operatorChanges_of_not_isLogical {e : Expr} (h : e.isLogical = false) :
    e.operatorChanges = 0 := by
  cases e with
  | binary op left right =>
      cases left with
      | binary op' l r => simp_all [operatorChanges, Expr.isLogical]
      | _ => rfl
  | _ => rfl

theorem not_isLogical_of_chain {p : Nat} {e : Expr} (h : continues (.chain p) e = true) :
    e.isLogical = false := by
  cases e with
  | binary op left right =>
      simp only [continues, Bool.and_eq_true, Bool.not_eq_true'] at h
      exact h.1
  | _ => rfl

theorem operatorChanges_left_le {op : BinOp} (hop : op.isLogical = true) (left right : Expr) :
    left.operatorChanges ≤ (binary op left right).operatorChanges := by
  cases hl : left.isLogical with
  | false =>
      rw [operatorChanges_of_not_isLogical hl]
      exact Nat.zero_le _
  | true =>
      cases left with
      | binary op' l r =>
          have hop' : op'.isLogical = true := hl
          simp only [operatorChanges, hop, hop', Bool.and_self, ↓reduceIte]
          omega
      | _ => simp [Expr.isLogical] at hl

/-! ## Nodes -/

/-- The text of an object before its part. -/
def objectText (object : Expr) (value : Condition) : String :=
  if object.isIndex then value.inline else operand object value partPrecedence false

/-- The condition of a part, given the condition of its object. -/
def part (limit depth : Nat) (object key : Expr) (raw : Condition) : Except Fault Condition :=
  match key with
  | .literal (.text name) => .ok (.leaf (partText (objectText object raw) raw.inline name))
  | _ => do
    let inside ← lower limit .alone depth key
    return .leaf (objectText object raw ++ "[" ++ inside.inline ++ "]")

theorem part_element {key : Expr} (hkey : ∀ name, key ≠ .literal (.text name)) (limit depth : Nat)
    (object : Expr) (raw : Condition) : part limit depth object key raw = (do
      let inside ← lower limit .alone depth key
      return .leaf (objectText object raw ++ "[" ++ inside.inline ++ "]")) := by
  unfold part
  split
  case h_1 name => exact absurd rfl (hkey name)
  case h_2 => rfl

/-- The text of the left operand of an operation. -/
def leftText (p : Nat) (left : Expr) (value : Condition) : String :=
  if continues (.chain p) left then value.inline else operand left value p false

/-- The duration that an operation adds to a date or takes from it, if it does. -/
def shift? (op : BinOp) (left right : Expr) : Except Fault (Option Duration) :=
  (if op.isAdditive then right.duration?.mapError .numeral else .ok none).map fun moved =>
    if left.isDate then moved else none

/-- The condition of an operation, given the duration that it shifts a date by. -/
def operation (limit depth : Nat) (op : BinOp) (left right : Expr) (value : Condition) :
    Option Duration → Except Fault Condition
  | some amount => do
    let text ← (if op = .sub then amount.neg else amount).write.mapError .numeral
    return .leaf (leftText op.precedence left value ++ " + \"" ++ text ++ "\"")
  | none => do
    let rightValue ← lower limit .alone depth right
    return .leaf (leftText op.precedence left value ++ " " ++ op.baseSymbol ++ " " ++
      operand right rightValue op.precedence true)

/-- The condition of an expression that is worked on at a depth. -/
def lowerNode (limit : Nat) (place : Place) (depth : Nat) : Expr → Except Fault Condition
  | .var name => .ok (.leaf (Vocabulary.property name))
  | .literal value => literalText value >>= fun text => .ok (.leaf text)
  | .index object key => lower limit .path depth object >>= part limit depth object key
  | .binary op left right =>
    if op.isLogical then do
      checkChain limit depth place (.binary op left right)
      let value ← lower limit .logical depth left
      let rightValue ← lower limit .alone depth right
      return logicalPair op left right value rightValue
    else do
      let value ← lower limit (.chain op.precedence) depth left
      let shift ← shift? op left right
      operation limit depth op left right value shift
  | .call name args => do
    match ← specialCall? name args with
    | some text => return .leaf text
    | none => return .leaf (callText name (← lowerAll limit depth args))
  | .negated child => lower limit .alone depth child >>= fun value => .ok (.group .not [value])
  | .list items => do
    let texts ← lowerAll limit depth items
    return .leaf ("[" ++ String.intercalate ", " texts ++ "]")
  | .foreign node => .error (.obstacle (.foreignField node.label))

section Nodes

variable {limit depth : Nat} {place : Place} {c : Condition}

/-- An expression takes the level that its place asks for, and is then worked on there. -/
theorem lower_eq (e : Expr) :
    lower limit place depth e =
      level limit place depth e >>= fun d => lowerNode limit place d e := by
  cases e with
  | index object key =>
      rw [lower]
      refine bind_congr fun d => bind_congr fun raw => ?_
      cases key with
      | literal value => cases value <;> rfl
      | _ => rfl
  | binary op left right =>
      rw [lower]
      refine bind_congr fun d => ?_
      simp only [lowerNode]
      cases op.isLogical with
      | true => rfl
      | false =>
          refine bind_congr fun value => ?_
          simp only [shift?]
          cases op.isAdditive with
          | false => cases left.isDate <;> rfl
          | true =>
              cases right.duration? with
              | error fault => rfl
              | ok moved => cases left.isDate <;> cases moved <;> rfl
  | _ => rw [lower]; rfl

theorem lowerNode_of_lower {e : Expr} (h : lower limit place depth e = .ok c) :
    lowerNode limit place (start place depth e) e = .ok c := by
  rw [lower_eq] at h
  obtain ⟨d, hd, h⟩ := bind_eq_ok.mp h
  obtain rfl := eq_start_of_level hd
  exact h

theorem lower_of_lowerNode {e : Expr} (hle : start place depth e ≤ limit)
    (h : lowerNode limit place (start place depth e) e = .ok c) :
    lower limit place depth e = .ok c := by
  rw [lower_eq]
  exact bind_eq_ok.mpr ⟨_, level_of_start_le hle, h⟩

theorem of_lower_var {name : String} (h : lower limit place depth (.var name) = .ok c) :
    c = .leaf (Vocabulary.property name) :=
  (Except.ok.inj (lowerNode_of_lower h)).symm

theorem of_lower_literal {value : Literal} (h : lower limit place depth (.literal value) = .ok c) :
    ∃ text, literalText value = .ok text ∧ c = .leaf text := by
  obtain ⟨text, ht, h⟩ := bind_eq_ok.mp (lowerNode_of_lower h)
  exact ⟨text, ht, (Except.ok.inj h).symm⟩

theorem of_lower_part {object : Expr} {name : String}
    (h : lower limit place depth (.index object (.literal (.text name))) = .ok c) :
    ∃ raw, lower limit .path (start place depth (.index object (.literal (.text name)))) object =
        .ok raw ∧
      c = .leaf (partText (objectText object raw) raw.inline name) := by
  obtain ⟨raw, hr, h⟩ := bind_eq_ok.mp (lowerNode_of_lower h)
  exact ⟨raw, hr, (Except.ok.inj h).symm⟩

theorem of_lower_logical {op : BinOp} {left right : Expr} (hop : op.isLogical = true)
    (h : lower limit place depth (.binary op left right) = .ok c) :
    ∃ value rightValue,
      lower limit .logical (start place depth (.binary op left right)) left = .ok value ∧
      lower limit .alone (start place depth (.binary op left right)) right = .ok rightValue ∧
      c = logicalPair op left right value rightValue := by
  have h := lowerNode_of_lower h
  rw [lowerNode, if_pos hop] at h
  obtain ⟨_, _, h⟩ := bind_eq_ok.mp h
  obtain ⟨value, hv, h⟩ := bind_eq_ok.mp h
  obtain ⟨rightValue, hw, h⟩ := bind_eq_ok.mp h
  exact ⟨value, rightValue, hv, hw, (Except.ok.inj h).symm⟩

theorem shift?_eq_none {right : Expr} (h : right.duration? = .ok none) (op : BinOp) (left : Expr) :
    shift? op left right = .ok none := by
  rw [shift?, h]
  cases op.isAdditive <;> cases left.isDate <;> rfl

theorem of_lower_operation {op : BinOp} {left right : Expr} (hop : op.isLogical = false)
    (hright : right.duration? = .ok none)
    (h : lower limit place depth (.binary op left right) = .ok c) :
    ∃ value rightValue,
      lower limit (.chain op.precedence) (start place depth (.binary op left right)) left =
        .ok value ∧
      lower limit .alone (start place depth (.binary op left right)) right = .ok rightValue ∧
      c = .leaf (leftText op.precedence left value ++ " " ++ op.baseSymbol ++ " " ++
        operand right rightValue op.precedence true) := by
  have h := lowerNode_of_lower h
  rw [lowerNode, if_neg (by simp [hop])] at h
  obtain ⟨value, hv, h⟩ := bind_eq_ok.mp h
  obtain ⟨shift, hs, h⟩ := bind_eq_ok.mp h
  obtain rfl := Except.ok.inj ((shift?_eq_none hright op left).symm.trans hs)
  obtain ⟨rightValue, hw, h⟩ := bind_eq_ok.mp h
  exact ⟨value, rightValue, hv, hw, (Except.ok.inj h).symm⟩

theorem of_lower_call {name : String} {args : List Expr}
    (h : lower limit place depth (.call name args) = .ok c) :
    (∃ text, specialCall? name args = .ok (some text) ∧ c = .leaf text) ∨
      ∃ texts, specialCall? name args = .ok none ∧
        lowerAll limit (start place depth (.call name args)) args = .ok texts ∧
        c = .leaf (callText name texts) := by
  obtain ⟨special, hs, h⟩ := bind_eq_ok.mp (lowerNode_of_lower h)
  cases special with
  | some text => exact .inl ⟨text, hs, (Except.ok.inj h).symm⟩
  | none =>
      obtain ⟨texts, ht, h⟩ := bind_eq_ok.mp h
      exact .inr ⟨texts, hs, ht, (Except.ok.inj h).symm⟩

theorem of_lower_negated {child : Expr} (h : lower limit place depth (.negated child) = .ok c) :
    ∃ value, lower limit .alone (start place depth (.negated child)) child = .ok value ∧
      c = .group .not [value] := by
  obtain ⟨value, hv, h⟩ := bind_eq_ok.mp (lowerNode_of_lower h)
  exact ⟨value, hv, (Except.ok.inj h).symm⟩

theorem of_lower_list {items : List Expr} (h : lower limit place depth (.list items) = .ok c) :
    ∃ texts, lowerAll limit (start place depth (.list items)) items = .ok texts ∧
      c = .leaf ("[" ++ String.intercalate ", " texts ++ "]") := by
  obtain ⟨texts, ht, h⟩ := bind_eq_ok.mp (lowerNode_of_lower h)
  exact ⟨texts, ht, (Except.ok.inj h).symm⟩

theorem of_lowerAll_cons {e : Expr} {es : List Expr} {texts : List String}
    (h : lowerAll limit depth (e :: es) = .ok texts) :
    ∃ value rest, lower limit .alone depth e = .ok value ∧
      lowerAll limit depth es = .ok rest ∧ texts = value.inline :: rest := by
  rw [lowerAll] at h
  obtain ⟨value, hv, h⟩ := bind_eq_ok.mp h
  obtain ⟨rest, hr, h⟩ := bind_eq_ok.mp h
  exact ⟨value, rest, hv, hr, (Except.ok.inj h).symm⟩

/-- A negation. -/
def isNegated : Expr → Bool
  | .negated _ => true
  | _ => false

/-- Only negations, conjunctions and disjunctions can become groups. -/
theorem leaf_of_lower {e : Expr} (hnot : e.isNegated = false) (hlogical : e.isLogical = false)
    (h : lower limit place depth e = .ok c) : ∃ text, c = .leaf text := by
  cases e with
  | var name => exact ⟨_, of_lower_var h⟩
  | literal value =>
      obtain ⟨text, -, rfl⟩ := of_lower_literal h
      exact ⟨text, rfl⟩
  | index object key =>
      obtain ⟨_, _, h⟩ := bind_eq_ok.mp (lowerNode_of_lower h)
      unfold part at h
      split at h
      case h_1 => exact ⟨_, (Except.ok.inj h).symm⟩
      case h_2 =>
          obtain ⟨_, _, h⟩ := bind_eq_ok.mp h
          exact ⟨_, (Except.ok.inj h).symm⟩
  | binary op left right =>
      have hop : op.isLogical = false := hlogical
      have h := lowerNode_of_lower h
      rw [lowerNode, if_neg (by simp [hop])] at h
      obtain ⟨_, _, h⟩ := bind_eq_ok.mp h
      obtain ⟨shift, _, h⟩ := bind_eq_ok.mp h
      cases shift <;> obtain ⟨_, _, h⟩ := bind_eq_ok.mp h <;>
        exact ⟨_, (Except.ok.inj h).symm⟩
  | call name args =>
      rcases of_lower_call h with ⟨text, -, rfl⟩ | ⟨texts, -, -, rfl⟩ <;> exact ⟨_, rfl⟩
  | negated child => simp [isNegated] at hnot
  | list items =>
      obtain ⟨texts, -, rfl⟩ := of_lower_list h
      exact ⟨_, rfl⟩
  | foreign node => cases lowerNode_of_lower h

/-- Only negations become negations. -/
theorem isNegated_of_lower {e : Expr} {members : List Condition}
    (h : lower limit place depth e = .ok (.group .not members)) : e.isNegated = true := by
  cases hnot : e.isNegated with
  | true => rfl
  | false =>
      cases hlogical : e.isLogical with
      | false =>
          obtain ⟨text, hc⟩ := leaf_of_lower hnot hlogical h
          cases hc
      | true =>
          cases e with
          | binary op left right =>
              have hop : op.isLogical = true := hlogical
              obtain ⟨value, rightValue, -, -, hc⟩ := of_lower_logical hop h
              unfold logicalPair Filter.join at hc
              split at hc
              case isTrue =>
                  have hne : connective op ≠ .not := by cases op <;> simp [connective]
                  exact absurd (Filter.group.inj hc).1.symm hne
              case isFalse => cases hc
          | _ => simp [Expr.isLogical] at hlogical

end Nodes

/-! ## Places -/

theorem room_of_lower {limit : Nat} {place : Place} {depth : Nat} {e : Expr} {c : Condition}
    (h : lower limit place depth e = .ok c) (hc : continues place e = false) :
    start place depth e + e.operatorChanges ≤ limit := by
  cases hl : e.isLogical with
  | false =>
      rw [lower_eq] at h
      obtain ⟨d, hd, -⟩ := bind_eq_ok.mp h
      rw [operatorChanges_of_not_isLogical hl]
      exact start_le_of_level hd hc
  | true =>
      cases e with
      | binary op left right =>
          have hop : op.isLogical = true := hl
          have h := lowerNode_of_lower h
          rw [lowerNode, if_pos hop] at h
          obtain ⟨_, hcheck, _⟩ := bind_eq_ok.mp h
          exact le_of_checkChain hcheck hc
      | _ => simp [Expr.isLogical] at hl

/-- A child that starts no deeper than it did has the room it had. -/
theorem room_of_child {limit : Nat} {place : Place} {depth depth' : Nat} {e : Expr} {c : Condition}
    (h : lower limit place depth e = .ok c) (hle : depth' ≤ depth)
    (hroom : continues place e = true → depth' + e.operatorChanges ≤ limit) :
    start place depth' e + e.operatorChanges ≤ limit := by
  cases hc : continues place e with
  | true =>
      rw [start_of_continues hc]
      exact hroom hc
  | false =>
      have hold := room_of_lower h hc
      have hmono := start_mono place hle e
      omega

mutual

/-- An expression has the same condition wherever it has no fewer levels left. -/
theorem lower_mono {limit : Nat} (e : Expr) {place place' : Place} {depth depth' : Nat}
    {c : Condition} (h : lower limit place depth e = .ok c)
    (hle : start place' depth' e ≤ start place depth e)
    (hroom : start place' depth' e + e.operatorChanges ≤ limit) :
    lower limit place' depth' e = .ok c := by
  have h := lowerNode_of_lower h
  refine lower_of_lowerNode (by omega) ?_
  match e with
  | .var _ => exact h
  | .literal _ => exact h
  | .foreign _ => exact h
  | .negated child =>
      obtain ⟨value, hv, h⟩ := bind_eq_ok.mp h
      have hchild := lower_mono child hv (start_mono .alone hle child)
        (room_of_child hv hle (by cases child <;> simp [continues]))
      exact bind_eq_ok.mpr ⟨value, hchild, h⟩
  | .list items =>
      obtain ⟨texts, ht, h⟩ := bind_eq_ok.mp h
      exact bind_eq_ok.mpr ⟨texts, lowerAll_mono items ht hle, h⟩
  | .call name args =>
      obtain ⟨special, hs, h⟩ := bind_eq_ok.mp h
      refine bind_eq_ok.mpr ⟨special, hs, ?_⟩
      cases special with
      | some text => exact h
      | none =>
          obtain ⟨texts, ht, h⟩ := bind_eq_ok.mp h
          exact bind_eq_ok.mpr ⟨texts, lowerAll_mono args ht hle, h⟩
  | .index object key =>
      obtain ⟨raw, hr, h⟩ := bind_eq_ok.mp h
      have hobject := lower_mono object hr (start_mono .path hle object)
        (room_of_child hr hle (by cases object <;> simp_all [continues, operatorChanges]))
      refine bind_eq_ok.mpr ⟨raw, hobject, ?_⟩
      unfold part at h ⊢
      split at h
      case h_1 => exact h
      case h_2 =>
          obtain ⟨inside, hi, h⟩ := bind_eq_ok.mp h
          have hinside := lower_mono key hi (start_mono .alone hle key)
            (room_of_child hi hle (by cases key <;> simp [continues]))
          exact bind_eq_ok.mpr ⟨inside, hinside, h⟩
  | .binary op left right =>
      cases hop : op.isLogical with
      | true =>
          rw [lowerNode, if_pos hop] at h ⊢
          obtain ⟨_, _, h⟩ := bind_eq_ok.mp h
          obtain ⟨value, hv, h⟩ := bind_eq_ok.mp h
          obtain ⟨rightValue, hw, h⟩ := bind_eq_ok.mp h
          -- The check of the whole chain covers the chain that its left operand is.
          have hchain := operatorChanges_left_le hop left right
          have hleft := lower_mono left hv (start_mono .logical hle left)
            (room_of_child hv hle fun _ => by omega)
          have hright := lower_mono right hw (start_mono .alone hle right)
            (room_of_child hw hle (by cases right <;> simp [continues]))
          exact bind_eq_ok.mpr ⟨(), checkChain_of_le place' hroom,
            bind_eq_ok.mpr ⟨value, hleft, bind_eq_ok.mpr ⟨rightValue, hright, h⟩⟩⟩
      | false =>
          rw [lowerNode, if_neg (by simp [hop])] at h ⊢
          obtain ⟨value, hv, h⟩ := bind_eq_ok.mp h
          obtain ⟨shift, hs, h⟩ := bind_eq_ok.mp h
          have hleft := lower_mono left hv (start_mono (.chain op.precedence) hle left)
            (room_of_child hv hle fun hc => by
              rw [operatorChanges_of_not_isLogical (not_isLogical_of_chain hc)]
              omega)
          refine bind_eq_ok.mpr ⟨value, hleft, bind_eq_ok.mpr ⟨shift, hs, ?_⟩⟩
          cases shift with
          | some amount => exact h
          | none =>
              obtain ⟨rightValue, hw, h⟩ := bind_eq_ok.mp h
              have hright := lower_mono right hw (start_mono .alone hle right)
                (room_of_child hw hle (by cases right <;> simp [continues]))
              exact bind_eq_ok.mpr ⟨rightValue, hright, h⟩

theorem lowerAll_mono {limit : Nat} (es : List Expr) {depth depth' : Nat} {texts : List String}
    (h : lowerAll limit depth es = .ok texts) (hle : depth' ≤ depth) :
    lowerAll limit depth' es = .ok texts := by
  match es with
  | [] => exact h
  | e :: es =>
      rw [lowerAll] at h ⊢
      obtain ⟨value, hv, h⟩ := bind_eq_ok.mp h
      obtain ⟨rest, hr, h⟩ := bind_eq_ok.mp h
      have hhead := lower_mono e hv (start_mono .alone hle e)
        (room_of_child hv hle (by cases e <;> simp [continues]))
      exact bind_eq_ok.mpr ⟨value, hhead, bind_eq_ok.mpr ⟨rest, lowerAll_mono es hr hle, h⟩⟩

end

end Expr

end VaultQuery
