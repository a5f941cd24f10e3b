import Mathlib.Tactic.Linarith
import VaultQuery.Base.Yaml
import VaultQuery.Proofs.Base.Entry
import VaultQuery.Proofs.Base.Normal
import VaultQuery.Proofs.Expr.Visit

/-!
How many groups of a filter stand inside each other.  The limit of depth is charged one level for
every step down, and one for every change of operator along a chain; but an operand of a chain is
one level below the chain, however many changes stand above it.  So changes above an operand that is
a group are charged only once, against the chain, and not again against the operand: the groups may
exceed the limit by their number (`Outline.uncharged`), and by no more.  Over all queries the groups
grow with the square of the limit, and a query for every limit attains that (`nesting_of_filters`).
-/

namespace VaultQuery

/-! ## Groups inside each other -/

namespace Filter

variable {κ α : Type}

theorem groupDepths_append (fs gs : List (Filter κ α)) :
    groupDepths (fs ++ gs) = max (groupDepths fs) (groupDepths gs) := by
  induction fs with
  | nil => rw [List.nil_append, groupDepths, Nat.zero_max]
  | cons f fs ih => rw [List.cons_append, groupDepths, groupDepths, ih, Nat.max_assoc]

theorem groupDepth_join [DecidableEq κ] (c : κ) (f g : Filter κ α) :
    (f.join c g).groupDepth = max (groupDepths (f.spread c)) (groupDepths (g.spread c)) + 1 := by
  rw [join, groupDepth, groupDepths_append]

theorem groupDepths_single (f : Filter κ α) : groupDepths [f] = f.groupDepth :=
  Nat.max_zero _

theorem groupDepths_spread_le [DecidableEq κ] (c : κ) (f : Filter κ α) :
    groupDepths (f.spread c) ≤ f.groupDepth := by
  cases f with
  | leaf a => exact Nat.le_refl _
  | group k members =>
      rw [spread]
      split
      case isTrue => exact Nat.le_succ _
      case isFalse => exact Nat.le_of_eq (groupDepths_single _)

/-- A group that is merged into another one of its kind leaves one group. -/
theorem groupDepths_spread_of_isGroupOf [DecidableEq κ] {c : κ} {f : Filter κ α}
    (h : f.isGroupOf c = true) : groupDepths (f.spread c) + 1 = f.groupDepth := by
  cases f with
  | leaf a => cases h
  | group k members =>
      have hk : k = c := beq_iff_eq.mp h
      rw [spread, if_pos hk, groupDepth]

theorem groupDepths_spread_of_not_isGroupOf [DecidableEq κ] {c : κ} {f : Filter κ α}
    (h : f.isGroupOf c = false) : groupDepths (f.spread c) = f.groupDepth := by
  cases f with
  | leaf a => rfl
  | group k members =>
      have hk : k ≠ c := fun heq => by simp [isGroupOf, heq] at h
      rw [spread, if_neg hk, groupDepths_single]

theorem isGroupOf_of_ne [DecidableEq κ] {c c' : κ} {f : Filter κ α} (h : f.isGroupOf c = true)
    (hne : c ≠ c') : f.isGroupOf c' = false := by
  cases f with
  | leaf a => rfl
  | group k members =>
      have hk : k = c := beq_iff_eq.mp h
      rw [isGroupOf, hk]
      exact beq_false_of_ne hne

end Filter

/-! ## What the limit is charged -/

/-- The groups that an expression or a source becomes, whether its parts are there or not. -/
inductive Outline where
  | leaf
  | not (child : Outline)
  | joined (c : Connective) (left right : Outline)
deriving DecidableEq, Repr

namespace Outline

def isLeaf : Outline → Bool
  | .leaf => true
  | _ => false

def isJoined : Outline → Bool
  | .joined _ _ _ => true
  | _ => false

/-- One for a change of operator, if an outline continues a chain of another connective. -/
def turn (c : Connective) : Outline → Nat
  | .joined c' _ _ => if c' = c then 0 else 1
  | _ => 0

/-- The levels that are not charged although groups may fill them, below `above` changes of operator
in the same chain: those changes, above an operand that is a group. -/
def uncharged (above : Nat) : Outline → Nat
  | .leaf => 0
  | .not child => uncharged 0 child
  | .joined c left right =>
    max
      (if left.isJoined then uncharged (above + left.turn c) left
        else if left.isLeaf then 0 else above + uncharged 0 left)
      (if right.isLeaf then 0 else above + uncharged 0 right)

/-- What an operand leaves uncharged. -/
def operandUncharged (above : Nat) (o : Outline) : Nat :=
  if o.isLeaf then 0 else above + o.uncharged 0

/-- What the left side of an operator leaves uncharged. -/
def leftUncharged (c : Connective) (above : Nat) (o : Outline) : Nat :=
  if o.isJoined then o.uncharged (above + o.turn c) else o.operandUncharged above

theorem turn_of_not_isJoined {c : Connective} {o : Outline} (h : o.isJoined = false) :
    o.turn c = 0 := by
  cases o with
  | joined c' left right => cases h
  | _ => rfl

theorem leftUncharged_le (above : Nat) (c : Connective) (left right : Outline) :
    left.leftUncharged c above ≤ (joined c left right).uncharged above :=
  Nat.le_max_left _ _

theorem operandUncharged_le (above : Nat) (c : Connective) (left right : Outline) :
    right.operandUncharged above ≤ (joined c left right).uncharged above :=
  Nat.le_max_right _ _

end Outline

/-- With `levels` levels left, below `above` changes of operator, and with `spare` levels that are
not charged, a filter has no more groups inside each other than there are levels; and no more than
the square of the levels allows, whatever is not charged. -/
structure Nested (levels above spare : Nat) (f : Condition) : Prop where
  charged : f.groupDepth + above ≤ levels + spare
  square : 2 * (f.groupDepth + above + 1) ≤ levels * (levels + 1)

/-- A filter next to others under a connective: below one more change, or merged with them. -/
def Beside (c : Connective) (levels above spare : Nat) (f : Condition) : Prop :=
  Nested levels (above + 1) spare f ∨ f.isGroupOf c = true ∧ Nested levels above spare f

section Nested

variable {levels above spare : Nat} {c : Connective} {f g : Condition}

theorem Nested.mono {spare' : Nat} (h : Nested levels above spare f) (hle : spare ≤ spare') :
    Nested levels above spare' f :=
  ⟨h.charged.trans (Nat.add_le_add_left hle levels), h.square⟩

theorem Nested.of_succ (h : Nested levels (above + 1) spare f) : Nested levels above spare f := by
  obtain ⟨hcharged, hsquare⟩ := h
  constructor <;> omega

theorem Beside.nested (h : Beside c levels above spare f) : Nested levels above spare f := by
  rcases h with h | ⟨-, h⟩
  · exact h.of_succ
  · exact h

theorem Beside.mono {spare' : Nat} (h : Beside c levels above spare f) (hle : spare ≤ spare') :
    Beside c levels above spare' f :=
  h.imp (·.mono hle) fun h => ⟨h.1, h.2.mono hle⟩

theorem nested_leaf (text : String) (h : above + 1 ≤ levels) :
    Nested levels above spare (.leaf text) := by
  have hsquare : levels * 2 ≤ levels * (levels + 1) := Nat.mul_le_mul_left levels (by omega)
  constructor <;> rw [Filter.groupDepth] <;> omega

/-- A text next to others needs the level of an operand only. -/
theorem nested_leaf_operand (hdepth : f.groupDepth = 0) (h : above ≤ levels)
    (hlevels : 1 ≤ levels) :
    Nested (levels + 1) (above + 1) spare f := by
  have hsquare : (levels + 1 + 1) * 2 ≤ (levels + 1) * (levels + 1 + 1) := by
    rw [Nat.mul_comm]
    exact Nat.mul_le_mul_right _ (by omega)
  constructor <;> omega

theorem nested_not (h : Nested levels 0 spare f) :
    Nested (levels + 1) 0 spare (.group .not [f]) := by
  have hdepth : Filter.groupDepth (.group Connective.not [f]) = f.groupDepth + 1 := by
    rw [Filter.groupDepth, Filter.groupDepths_single]
  obtain ⟨hcharged, hsquare⟩ := h
  constructor
  · omega
  · rw [hdepth]
    nlinarith

/-- An operand is one level below the changes that stand above it. -/
theorem nested_operand (h : Nested levels 0 spare f) (habove : above ≤ levels) :
    Nested (levels + 1) (above + 1) (above + spare) f := by
  obtain ⟨hcharged, hsquare⟩ := h
  constructor
  · omega
  · nlinarith

theorem beside_join (hf : Beside c levels above spare f) (hg : Beside c levels above spare g) :
    Beside c levels above spare (f.join c g) := by
  have hside : ∀ x, Beside c levels above spare x →
      Filter.groupDepths (x.spread c) + 1 + above ≤ levels + spare ∧
        2 * (Filter.groupDepths (x.spread c) + 1 + above + 1) ≤ levels * (levels + 1) := by
    rintro x (⟨hcharged, hsquare⟩ | ⟨hgroup, hcharged, hsquare⟩)
    · have hle := Filter.groupDepths_spread_le c x
      constructor <;> omega
    · rw [Filter.groupDepths_spread_of_isGroupOf hgroup]
      exact ⟨hcharged, hsquare⟩
  obtain ⟨hcf, hsf⟩ := hside f hf
  obtain ⟨hcg, hsg⟩ := hside g hg
  refine .inr ⟨beq_self_eq_true c, ?_, ?_⟩
  all_goals
    rw [Filter.groupDepth_join]
    omega

/-- What is bounded of a filter with an outline; the groups of a chain may be merged into a chain
of the same connective. -/
def Outline.Bounds (levels above : Nat) (f : Condition) : Outline → Prop
  | .joined c left right => Beside c levels above ((joined c left right).uncharged above) f
  | o => Nested levels above (o.uncharged above) f

theorem Outline.Bounds.nested {o : Outline} (h : o.Bounds levels above f) :
    Nested levels above (o.uncharged above) f := by
  cases o with
  | joined c left right => exact Beside.nested h
  | _ => exact h

/-- A chain on the left side of an operator: its groups are merged if the connective is the same,
else they are below one more change. -/
theorem Outline.Bounds.link {o : Outline} (hjoined : o.isJoined = true)
    (h : o.Bounds levels (above + o.turn c) f) :
    Beside c levels above (o.leftUncharged c above) f := by
  cases o with
  | joined c' left right =>
      have hspare : (joined c' left right).leftUncharged c above =
          (joined c' left right).uncharged (above + (joined c' left right).turn c) := rfl
      rw [hspare]
      by_cases hc : c' = c
      · subst hc
        have hturn : (joined c' left right).turn c' = 0 := if_pos rfl
        rw [hturn] at h ⊢
        exact h
      · have hturn : (joined c' left right).turn c = 1 := if_neg hc
        rw [hturn] at h ⊢
        exact .inl (Beside.nested h)
  | _ => cases hjoined

theorem Outline.Bounds.operand {o : Outline} (h : o.Bounds levels 0 f)
    (hleaf : o.isLeaf = true → f.groupDepth = 0) (habove : above ≤ levels)
    (hlevels : 1 ≤ levels) :
    Nested (levels + 1) (above + 1) (o.operandUncharged above) f := by
  rw [operandUncharged]
  split
  case isTrue ho => exact nested_leaf_operand (hleaf ho) habove hlevels
  case isFalse => exact nested_operand h.nested habove

theorem Outline.leftUncharged_of_not_isJoined {o : Outline} (h : o.isJoined = false) :
    o.leftUncharged c above = o.operandUncharged above := by
  rw [leftUncharged, h]
  rfl

end Nested

/-! ## Expressions -/

namespace Expr

/-- The groups that an expression becomes. -/
def outline : Expr → Outline
  | .negated child => .not child.outline
  | .binary op left right =>
    if op.isLogical && isPredicate (.binary op left right) then
      .joined (connective op) left.outline right.outline
    else .leaf
  | _ => .leaf

section Lowered

variable {limit depth above : Nat} {place : Place} {value : Condition}

theorem outline_logical {op : BinOp} {left right : Expr}
    (h : (op.isLogical && isPredicate (.binary op left right)) = true) :
    (binary op left right).outline = .joined (connective op) left.outline right.outline := by
  rw [outline, h]
  rfl

theorem isLogical_of_outline {e : Expr} (h : e.outline.isJoined = true) : e.isLogical = true := by
  cases e with
  | binary op left right =>
      rw [outline] at h
      split at h
      case isTrue hop => exact (Bool.and_eq_true_iff.mp hop).1
      case isFalse => cases h
  | _ => cases h

theorem isLeaf_of_isLogical {e : Expr} (h : e.isLogical = true)
    (hjoined : e.outline.isJoined = false) : e.outline.isLeaf = true := by
  cases e with
  | binary op left right =>
      rw [outline] at hjoined ⊢
      split at hjoined
      case isTrue => cases hjoined
      case isFalse hop => rw [if_neg hop]; rfl
  | _ => cases h

theorem continues_logical (e : Expr) : continues .logical e = e.isLogical := by
  cases e <;> rfl

/-- An expression whose outline is a leaf becomes a text. -/
theorem groupDepth_of_isLeaf {e : Expr} (h : lower limit place depth e = .ok value)
    (hleaf : e.outline.isLeaf = true) : value.groupDepth = 0 := by
  cases value with
  | leaf text => rfl
  | group c members =>
      rcases (isGroup_iff_of_lower h).mp rfl with hnot | ⟨hlogical, hpred⟩
      · cases e with
        | negated child => cases hleaf
        | _ => cases hnot
      · cases e with
        | binary op left right =>
            have hop : op.isLogical = true := hlogical
            rw [outline, hop, hpred] at hleaf
            cases hleaf
        | _ => cases hlogical

theorem eq_and_or_of_isLogical {op : BinOp} (h : op.isLogical = true) : op = .and ∨ op = .or := by
  cases op <;> first | exact .inl rfl | exact .inr rfl | cases h

/-- The changes of a chain are those of its left side, and one more where the operator changes. -/
theorem turn_add_operatorChanges_le {op : BinOp} (hop : op.isLogical = true) (left right : Expr) :
    left.outline.turn (connective op) + left.operatorChanges ≤
      (binary op left right).operatorChanges := by
  cases hjoined : left.outline.isJoined with
  | false =>
      rw [Outline.turn_of_not_isJoined hjoined, Nat.zero_add]
      exact operatorChanges_left_le hop left right
  | true =>
      cases left with
      | binary op' l r =>
          have hop' : op'.isLogical = true := isLogical_of_outline hjoined
          have houtline : (binary op' l r).outline =
              .joined (connective op') l.outline r.outline := by
            rw [outline] at hjoined
            split at hjoined
            case isTrue htest => exact outline_logical htest
            case isFalse => cases hjoined
          have hturn : (if connective op' = connective op then 0 else 1) =
              if op = op' then 0 else 1 := by
            rcases eq_and_or_of_isLogical hop with rfl | rfl <;>
              rcases eq_and_or_of_isLogical hop' with rfl | rfl <;> rfl
          rw [houtline, operatorChanges, hop, hop', Outline.turn, hturn, Nat.add_comm]
          rfl
      | _ => cases isLogical_of_outline hjoined

theorem groupDepth_member (e : Expr) (value : Condition) :
    (member e value).groupDepth = value.groupDepth := by
  cases value with
  | group c members => rfl
  | leaf text =>
      rw [member]
      split <;> rfl

theorem isGroupOf_member (c : Connective) (e : Expr) (value : Condition) :
    (member e value).isGroupOf c = value.isGroupOf c := by
  cases value with
  | group k members => rfl
  | leaf text =>
      rw [member]
      split <;> rfl

theorem beside_member {c : Connective} {levels spare : Nat} (e : Expr)
    (h : Beside c levels above spare value) : Beside c levels above spare (member e value) := by
  have hnested : ∀ {above}, Nested levels above spare value →
      Nested levels above spare (member e value) := by
    intro above h
    exact ⟨by rw [groupDepth_member]; exact h.charged, by rw [groupDepth_member]; exact h.square⟩
  rcases h with h | ⟨hgroup, h⟩
  · exact .inl (hnested h)
  · exact .inr ⟨(isGroupOf_member c e value).trans hgroup, hnested h⟩

/-- The groups of an expression are bounded wherever it is lowered below some changes of operator
that fit the limit together with its own. -/
def Outlined (limit : Nat) (e : Expr) : Prop :=
  ∀ {place depth above value}, lower limit place depth e = .ok value →
    start place depth e + above + e.operatorChanges ≤ limit → (e.isNegated = true → above = 0) →
    e.outline.Bounds (limit + 1 - start place depth e) above value

theorem nested_operand_of_lower {e : Expr} (ih : Outlined limit e)
    (h : lower limit place depth e = .ok value) (hc : continues place e = false)
    (habove : depth + above ≤ limit) :
    Nested (limit + 1 - depth) (above + 1) (e.outline.operandUncharged above) value := by
  have hroom := room_of_lower h hc
  have hbounds : e.outline.Bounds _ 0 value := ih h (by omega) fun _ => rfl
  rw [start_of_not_continues hc] at hroom hbounds
  have hlevels : limit + 1 - depth = limit + 1 - (depth + 1) + 1 := by omega
  rw [hlevels]
  exact hbounds.operand (groupDepth_of_isLeaf h) (by omega) (by omega)

theorem beside_left_of_lower {op : BinOp} {left right : Expr} (ih : Outlined limit left)
    (hop : op.isLogical = true) (h : lower limit .logical depth left = .ok value)
    (hroom : depth + above + (binary op left right).operatorChanges ≤ limit)
    (hdepth : depth + 1 ≤ limit) :
    Beside (connective op) (limit + 1 - depth) above
      (left.outline.leftUncharged (connective op) above) value := by
  have hchain := turn_add_operatorChanges_le hop left right
  have hcontinues := continues_logical left
  cases hjoined : left.outline.isJoined with
  | true =>
      -- the left side is a chain, at the depth of the whole
      have hlogical := isLogical_of_outline hjoined
      have hstart : start .logical depth left = depth :=
        start_of_continues (hcontinues.trans hlogical)
      have hbounds : left.outline.Bounds (limit + 1 - start .logical depth left)
          (above + left.outline.turn (connective op)) value := by
        refine ih h (by omega) fun hnot => ?_
        cases left with
        | binary op' l r => cases hnot
        | _ => cases hlogical
      rw [hstart] at hbounds
      exact hbounds.link hjoined
  | false =>
      rw [Outline.leftUncharged_of_not_isJoined hjoined]
      cases hlogical : left.isLogical with
      | true =>
          have hnone := groupDepth_of_isLeaf h (isLeaf_of_isLogical hlogical hjoined)
          have hlevels : limit + 1 - depth = limit - depth + 1 := by omega
          rw [hlevels]
          exact .inl (nested_leaf_operand hnone (by omega) (by omega))
      | false =>
          exact .inl (nested_operand_of_lower ih h (hcontinues.trans hlogical) (by omega))

end Lowered

theorem outlined (limit : Nat) (e : Expr) : Outlined limit e := by
  intro place depth above value h hroom habove
  match e with
  | .negated child =>
      obtain rfl := habove rfl
      obtain ⟨inner, hinner, rfl⟩ := of_lower_negated h
      have hchild := room_of_alone hinner
      have ih : child.outline.Bounds _ 0 inner :=
        outlined limit child hinner (by omega) fun _ => rfl
      rw [start_alone] at ih hchild
      have hlevels : limit + 1 - start place depth (.negated child) =
          limit + 1 - (start place depth (.negated child) + 1) + 1 := by omega
      rw [hlevels]
      exact nested_not ih.nested
  | .binary op left right =>
      cases htest : op.isLogical && isPredicate (.binary op left right) with
      | false =>
          have houtline : (binary op left right).outline = .leaf := by
            rw [outline, htest]
            rfl
          have hnone := groupDepth_of_isLeaf h (by rw [houtline]; rfl)
          rw [houtline]
          cases value with
          | leaf text => exact nested_leaf text (by omega)
          | group c members => cases hnone
      | true =>
          obtain ⟨hop, hpred⟩ := Bool.and_eq_true_iff.mp htest
          obtain ⟨leftValue, rightValue, hleft, hright, rfl⟩ := of_lower_logical hop h
          generalize start place depth (.binary op left right) = d at hleft hright hroom ⊢
          have hrightRoom := room_of_alone hright
          rw [start_alone] at hrightRoom
          have hbesideLeft := beside_left_of_lower (outlined limit left) hop hleft hroom (by omega)
          have hbesideRight : Nested (limit + 1 - d) (above + 1) _ rightValue :=
            nested_operand_of_lower (outlined limit right) hright (by cases right <;> rfl)
              (by omega)
          rw [outline_logical htest, logicalPair, hpred, Bool.true_or, Bool.true_or, if_pos rfl]
          refine beside_join (beside_member left ?_) (beside_member right (.inl ?_))
          · exact hbesideLeft.mono (Outline.leftUncharged_le ..)
          · exact hbesideRight.mono (Outline.operandUncharged_le ..)
  | .var _ | .literal _ | .index _ _ | .call _ _ | .list _ | .foreign _ =>
      obtain ⟨text, rfl⟩ := leaf_of_lower rfl rfl h
      exact nested_leaf text (by omega)

end Expr

/-! ## Sources -/

namespace Source

/-- The groups that a source becomes, if all of its parts are there. -/
def outline : Source → Outline
  | .negated child => .not child.outline
  | .joined joint left right =>
    match connective? joint with
    | some c => .joined c left.outline right.outline
    | none => .leaf
  | _ => .leaf

section Lowered

variable {limit depth above : Nat} {inChain : Bool} {r : Option Condition}

theorem groupDepth_of_isLeaf {s : Source} (h : lower limit inChain depth s = .ok r)
    (hleaf : s.outline.isLeaf = true) : ∀ f ∈ r, f.groupDepth = 0 := by
  cases s with
  | negated child => cases hleaf
  | joined joint left right =>
      obtain ⟨c, hc⟩ := connective?_of_lower h
      rw [outline, hc] at hleaf
      cases hleaf
  | folder path =>
      rw [lower, descend_bind_eq_ok] at h
      obtain rfl := Except.ok.inj h.2
      intro f hf
      split at hf
      case isTrue => cases hf
      case isFalse =>
          obtain rfl := Option.mem_some_iff.mp hf
          rfl
  | tag _ | link _ =>
      rw [lower, descend_bind_eq_ok] at h
      obtain rfl := Except.ok.inj h.2
      intro f hf
      obtain rfl := Option.mem_some_iff.mp hf
      rfl
  | everything =>
      rw [lower, descend_bind_eq_ok] at h
      obtain rfl := Except.ok.inj h.2
      intro f hf
      cases hf
  | foreign node =>
      rw [lower, descend_bind_eq_ok] at h
      cases h.2

theorem turn_add_jointChanges_le {joint : Joint} {c : Connective} (hc : connective? joint = some c)
    (left right : Source) :
    left.outline.turn c + left.jointChanges ≤ (joined joint left right).jointChanges := by
  have hsome : (connective? joint).isSome = true := by rw [hc]; rfl
  cases hjoined : left.outline.isJoined with
  | false =>
      rw [Outline.turn_of_not_isJoined hjoined, Nat.zero_add]
      exact jointChanges_left_le hsome left right
  | true =>
      cases left with
      | joined joint' l r =>
          cases hc' : connective? joint' with
          | none =>
              rw [outline, hc'] at hjoined
              cases hjoined
          | some c' =>
              have hturn : (if c' = c then 0 else 1) = if joint = joint' then 0 else 1 := by
                cases joint <;> cases hc <;> cases joint' <;> cases hc' <;> rfl
              rw [outline, jointChanges, hsome, hc', Outline.turn, hturn, Nat.add_comm]
              rfl
      | _ => cases hjoined

theorem continues_true (s : Source) : continues true s = s.outline.isJoined := by
  cases s with
  | joined joint left right =>
      rw [continues, outline]
      cases connective? joint <;> rfl
  | _ => rfl

/-- The groups of a source are bounded wherever it is lowered below some changes of joint that fit
the limit together with its own. -/
def Outlined (limit : Nat) (s : Source) : Prop :=
  ∀ {inChain depth above r}, lower limit inChain depth s = .ok r →
    start inChain depth s + above + s.jointChanges ≤ limit →
    (s.outline.isJoined = false → above = 0) →
    ∀ f ∈ r, s.outline.Bounds (limit + 1 - start inChain depth s) above f

theorem nested_operand_of_lower {s : Source} (ih : Outlined limit s)
    (h : lower limit inChain depth s = .ok r) (hc : continues inChain s = false)
    (habove : depth + above ≤ limit) :
    ∀ f ∈ r, Nested (limit + 1 - depth) (above + 1) (s.outline.operandUncharged above) f := by
  intro f hf
  have hroom := room_of_lower h hc
  have hstart : start inChain depth s = depth + 1 := start_of_not_continues hc
  have hbounds : s.outline.Bounds _ 0 f := ih h (by omega) (fun _ => rfl) f hf
  rw [hstart] at hbounds
  have hlevels : limit + 1 - depth = limit + 1 - (depth + 1) + 1 := by omega
  rw [hlevels]
  exact hbounds.operand (fun hleaf => groupDepth_of_isLeaf h hleaf f hf) (by omega) (by omega)

theorem beside_left_of_lower {joint : Joint} {c : Connective} {left right : Source}
    (ih : Outlined limit left) (hc : connective? joint = some c)
    (h : lower limit true depth left = .ok r)
    (hroom : depth + above + (joined joint left right).jointChanges ≤ limit) :
    ∀ f ∈ r, Beside c (limit + 1 - depth) above (left.outline.leftUncharged c above) f := by
  intro f hf
  have hchain := turn_add_jointChanges_le hc left right
  have hcontinues := continues_true left
  cases hjoined : left.outline.isJoined with
  | true =>
      have hstart : start true depth left = depth :=
        start_of_continues (hcontinues.trans hjoined)
      have hbounds : left.outline.Bounds (limit + 1 - start true depth left)
          (above + left.outline.turn c) f :=
        ih h (by omega) (fun hnot => by rw [hjoined] at hnot; cases hnot) f hf
      rw [hstart] at hbounds
      exact hbounds.link hjoined
  | false =>
      rw [Outline.leftUncharged_of_not_isJoined hjoined]
      exact .inl (nested_operand_of_lower ih h (hcontinues.trans hjoined) (by omega) f hf)

/-- Of two conditions that are joined, each of which may be missing, each is bounded by itself. -/
theorem beside_joinOptional {c : Connective} {levels spare : Nat}
    {f g : Option Condition} (hf : ∀ x ∈ f, x.isFull = true ∧ Beside c levels above spare x)
    (hg : ∀ x ∈ g, x.isFull = true ∧ Beside c levels above spare x) :
    ∀ x ∈ joinOptional c f g, Beside c levels above spare x := by
  intro x hx
  match f, g with
  | none, g => exact (hg x hx).2
  | some f, none => exact (hf x hx).2
  | some f, some g =>
      have hjoin : joinOptional c (some f) (some g) = some (f.join c g) :=
        Filter.flatten_pair c (hf f rfl).1 (hg g rfl).1
      rw [hjoin] at hx
      obtain rfl := Option.mem_some_iff.mp hx
      exact beside_join (hf f rfl).2 (hg g rfl).2

end Lowered

theorem outlined (limit : Nat) (s : Source) : Outlined limit s := by
  induction s with
  | negated child ih =>
      intro inChain depth above r h hroom habove f hf
      obtain rfl := habove rfl
      obtain ⟨-, inner, hinner, rfl⟩ := lower_negated_eq_ok.mp h
      obtain ⟨g, hg, rfl⟩ := Option.map_eq_some_iff.mp hf
      have hchild := room_of_lower hinner (continues_false child)
      have hbounds : child.outline.Bounds _ 0 g :=
        ih hinner (by rw [start_false]; omega) (fun _ => rfl) g hg
      rw [start_false] at hbounds
      have hlevels : limit + 1 - start inChain depth (.negated child) =
          limit + 1 - (depth + 1 + 1) + 1 := by
        rw [start_of_not_continues rfl]
        omega
      rw [hlevels]
      exact nested_not hbounds.nested
  | joined joint left right ihl ihr =>
      intro inChain depth above r h hroom _
      obtain ⟨c, hc⟩ := connective?_of_lower h
      obtain ⟨-, value, rightValue, hleft, hright, rfl⟩ := (lower_joined_eq_ok hc).mp h
      generalize start inChain depth (.joined joint left right) = d at hleft hright hroom ⊢
      have houtline : (joined joint left right).outline =
          .joined c left.outline right.outline := by
        rw [outline, hc]
      have hbesideLeft := beside_left_of_lower ihl hc hleft hroom
      have hbesideRight : ∀ f ∈ rightValue, Nested (limit + 1 - d) (above + 1) _ f :=
        nested_operand_of_lower ihr hright (continues_false right) (by omega)
      rw [houtline]
      refine beside_joinOptional (fun f hf => ⟨?_, ?_⟩) (fun f hf => ⟨?_, .inl ?_⟩)
      · exact (normal_of_lower left hleft f hf).isFull
      · exact (hbesideLeft f hf).mono (Outline.leftUncharged_le ..)
      · exact (normal_of_lower right hright f hf).isFull
      · exact (hbesideRight f hf).mono (Outline.operandUncharged_le ..)
  | _ =>
      intro inChain depth above r h hroom _ f hf
      have hnone := groupDepth_of_isLeaf h rfl f hf
      cases f with
      | leaf text => exact nested_leaf text (by omega)
      | group c members => cases hnone

end Source

/-! ## Bases -/

/-- What the limit of depth is not charged for the filters of a query: those of its source, and of
its last clause. -/
def Query.uncharged (q : Query) : Nat :=
  max (q.source.outline.uncharged 0)
    (((Work.lastClause? q.operations).map (·.outline.uncharged 0)).getD 0)

theorem Work.groupDepth_assembled (s : Settings) (inView : Option Bool)
    (display formulas : List (String × String)) (source : Option Condition) (slots : Slots) :
    (assembled s inView display formulas source slots).groupDepth =
      ((Condition.both source slots.kept).map Filter.groupDepth).getD 0 := by
  cases hview : inView.getD s.filtersInView with
  | true => simp [Base.groupDepth, assembled, hview]
  | false => simp [Base.groupDepth, assembled, hview]

/-- The meeting of a source with a clause adds one group at most. -/
theorem groupDepth_both_le {limit spare : Nat} {source kept : Option Condition}
    (hsource : ∀ f ∈ source, f.isFull = true ∧ Nested limit 0 spare f)
    (hkept : ∀ f ∈ kept, f.isFull = true ∧ Nested limit 0 spare f) :
    ((Condition.both source kept).map Filter.groupDepth).getD 0 ≤ limit + 1 + spare ∧
      2 * ((Condition.both source kept).map Filter.groupDepth).getD 0 ≤ limit * (limit + 1) := by
  match source, kept with
  | none, none => exact ⟨Nat.zero_le _, Nat.zero_le _⟩
  | none, some g =>
      obtain ⟨-, hcharged, hsquare⟩ := hkept g rfl
      show g.groupDepth ≤ _ ∧ 2 * g.groupDepth ≤ _
      omega
  | some f, none =>
      obtain ⟨-, hcharged, hsquare⟩ := hsource f rfl
      show f.groupDepth ≤ _ ∧ 2 * f.groupDepth ≤ _
      omega
  | some f, some g =>
      obtain ⟨hf, hcharged, hsquare⟩ := hsource f rfl
      obtain ⟨hg, hcharged', hsquare'⟩ := hkept g rfl
      have hjoin : Condition.both (some f) (some g) = some (f.join .and g) :=
        Filter.flatten_pair Connective.and hf hg
      have hleft := Filter.groupDepths_spread_le .and f
      have hright := Filter.groupDepths_spread_le .and g
      rw [hjoin, Option.map_some, Option.getD_some, Filter.groupDepth_join]
      omega

theorem Work.groupDepth_le_of_yields {s : Settings} {q : Query} {inView : Option Bool}
    {w : Workspace} {b : Base Condition} (h : Yields (base s q inView) w b) :
    b.groupDepth ≤ s.treeLimit + 1 + q.uncharged ∧
      2 * b.groupDepth ≤ s.treeLimit * (s.treeLimit + 1) := by
  obtain ⟨w', hran⟩ := yields_iff.mp h
  obtain ⟨display, source, slots, w₁, -, hdepth, hsource, hslots, rfl⟩ := parts_of_ran_base hran
  rw [groupDepth_assembled]
  refine groupDepth_both_le (fun f hf => ⟨?_, ?_⟩) (fun f hf => ?_)
  · exact (Source.normal_of_lower q.source hsource f hf).isFull
  · have hroom := Source.room_of_lower hsource (Source.continues_false q.source)
    have hbounds : q.source.outline.Bounds _ 0 f :=
      Source.outlined s.treeLimit q.source hsource (by rw [Source.start_false]; omega)
        (fun _ => rfl) f hf
    rw [Source.start_false] at hbounds
    exact hbounds.nested.mono (Nat.le_max_left _ _)
  · have hkept := (ran_operations q.operations hslots).2.kept
    have htable : w₁.table.depth = 0 := hdepth
    rw [htable] at hkept
    cases hlast : lastClause? q.operations with
    | none =>
        rw [hlast] at hkept
        have hnone : slots.kept = none := hkept
        rw [hnone] at hf
        cases hf
    | some clause =>
        rw [hlast] at hkept
        obtain ⟨c, hc, hsome⟩ := hkept
        rw [hsome] at hf
        obtain rfl := Option.mem_some_iff.mp hf
        have hroom := Expr.room_of_alone hc
        have hbounds : clause.outline.Bounds _ 0 c :=
          Expr.outlined s.treeLimit clause hc (by omega) fun _ => rfl
        rw [Expr.start_alone] at hbounds
        refine ⟨(Expr.normal_of_lower clause hc).isFull, hbounds.nested.mono ?_⟩
        rw [Query.uncharged, hlast]
        exact Nat.le_max_right _ _

/-! ## Queries that attain the square -/

namespace Expr

/-- A predicate that is one text. -/
def tagged : Expr :=
  .call "contains" [.var "tags", .literal (.text "t")]

/-- The other one of the logical operators. -/
def otherOp : BinOp → BinOp
  | .and => .or
  | _ => .and

/-- A chain that changes its operator at each of its links but the last, where an operand stands
that depends on the operator there. -/
def ladder (inside : BinOp → Expr) : (links : Nat) → BinOp → Expr
  | 0, op => .binary op tagged (inside (otherOp op))
  | links + 1, op => .binary op (ladder inside links (otherOp op)) tagged

/-- Ladders inside each other, each with one link less than the one around it. -/
def tower : (floors : Nat) → BinOp → Expr
  | 0, _ => tagged
  | floors + 1, op => ladder (tower floors) (floors + 1) op

/-- The groups of a tower. -/
def towerDepth : (floors : Nat) → Nat
  | 0 => 0
  | floors + 1 => towerDepth floors + (floors + 1) + 1

theorem two_mul_towerDepth (floors : Nat) :
    2 * (towerDepth floors + 1) = (floors + 1) * (floors + 1 + 1) := by
  induction floors with
  | zero => rfl
  | succ floors ih =>
      rw [towerDepth]
      linarith

section Tower

variable {limit depth : Nat} {place : Place} {op : BinOp}

theorem isLogical_otherOp (op : BinOp) : (otherOp op).isLogical = true := by
  cases op <;> rfl

theorem connective_otherOp_ne (hop : op.isLogical = true) :
    connective (otherOp op) ≠ connective op := by
  rcases eq_and_or_of_isLogical hop with rfl | rfl <;> decide

theorem otherOp_otherOp (hop : op.isLogical = true) : otherOp (otherOp op) = op := by
  rcases eq_and_or_of_isLogical hop with rfl | rfl <;> rfl

theorem lower_tagged (place : Place) (h : depth + 1 ≤ limit) :
    lower limit place depth tagged = .ok (.leaf "file.hasTag(\"t\")") := by
  have hc : continues place tagged = false := by cases place <;> rfl
  refine lower_of_lowerNode ?_ rfl
  rw [start_of_not_continues hc]
  exact h

theorem isPredicate_tagged : tagged.isPredicate = true := by
  decide

theorem exists_ladder (inside : BinOp → Expr) (links : Nat) (op : BinOp) :
    ∃ left right, ladder inside links op = .binary op left right := by
  cases links <;> exact ⟨_, _, rfl⟩

theorem operatorChanges_ladder (inside : BinOp → Expr) (links : Nat) (hop : op.isLogical = true) :
    (ladder inside links op).operatorChanges = links := by
  induction links generalizing op with
  | zero => rfl
  | succ links ih =>
      have hne : op ≠ otherOp op := fun heq => connective_otherOp_ne hop (by rw [← heq])
      have hrest := ih (isLogical_otherOp op)
      obtain ⟨left, right, hladder⟩ := exists_ladder inside links (otherOp op)
      rw [hladder] at hrest
      rw [ladder, hladder, operatorChanges, hop, isLogical_otherOp, if_neg hne, hrest]
      rfl

/-- Two operands, one of them a predicate, form a group around the deeper one of them. -/
theorem exists_lower_pair {left right : Expr} {value rightValue : Condition}
    (hop : op.isLogical = true) (hpred : (left.isPredicate || right.isPredicate) = true)
    (hroom : start place depth (.binary op left right) +
      (binary op left right).operatorChanges ≤ limit)
    (hleft : lower limit .logical (start place depth (.binary op left right)) left = .ok value)
    (hright : lower limit .alone (start place depth (.binary op left right)) right =
      .ok rightValue)
    (hvalue : value.isGroupOf (connective op) = false)
    (hrightValue : rightValue.isGroupOf (connective op) = false) :
    ∃ c, lower limit place depth (.binary op left right) = .ok c ∧
      c.groupDepth = max value.groupDepth rightValue.groupDepth + 1 ∧
      c.isGroupOf (connective op) = true := by
  refine ⟨(member left value).join (connective op) (member right rightValue), ?_, ?_,
    beq_self_eq_true _⟩
  · have htest : isPredicate (.binary op left right) = true := by
      rw [isPredicate, hop, hpred, Bool.and_self, Bool.or_true]
    have hpair : logicalPair op left right value rightValue =
        (member left value).join (connective op) (member right rightValue) := by
      rw [logicalPair, htest, Bool.true_or, Bool.true_or, if_pos rfl]
    refine lower_of_lowerNode (by omega) ?_
    rw [lowerNode, if_pos hop, checkChain_of_le place hroom, ← hpair]
    exact bind_eq_ok.mpr ⟨(), rfl, bind_eq_ok.mpr ⟨value, hleft,
      bind_eq_ok.mpr ⟨rightValue, hright, rfl⟩⟩⟩
  · rw [Filter.groupDepth_join,
      Filter.groupDepths_spread_of_not_isGroupOf (by rw [isGroupOf_member, hvalue]),
      Filter.groupDepths_spread_of_not_isGroupOf (by rw [isGroupOf_member, hrightValue]),
      groupDepth_member, groupDepth_member]

/-- A ladder has a group for every link, around those of the operand inside. -/
theorem lower_ladder {inside : BinOp → Expr} {d n : Nat}
    (hinside : ∀ op, op.isLogical = true → ∃ c, lower limit .alone d (inside op) = .ok c ∧
      c.groupDepth = n ∧ c.isGroupOf (connective (otherOp op)) = false)
    (links : Nat) (hop : op.isLogical = true)
    (hstart : start place depth (ladder inside links op) = d) (hroom : d + links ≤ limit)
    (hdepth : d + 1 ≤ limit) :
    ∃ c, lower limit place depth (ladder inside links op) = .ok c ∧
      c.groupDepth = n + links + 1 ∧ c.isGroupOf (connective op) = true := by
  have hchanges := operatorChanges_ladder inside links hop
  have hpred : ∀ e, (tagged.isPredicate || isPredicate e) = true :=
    fun e => by rw [isPredicate_tagged, Bool.true_or]
  induction links generalizing op place depth with
  | zero =>
      obtain ⟨c, hc, rfl, hgroup⟩ := hinside (otherOp op) (isLogical_otherOp op)
      rw [otherOp_otherOp hop] at hgroup
      rw [ladder] at hstart hchanges ⊢
      rw [← Nat.zero_max c.groupDepth]
      subst hstart
      exact exists_lower_pair hop (hpred _) (by omega) (lower_tagged .logical hdepth) hc rfl hgroup
  | succ links ih =>
      have hother := isLogical_otherOp op
      obtain ⟨left, right, hladder⟩ := exists_ladder inside links (otherOp op)
      have hcontinues : start .logical d (ladder inside links (otherOp op)) = d := by
        rw [hladder]
        exact start_of_continues hother
      obtain ⟨c, hc, hcdepth, hgroup⟩ := ih hother hcontinues (by omega)
        (operatorChanges_ladder inside links hother)
      rw [ladder] at hstart hchanges ⊢
      have hmax : n + (links + 1) = max c.groupDepth 0 := by rw [hcdepth, Nat.max_zero]; rfl
      rw [hmax]
      subst hstart
      exact exists_lower_pair hop (by rw [Bool.or_comm]; exact hpred _) (by omega) hc
        (lower_tagged .alone hdepth) (Filter.isGroupOf_of_ne hgroup (connective_otherOp_ne hop)) rfl

theorem lower_tower (floors : Nat) (hop : op.isLogical = true) (h : depth + floors + 1 ≤ limit) :
    ∃ c, lower limit .alone depth (tower floors op) = .ok c ∧
      c.groupDepth = towerDepth floors ∧ c.isGroupOf (connective (otherOp op)) = false := by
  induction floors generalizing depth op with
  | zero => exact ⟨_, lower_tagged .alone h, rfl, rfl⟩
  | succ floors ih =>
      obtain ⟨c, hc, hdepth, hgroup⟩ := lower_ladder (fun op hop => ih hop (by omega))
        (floors + 1) hop (start_alone depth (ladder (tower floors) (floors + 1) op)) (by omega)
        (by omega)
      exact ⟨c, hc, hdepth, Filter.isGroupOf_of_ne hgroup (connective_otherOp_ne hop).symm⟩

end Tower

end Expr

/-- A query whose clause is a tower, and whose source is a tag. -/
def towerQuery (floors : Nat) : Query where
  header := .table [] false
  source := .tag "t"
  operations := [.keep (Expr.tower floors .or)]

/-- A tower fits a limit of one level for each floor and one more, and its groups attain the
square. -/
theorem Work.yields_towerQuery {s : Settings} {floors : Nat} (hlimit : s.treeLimit = floors + 1) :
    ∃ b, Yields (base s (towerQuery floors) none) {} b ∧
      2 * b.groupDepth = s.treeLimit * (s.treeLimit + 1) := by
  have htower : ∃ c, Expr.lower s.treeLimit .alone 0 (Expr.tower floors .or) = .ok c ∧
      c.groupDepth = Expr.towerDepth floors ∧ c.isGroupOf .and = false :=
    Expr.lower_tower floors rfl (by omega)
  obtain ⟨c, hc, hdepth, hgroup⟩ := htower
  have hsource : (towerQuery floors).source.condition s.treeLimit 0 =
      .ok (some (Source.fileCall "hasTag" "t")) := by
    show Source.lower s.treeLimit false 0 (.tag "t") = _
    rw [Source.lower, descend_bind_eq_ok]
    exact ⟨by omega, rfl⟩
  refine ⟨_, yields_base_iff.mpr
    ⟨[], _, {}, rfl, hsource, [.kept c], .cons (.keep hc) .nil, rfl⟩, ?_⟩
  have hjoin : Condition.both (some (Source.fileCall "hasTag" "t")) (some c) =
      some ((Source.fileCall "hasTag" "t").join .and c) :=
    Filter.flatten_pair Connective.and rfl (Expr.normal_of_lower _ hc).isFull
  have hgroups : ((Source.fileCall "hasTag" "t").join .and c).groupDepth =
      Expr.towerDepth floors + 1 := by
    rw [Filter.groupDepth_join, Filter.groupDepths_spread_of_not_isGroupOf hgroup, hdepth]
    exact congrArg (· + 1) (Nat.zero_max _)
  rw [groupDepth_assembled]
  show 2 * ((Condition.both _ (some c)).map Filter.groupDepth).getD 0 = _
  rw [hjoin, Option.map_some, Option.getD_some, hgroups, Expr.two_mul_towerDepth, hlimit]

theorem Work.exists_yields_square {s : Settings} (hlimit : 0 < s.treeLimit) :
    ∃ q b, Yields (base s q none) {} b ∧ 2 * b.groupDepth = s.treeLimit * (s.treeLimit + 1) := by
  obtain ⟨floors, hfloors⟩ : ∃ floors, s.treeLimit = floors + 1 := ⟨s.treeLimit - 1, by omega⟩
  exact ⟨towerQuery floors, yields_towerQuery hfloors⟩

/-- The filters of a base have at most one group inside another for each level of the limit, one for
the meeting of source and clause, and those that the limit is not charged; and at most as many as
the square of the limit allows, which some query attains.  So the levels and one more are enough for
all queries only if the limit is two or less. -/
theorem nesting_of_filters (s : Settings) :
    (∀ (q : Query) (inView : Option Bool) (w : Workspace) (b : Base Condition),
      Work.Yields (Work.base s q inView) w b →
        b.groupDepth ≤ s.treeLimit + 1 + q.uncharged ∧
          2 * b.groupDepth ≤ s.treeLimit * (s.treeLimit + 1)) ∧
      (0 < s.treeLimit → ∃ q b, Work.Yields (Work.base s q none) {} b ∧
        2 * b.groupDepth = s.treeLimit * (s.treeLimit + 1)) ∧
      ((∀ (q : Query) (inView : Option Bool) (w : Workspace) (b : Base Condition),
        Work.Yields (Work.base s q inView) w b → b.groupDepth ≤ s.treeLimit + 1) ↔
          s.treeLimit ≤ 2) := by
  refine ⟨fun q inView w b h => Work.groupDepth_le_of_yields h, Work.exists_yields_square, ?_⟩
  constructor
  · intro hall
    by_contra hlimit
    obtain ⟨q, b, hb, hattained⟩ := Work.exists_yields_square (s := s) (by omega)
    have hdepth := hall q none {} b hb
    have hsquare : 3 * (s.treeLimit + 1) ≤ s.treeLimit * (s.treeLimit + 1) :=
      Nat.mul_le_mul_right _ (by omega)
    omega
  · intro hlimit q inView w b hb
    have hdepth := (Work.groupDepth_le_of_yields hb).2
    have hsquare : s.treeLimit * (s.treeLimit + 1) ≤ 2 * (s.treeLimit + 1) :=
      Nat.mul_le_mul_right _ hlimit
    omega

/-- A chain that changes its operator three times above a negation of a negation. -/
def steepClause : Expr :=
  .binary .or (.binary .and (.binary .or (.binary .and
    (.negated (.negated (.var "a"))) (.var "b")) (.var "c")) (.var "d")) (.var "e")

/-- The condition of `steepClause`. -/
def steepCondition : Condition :=
  .group .or [.group .and [.group .or [.group .and [.group .not [.group .not [.leaf "a"]],
    .leaf "b"], .leaf "c"], .leaf "d"], .leaf "e"]

/-- A query with this clause. -/
def steepQuery : Query where
  header := .table [] false
  operations := [.keep steepClause]

/-- Four levels are enough for six groups. -/
theorem nesting_of_filters_steep :
    Work.Yields (Work.base { treeLimit := 4 } steepQuery none) {}
        { views := [{ filters := some steepCondition }] } ∧
      steepCondition.groupDepth = 6 ∧ steepQuery.uncharged = 3 ∧
      ({ views := [{ filters := some steepCondition }] } : Base Condition).groupDepth ≤
        4 + 1 + steepQuery.uncharged ∧
      ∃ q b, Work.Yields (Work.base { treeLimit := 4 } q none) {} b ∧
        2 * b.groupDepth = 4 * (4 + 1) := by
  have hyields : Work.Yields (Work.base { treeLimit := 4 } steepQuery none) {}
      { views := [{ filters := some steepCondition }] } := rfl
  refine ⟨hyields, by decide, by decide, ?_, ?_⟩
  · exact ((nesting_of_filters { treeLimit := 4 }).1 steepQuery none {} _ hyields).1
  · exact (nesting_of_filters { treeLimit := 4 }).2.1 (by decide)

end VaultQuery
