import VaultQuery.Proofs.Expr.Lower
import VaultQuery.Source.Lower

/-!
What the lowering of a source does, node by node, and that its result does not depend on where the
source stands.
-/

namespace VaultQuery.Source

/-! ## Depth -/

/-- Whether a source continues the chain it stands in, and so costs no level of its own. -/
def continues (inChain : Bool) : Source → Bool
  | .joined joint _ _ => inChain && (connective? joint).isSome
  | _ => false

/-- The depth at which a source is worked on, without regard to the limit. -/
def start (inChain : Bool) (depth : Nat) (s : Source) : Nat :=
  if continues inChain s then depth else depth + 1

theorem start_of_continues {inChain : Bool} {depth : Nat} {s : Source}
    (h : continues inChain s = true) : start inChain depth s = depth := by
  simp [start, h]

theorem start_of_not_continues {inChain : Bool} {depth : Nat} {s : Source}
    (h : continues inChain s = false) : start inChain depth s = depth + 1 := by
  simp [start, h]

theorem continues_false (s : Source) : continues false s = false := by
  cases s <;> rfl

@[simp] theorem start_false (depth : Nat) (s : Source) : start false depth s = depth + 1 :=
  start_of_not_continues (continues_false s)

theorem le_start (inChain : Bool) (depth : Nat) (s : Source) : depth ≤ start inChain depth s := by
  unfold start
  split <;> omega

theorem start_mono (inChain : Bool) {depth depth' : Nat} (h : depth' ≤ depth) (s : Source) :
    start inChain depth' s ≤ start inChain depth s := by
  unfold start
  split <;> omega

theorem jointChanges_left_le {joint : Joint} (hj : (connective? joint).isSome = true)
    (left right : Source) : left.jointChanges ≤ (joined joint left right).jointChanges := by
  cases left with
  | joined k l r =>
      cases hk : (connective? k).isSome with
      | true =>
          simp only [jointChanges, hj, hk, Bool.and_self, if_true]
          omega
      | false =>
          have hzero : (joined k l r).jointChanges = 0 := by cases l <;> simp [jointChanges, hk]
          rw [hzero]
          exact Nat.zero_le _
  | _ => exact Nat.zero_le _

/-! ## Nodes -/

section Nodes

variable {limit depth : Nat} {inChain : Bool} {r : Option Condition}

theorem lower_negated_eq_ok {child : Source} :
    lower limit inChain depth (.negated child) = .ok r ↔
      depth + 1 ≤ limit ∧ ∃ inner, lower limit false (depth + 1) child = .ok inner ∧
        r = inner.map fun f => .group .not [f] := by
  rw [lower, descend_bind_eq_ok, bind_eq_ok]
  refine and_congr_right fun _ => exists_congr fun inner => and_congr_right fun _ => ?_
  exact ⟨fun h => (Except.ok.inj h).symm, fun h => h ▸ rfl⟩

theorem connective?_of_lower {joint : Joint} {left right : Source}
    (h : lower limit inChain depth (.joined joint left right) = .ok r) :
    ∃ c, connective? joint = some c := by
  rw [lower] at h
  cases hc : connective? joint with
  | some c => exact ⟨c, rfl⟩
  | none =>
      simp only [hc, Option.isSome_none, Bool.and_false, Bool.false_eq_true, if_false,
        descend_bind_eq_ok] at h
      obtain ⟨-, h⟩ := h
      split at h <;> cases h

theorem lower_joined_eq_ok {joint : Joint} {c : Connective} (hc : connective? joint = some c)
    {left right : Source} :
    lower limit inChain depth (.joined joint left right) = .ok r ↔
      (continues inChain (.joined joint left right) = false →
        depth + 1 + (joined joint left right).jointChanges ≤ limit) ∧
      ∃ value rightValue,
        lower limit true (start inChain depth (.joined joint left right)) left = .ok value ∧
        lower limit false (start inChain depth (.joined joint left right)) right =
          .ok rightValue ∧
        r = joinOptional c value rightValue := by
  have hpair : ∀ d : Nat,
      (lower limit true d left >>= fun value => lower limit false d right >>= fun rightValue =>
        (pure (joinOptional c value rightValue) : Except Fault (Option Condition))) = .ok r ↔
      ∃ value rightValue, lower limit true d left = .ok value ∧
        lower limit false d right = .ok rightValue ∧ r = joinOptional c value rightValue := by
    intro d
    simp only [bind_eq_ok]
    constructor
    · rintro ⟨value, hv, rightValue, hw, h⟩
      exact ⟨value, rightValue, hv, hw, (Except.ok.inj h).symm⟩
    · rintro ⟨value, rightValue, hv, hw, rfl⟩
      exact ⟨value, hv, rightValue, hw, rfl⟩
  rw [lower]
  cases inChain with
  | true =>
      simp only [continues, start, hc, Option.isSome_some, Bool.and_self, if_true, Bool.not_true,
        Bool.false_and, Bool.false_eq_true, if_false, Bool.true_eq_false, false_implies, true_and]
      exact hpair depth
  | false =>
      simp only [continues, start, hc, Option.isSome_some, Bool.false_and, Bool.false_eq_true,
        if_false, Bool.not_false, Bool.true_and, decide_eq_true_eq, descend_bind_eq_ok,
        true_implies]
      by_cases hroom : limit < depth + 1 + (joined joint left right).jointChanges
      · rw [if_pos hroom]
        constructor
        · rintro ⟨-, h⟩
          cases h
        · rintro ⟨hle, -⟩
          omega
      · rw [if_neg hroom, hpair (depth + 1)]
        exact and_congr_left fun _ => ⟨fun _ => by omega, fun _ => by omega⟩

end Nodes

/-! ## Places -/

theorem room_of_lower {limit depth : Nat} {inChain : Bool} {s : Source} {r : Option Condition}
    (h : lower limit inChain depth s = .ok r) (hc : continues inChain s = false) :
    depth + 1 + s.jointChanges ≤ limit := by
  cases s with
  | joined joint left right =>
      obtain ⟨c, hj⟩ := connective?_of_lower h
      exact ((lower_joined_eq_ok hj).mp h).1 hc
  | _ =>
      rw [lower, descend_bind_eq_ok] at h
      exact h.1

/-- A child that starts no deeper than it did has the room it had. -/
theorem room_of_child {limit : Nat} {inChain : Bool} {depth depth' : Nat} {s : Source}
    {r : Option Condition} (h : lower limit inChain depth s = .ok r) (hle : depth' ≤ depth)
    (hroom : continues inChain s = true → depth' + s.jointChanges ≤ limit) :
    start inChain depth' s + s.jointChanges ≤ limit := by
  cases hc : continues inChain s with
  | true =>
      rw [start_of_continues hc]
      exact hroom hc
  | false =>
      have hold := room_of_lower h hc
      rw [start_of_not_continues hc]
      omega

/-- A source has the same condition wherever it has no fewer levels left. -/
theorem lower_mono {limit : Nat} (s : Source) {inChain inChain' : Bool} {depth depth' : Nat}
    {r : Option Condition} (h : lower limit inChain depth s = .ok r)
    (hle : start inChain' depth' s ≤ start inChain depth s)
    (hroom : start inChain' depth' s + s.jointChanges ≤ limit) :
    lower limit inChain' depth' s = .ok r := by
  induction s generalizing inChain inChain' depth depth' r with
  | negated child ih =>
      rw [start_of_not_continues rfl] at hle hroom
      rw [start_of_not_continues rfl] at hle
      obtain ⟨-, inner, hinner, rfl⟩ := lower_negated_eq_ok.mp h
      have hchild := ih hinner (start_mono false hle child)
        (room_of_child hinner hle (by simp [continues_false]))
      exact lower_negated_eq_ok.mpr ⟨by omega, inner, hchild, rfl⟩
  | joined joint left right ihl ihr =>
      obtain ⟨c, hj⟩ := connective?_of_lower h
      obtain ⟨-, value, rightValue, hv, hw, rfl⟩ := (lower_joined_eq_ok hj).mp h
      -- The check of the whole chain covers the chain that its left operand is.
      have hsome : (connective? joint).isSome = true := by simp [hj]
      have hchain := jointChanges_left_le hsome left right
      have hleft := ihl hv (start_mono true hle left)
        (room_of_child hv hle fun _ => by omega)
      have hright := ihr hw (start_mono false hle right)
        (room_of_child hw hle (by simp [continues_false]))
      refine (lower_joined_eq_ok hj).mpr ⟨fun hc => ?_, value, rightValue, hleft, hright, rfl⟩
      rwa [start_of_not_continues hc] at hroom
  | _ =>
      rw [start_of_not_continues rfl] at hroom
      rw [lower, descend_bind_eq_ok] at h ⊢
      exact ⟨by omega, h.2⟩

end VaultQuery.Source
