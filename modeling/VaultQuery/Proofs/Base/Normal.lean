import VaultQuery.Proofs.Base.Build
import VaultQuery.Proofs.Expr.Truth
import VaultQuery.Proofs.Source.Truth

/-!
The filter of a base is in normal form: a negation has one member, a conjunction or disjunction has
at least two, and no member is a group under the connective of its own group.  Joining keeps the
form (`Normal.join`), and so it survives every way in which a filter comes about: chains of sources,
chains of expressions, negations, and the meeting of a source with a clause.
-/

namespace VaultQuery

/-- A group under a given connective. -/
def Filter.isGroupOf {κ α : Type} [DecidableEq κ] (c : κ) : Filter κ α → Bool
  | .leaf _ => false
  | .group k _ => k == c

namespace Condition

/-- Filters in normal form. -/
inductive Normal : Condition → Prop
  | leaf (text : String) : Normal (.leaf text)
  | not {f : Condition} : Normal f → Normal (.group .not [f])
  | group {c : Connective} {members : List Condition} : c ≠ .not → 2 ≤ members.length →
      (∀ f ∈ members, Normal f) → (∀ f ∈ members, f.isGroupOf c = false) →
      Normal (.group c members)

theorem Normal.isFull {f : Condition} (h : Normal f) : f.isFull = true := by
  cases h with
  | leaf text => rfl
  | not _ => rfl
  | @group c members _ hlength _ _ =>
      cases members with
      | nil => exact absurd hlength (by decide)
      | cons f fs => rfl

/-- What a filter in normal form adds to a group may stand in that group. -/
theorem Normal.spread {c : Connective} (hc : c ≠ .not) {f : Condition} (h : Normal f) :
    0 < (f.spread c).length ∧ ∀ g ∈ f.spread c, Normal g ∧ g.isGroupOf c = false := by
  cases h with
  | leaf text =>
      refine ⟨Nat.one_pos, fun g hg => ?_⟩
      obtain rfl := List.mem_singleton.mp hg
      exact ⟨.leaf text, rfl⟩
  | @not f hf =>
      have hself : Filter.spread c (.group .not [f]) = [.group .not [f]] := if_neg hc.symm
      rw [hself]
      refine ⟨Nat.one_pos, fun g hg => ?_⟩
      obtain rfl := List.mem_singleton.mp hg
      exact ⟨.not hf, beq_false_of_ne hc.symm⟩
  | @group k members hk hlength hnormal hother =>
      by_cases hkc : k = c
      · subst hkc
        have hmembers : Filter.spread k (.group k members) = members := if_pos rfl
        rw [hmembers]
        exact ⟨Nat.lt_of_lt_of_le Nat.zero_lt_two hlength,
          fun g hg => ⟨hnormal g hg, hother g hg⟩⟩
      · have hself : Filter.spread c (.group k members) = [.group k members] := if_neg hkc
        rw [hself]
        refine ⟨Nat.one_pos, fun g hg => ?_⟩
        obtain rfl := List.mem_singleton.mp hg
        exact ⟨.group hk hlength hnormal hother, beq_false_of_ne hkc⟩

theorem Normal.join {c : Connective} (hc : c ≠ .not) {f g : Condition} (hf : Normal f)
    (hg : Normal g) : Normal (f.join c g) := by
  obtain ⟨hfpos, hfmembers⟩ := hf.spread hc
  obtain ⟨hgpos, hgmembers⟩ := hg.spread hc
  have hmembers : ∀ x ∈ f.spread c ++ g.spread c, Normal x ∧ x.isGroupOf c = false := by
    intro x hx
    rcases List.mem_append.mp hx with hx | hx
    · exact hfmembers x hx
    · exact hgmembers x hx
  refine .group hc ?_ (fun x hx => (hmembers x hx).1) (fun x hx => (hmembers x hx).2)
  rw [List.length_append]
  omega

end Condition

open Condition (Normal)

/-! ## Sources -/

namespace Source

theorem both_eq_joinOptional (f g : Option Condition) :
    Condition.both f g = joinOptional .and f g := by
  cases f <;> cases g <;> rfl

/-- Two conditions, each of which may be missing, are joined into one in normal form. -/
theorem normal_joinOptional {c : Connective} (hc : c ≠ .not) {f g : Option Condition}
    (hf : ∀ x ∈ f, Normal x) (hg : ∀ x ∈ g, Normal x) : ∀ x ∈ joinOptional c f g, Normal x := by
  intro x hx
  match f, g with
  | none, g => exact hg x hx
  | some f, none => exact hf x hx
  | some f, some g =>
      have hjoin : joinOptional c (some f) (some g) = some (f.join c g) :=
        Filter.flatten_pair c (hf f rfl).isFull (hg g rfl).isFull
      rw [hjoin] at hx
      obtain rfl := Option.mem_some_iff.mp hx
      exact (hf f rfl).join hc (hg g rfl)

theorem normal_of_lower {limit : Nat} (s : Source) {inChain : Bool} {depth : Nat}
    {r : Option Condition} (h : lower limit inChain depth s = .ok r) : ∀ f ∈ r, Normal f := by
  have hcall : ∀ function argument, ∀ f ∈ some (fileCall function argument), Normal f := by
    intro function argument f hf
    obtain rfl := Option.mem_some_iff.mp hf
    exact .leaf _
  induction s generalizing inChain depth r with
  | folder path =>
      rw [lower, descend_bind_eq_ok] at h
      obtain rfl := Except.ok.inj h.2
      split
      case isTrue => simp
      case isFalse => exact hcall "inFolder" path
  | tag _ | link _ =>
      rw [lower, descend_bind_eq_ok] at h
      obtain rfl := Except.ok.inj h.2
      exact hcall _ _
  | everything =>
      rw [lower, descend_bind_eq_ok] at h
      obtain rfl := Except.ok.inj h.2
      simp
  | foreign node =>
      rw [lower, descend_bind_eq_ok] at h
      cases h.2
  | negated child ih =>
      obtain ⟨-, inner, hinner, rfl⟩ := lower_negated_eq_ok.mp h
      intro f hf
      obtain ⟨g, rfl, rfl⟩ := Option.map_eq_some_iff.mp hf
      exact .not (ih hinner g rfl)
  | joined joint left right ihl ihr =>
      obtain ⟨c, hj⟩ := connective?_of_lower h
      obtain ⟨-, value, rightValue, hv, hw, rfl⟩ := (lower_joined_eq_ok hj).mp h
      exact normal_joinOptional (connective?_ne_not hj) (ihl hv) (ihr hw)

end Source

/-! ## Expressions -/

namespace Expr

theorem normal_member (e : Expr) {value : Condition} (h : Normal value) :
    Normal (member e value) := by
  cases value with
  | group c members => exact h
  | leaf text =>
      show Normal (if e.isLogical then _ else _)
      split
      case isTrue => exact .leaf _
      case isFalse => exact h

theorem normal_of_lower {limit : Nat} (e : Expr) {place : Place} {depth : Nat} {c : Condition}
    (h : lower limit place depth e = .ok c) : Normal c := by
  match e with
  | .negated child =>
      obtain ⟨value, hv, rfl⟩ := of_lower_negated h
      exact .not (normal_of_lower child hv)
  | .binary op left right =>
      cases hop : op.isLogical with
      | false =>
          obtain ⟨text, rfl⟩ := leaf_of_lower (e := .binary op left right) rfl hop h
          exact .leaf text
      | true =>
          obtain ⟨value, rightValue, hv, hw, rfl⟩ := of_lower_logical hop h
          have hleft := normal_member left (normal_of_lower left hv)
          have hright := normal_member right (normal_of_lower right hw)
          rw [logicalPair]
          split
          case isTrue => exact hleft.join (connective_ne_not op) hright
          case isFalse => exact .leaf _
  | .var _ | .literal _ | .index _ _ | .call _ _ | .list _ | .foreign _ =>
      obtain ⟨text, rfl⟩ := leaf_of_lower rfl rfl h
      exact .leaf text

/-- An expression becomes a group exactly if it is a negation, or a conjunction or disjunction that
is a predicate. -/
theorem isGroup_iff_of_lower {limit : Nat} {e : Expr} {place : Place} {depth : Nat} {c : Condition}
    (h : lower limit place depth e = .ok c) :
    c.isGroup = true ↔ e.isNegated = true ∨ e.isLogical = true ∧ e.isPredicate = true := by
  constructor
  · intro hc
    cases hnot : e.isNegated with
    | true => exact .inl rfl
    | false =>
        refine .inr ⟨?_, isPredicate_of_lower e h hc⟩
        cases hlogical : e.isLogical with
        | true => rfl
        | false =>
            obtain ⟨text, rfl⟩ := leaf_of_lower hnot hlogical h
            cases hc
  · rintro (hnot | ⟨hlogical, hpred⟩)
    · cases e with
      | negated child =>
          obtain ⟨value, -, rfl⟩ := of_lower_negated h
          rfl
      | _ => cases hnot
    · cases e with
      | binary op left right =>
          obtain ⟨value, rightValue, -, -, rfl⟩ := of_lower_logical hlogical h
          rw [logicalPair, hpred]
          rfl
      | _ => cases hlogical

end Expr

/-! ## Bases -/

/-- The filters of a base and of its views. -/
def Base.emitted (b : Base Condition) : List Condition :=
  b.filters.toList ++ b.views.filterMap (·.filters)

/-- Every filter of a base is in normal form, and a field becomes a group exactly if it is a
negation, or a conjunction or disjunction that is a predicate. -/
theorem emitted_filters_normal :
    (∀ (s : Settings) (q : Query) (inView : Option Bool) (w w' : Workspace) (b : Base Condition),
      Work.Ran (Work.base s q inView) w b w' → ∀ f ∈ b.emitted, f.Normal) ∧
    ∀ (limit depth : Nat) (e : Expr) (c : Condition), e.condition limit depth = .ok c →
      (c.isGroup = true ↔ e.isNegated = true ∨ e.isLogical = true ∧ e.isPredicate = true) := by
  refine ⟨?_, fun limit depth e c h => Expr.isGroup_iff_of_lower h⟩
  intro s q inView w w' b h f hf
  obtain ⟨display, source, slots, w₁, -, hdepth, hsource, hslots, rfl⟩ := Work.parts_of_ran_base h
  have hkept : ∀ g ∈ slots.kept, g.Normal := by
    have hkept := (Work.ran_operations q.operations hslots).2.kept
    intro g hg
    cases hlast : Work.lastClause? q.operations with
    | none =>
        rw [hlast] at hkept
        have hnone : slots.kept = none := hkept
        rw [hnone] at hg
        cases hg
    | some clause =>
        rw [hlast] at hkept
        obtain ⟨c, hc, hsome⟩ := hkept
        rw [hsome] at hg
        obtain rfl := Option.mem_some_iff.mp hg
        exact Expr.normal_of_lower clause hc
  have hboth := Source.normal_joinOptional (c := .and) (by decide)
    (Source.normal_of_lower q.source hsource) hkept
  rw [← Source.both_eq_joinOptional] at hboth
  apply hboth
  -- the filter stands either with the view or with the base
  cases hview : inView.getD s.filtersInView with
  | true => simpa [Base.emitted, Work.assembled, hview] using hf
  | false => simpa [Base.emitted, Work.assembled, hview] using hf

/-- A clause that is a chain of conjunctions with a negation and a disjunction in it. -/
def chainedClause : Expr :=
  .binary .and
    (.binary .and (.binary .gt (.var "x") (.literal (.number (.int 1)))) (.negated (.var "done")))
    (.binary .or (.binary .eq (.var "y") (.var "z")) (.binary .or (.var "a") (.var "b")))

/-- A query whose source and clause are both conjunctions. -/
def chainedQuery : Query where
  header := .table [] false
  source := .joined .and (.tag "t") (.negated (.tag "u"))
  operations := [.keep chainedClause]

/-- The condition of `chainedClause`. -/
def chainedCondition : Condition :=
  .group .and [.leaf "x > 1", .group .not [.leaf "done"],
    .group .or [.leaf "y == z", .leaf "(a || b)"]]

/-- The filter of `chainedQuery`. -/
def chainedFilter : Condition :=
  .group .and [.leaf "file.hasTag(\"t\")", .group .not [.leaf "file.hasTag(\"u\")"], .leaf "x > 1",
    .group .not [.leaf "done"], .group .or [.leaf "y == z", .leaf "(a || b)"]]

theorem emitted_filters_normal_chained :
    Work.Ran (Work.base {} chainedQuery none) {}
        { views := [{ filters := some chainedFilter }] } {} ∧
      chainedFilter.Normal ∧
      chainedClause.condition 200 0 = .ok chainedCondition ∧
      (chainedCondition.isGroup = true ↔ chainedClause.isNegated = true ∨
        chainedClause.isLogical = true ∧ chainedClause.isPredicate = true) :=
  ⟨rfl, emitted_filters_normal.1 {} chainedQuery none {} {} _ rfl chainedFilter List.mem_cons_self,
    rfl, emitted_filters_normal.2 200 0 chainedClause chainedCondition rfl⟩

end VaultQuery
