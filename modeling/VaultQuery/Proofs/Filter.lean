import VaultQuery.Filter

/-!
The truth of a filter under an assignment of truth values to its conditions, and that joining
filters keeps it: a group is as true as the filters that were joined, however they were flattened.
-/

namespace VaultQuery

/-- The truth value of a group from those of its members; a negation negates them all together. -/
def Connective.value : Connective → List Bool → Bool
  | .and, bs => bs.all id
  | .or, bs => bs.any id
  | .not, bs => !bs.all id

/-- The truth value of two operands. -/
def Connective.pair (c : Connective) (a b : Bool) : Bool :=
  c.value [a, b]

namespace Filter

variable {κ α : Type}

/-- A condition, or a group that has members. -/
def isFull : Filter κ α → Bool
  | .leaf _ => true
  | .group _ members => !members.isEmpty

theorem spread_ne_nil [DecidableEq κ] (c : κ) {f : Filter κ α} (h : f.isFull = true) :
    f.spread c ≠ [] := by
  cases f with
  | leaf a => simp [spread]
  | group k members =>
      have hne : members ≠ [] := by simpa [isFull] using h
      rw [spread]
      split
      case isTrue => exact hne
      case isFalse => simp

theorem isFull_join [DecidableEq κ] (c : κ) {f : Filter κ α} (hf : f.isFull = true)
    (g : Filter κ α) : (f.join c g).isFull = true := by
  have hne := spread_ne_nil c hf
  simp [join, isFull, hne]

/-- Two filters that are both there are joined into one group. -/
theorem flatten_pair [DecidableEq κ] (c : κ) {f g : Filter κ α} (hf : f.isFull = true)
    (hg : g.isFull = true) : flatten c [some f, some g] = some (f.join c g) := by
  obtain ⟨a, as, ha⟩ := List.exists_cons_of_ne_nil (spread_ne_nil c hf)
  obtain ⟨b, bs, hb⟩ := List.exists_cons_of_ne_nil (spread_ne_nil c hg)
  have hitems : ([some f, some g].flatMap fun item => (item.map (spread c)).getD []) =
      f.spread c ++ g.spread c := by
    simp
  rw [flatten, hitems, join, ha, hb]
  cases as <;> rfl

end Filter

namespace Condition

mutual

/-- The truth value of a filter when every condition has the truth value that `v` gives it. -/
def holds (v : String → Bool) : Condition → Bool
  | .leaf text => v text
  | .group c members => c.value (holdsEach v members)

/-- The truth value of each of several filters. -/
def holdsEach (v : String → Bool) : List Condition → List Bool
  | [] => []
  | f :: fs => holds v f :: holdsEach v fs

end

theorem holdsEach_eq_map (v : String → Bool) (fs : List Condition) :
    holdsEach v fs = fs.map (holds v) := by
  induction fs with
  | nil => rfl
  | cons f fs ih => rw [holdsEach, ih, List.map_cons]

/-- The members that a filter adds to a group are together as true as the filter. -/
theorem value_spread (v : String → Bool) {c : Connective} (hc : c ≠ .not) (f : Condition) :
    c.value ((f.spread c).map (holds v)) = holds v f := by
  cases f with
  | leaf text => cases c <;> simp [Filter.spread, Connective.value] at hc ⊢
  | group k members =>
      by_cases hk : k = c
      · subst hk
        rw [Filter.spread, if_pos rfl, holds, holdsEach_eq_map]
      · rw [Filter.spread, if_neg hk]
        cases c <;> simp [Connective.value] at hc ⊢

theorem holds_join (v : String → Bool) {c : Connective} (hc : c ≠ .not) (f g : Condition) :
    holds v (f.join c g) = c.pair (holds v f) (holds v g) := by
  rw [Filter.join, holds, holdsEach_eq_map, List.map_append, ← value_spread v hc f,
    ← value_spread v hc g]
  cases c <;> simp [Connective.value, Connective.pair] at hc ⊢

end Condition

end VaultQuery
