import VaultQuery.Proofs.Base.Build
import VaultQuery.Proofs.Expr.Truth
import VaultQuery.Proofs.Source.Truth

/-!
The filter of a base means what the source and the clause of the query mean together.
-/

namespace VaultQuery

/-! ## Sources that restrict -/

/-- A source in which no folder is without a path, and nothing stands for every page. -/
def Source.isRestrictive : Source → Bool
  | .folder path => !path.isEmpty
  | .negated child => isRestrictive child
  | .joined _ left right => isRestrictive left && isRestrictive right
  | .everything => false
  | _ => true

theorem Source.restriction_of_isRestrictive {s : Source} (h : s.isRestrictive = true) :
    s.restriction = some s := by
  induction s with
  | folder path =>
      have hpath : path.isEmpty = false := by simpa [isRestrictive] using h
      rw [restriction, hpath]
      rfl
  | negated child ih =>
      rw [restriction, ih h]
      rfl
  | joined joint left right ihl ihr =>
      simp only [isRestrictive, Bool.and_eq_true] at h
      rw [restriction, ihl h.1, ihr h.2]
      rfl
  | everything => cases h
  | _ => rfl

/-! ## The whole query -/

/-- The truth value of the last clause that keeps pages; a query without one keeps them all. -/
def Query.clauseTruth? (limit : Nat) (v : String → Bool) (q : Query) : Option Bool :=
  match Work.lastClause? q.operations with
  | some clause => clause.truth? limit v
  | none => some true

/-- The filter of a base is as true as the source and the clause of its query together. -/
theorem filter_holds_as_query {s : Settings} {q : Query} {inView : Option Bool}
    {b : Base Condition} {w w' : Workspace} {v : String → Bool}
    (hparen : ∀ text, v ("(" ++ text ++ ")") = v text)
    (hsource : q.source.isRestrictive = true) (h : Work.Ran (Work.base s q inView) w b w') :
    ∃ f m, b.combined = some f ∧ q.clauseTruth? s.treeLimit v = some m ∧
      f.holds v = (q.source.holds v && m) := by
  obtain ⟨r, kept, hcondition, hkept, hcombined⟩ := Work.ran_base h
  obtain ⟨hholds, hfull⟩ := Source.lower_holds v q.source hcondition
  rw [Source.restriction_of_isRestrictive hsource, Option.map_some] at hholds
  obtain ⟨f, rfl, hf⟩ := Option.map_eq_some_iff.mp hholds
  rw [hcombined, Query.clauseTruth?]
  cases hlast : Work.lastClause? q.operations with
  | none =>
      rw [hlast] at hkept
      obtain rfl : kept = none := hkept
      exact ⟨f, true, rfl, rfl, by rw [hf, Bool.and_true]⟩
  | some clause =>
      rw [hlast] at hkept
      obtain ⟨c, hc, rfl⟩ := hkept
      have hroom := Expr.room_of_lower hc (by cases clause <;> rfl)
      rw [Expr.start_alone] at hroom
      have htruth := Expr.lower_truth hparen clause hc (by simp) (by omega)
      have hboth : Condition.both (some f) (some c) = some (f.join .and c) :=
        Filter.flatten_pair Connective.and (hfull f rfl) (Expr.isFull_of_lower clause hc)
      refine ⟨f.join .and c, c.holds v, hboth, htruth, ?_⟩
      rw [Condition.holds_join v (by decide), hf]
      simp [Connective.pair, Connective.value]

/-- A query with a disjunction on each side. -/
def draftQuery : Query where
  header := .table [] false
  source := .joined .or (.folder "a") (.negated (.tag "t"))
  operations := [.keep (.binary .or
    (.binary .and (.binary .gt (.var "x") (.literal (.number (.int 1))))
      (.binary .or (.var "y") (.var "z")))
    (.negated (.var "done")))]

/-- The filter of `draftQuery`. -/
def draftFilter : Condition :=
  .group .and [
    .group .or [.leaf "file.inFolder(\"a\")", .group .not [.leaf "file.hasTag(\"t\")"]],
    .group .or [.group .and [.leaf "x > 1", .leaf "(y || z)"], .group .not [.leaf "done"]]]

/-- The texts in which the letter `x` stands. -/
def mentionsX (text : String) : Bool :=
  text.toList.contains 'x'

theorem filter_holds_as_query_draft :
    (∀ text, mentionsX ("(" ++ text ++ ")") = mentionsX text) ∧
      draftQuery.source.isRestrictive = true ∧
      Work.Ran (Work.base {} draftQuery none) {} { views := [{ filters := some draftFilter }] } {} ∧
      ∃ f m, Base.combined { views := [{ filters := some draftFilter }] } = some f ∧
        draftQuery.clauseTruth? 200 mentionsX = some m ∧
        f.holds mentionsX = (draftQuery.source.holds mentionsX && m) := by
  have hparen : ∀ text, mentionsX ("(" ++ text ++ ")") = mentionsX text := by
    intro text
    simp [mentionsX]
  exact ⟨hparen, rfl, rfl,
    @filter_holds_as_query {} draftQuery none _ {} {} mentionsX hparen rfl rfl⟩

end VaultQuery
