import VaultQuery.Proofs.Expr.Reading

/-!
Access to a property of any expression.  The object of a property is written first, then the point
and the name.  The whole text is passed through the renaming of properties, which knows nothing of
expressions: it writes low lines for the dashes of the object too and drops the blanks before it, so
`rows[i - 1].x` becomes `rows[i _ 1].x`; and a negation gets no parentheses.  For which objects the
access is right, `part_keeps_object_iff` says exactly.
-/

namespace VaultQuery.Expr

open Vocabulary (partName IsUntouched)

/-! ## The text of an object -/

theorem objectText_group (e : Expr) (c : Connective) (members : List Condition) :
    objectText e (.group c members) = Condition.inline (.group c members) := by
  rw [objectText, operand_group, ite_self]

/-- An object is written as it is by itself, or in parentheses. -/
theorem objectText_cases (e : Expr) (value : Condition) :
    objectText e value = value.inline ∨ objectText e value = "(" ++ value.inline ++ ")" := by
  cases value with
  | group c members => exact .inl (objectText_group e c members)
  | leaf text =>
      cases e with
      | binary op left right =>
          simp only [objectText, isIndex, operand, Condition.inline, Bool.false_eq_true, if_false]
          split
          case isTrue => exact .inr rfl
          case isFalse => exact .inl rfl
      | _ => exact .inl rfl

/-- The object of a part is written as a primary, unless it is a negation. -/
theorem exists_written_objectText {limit depth : Nat} {place : Place} {e : Expr}
    (hplain : e.isPlain = true) {raw : Condition} (h : lower limit place depth e = .ok raw)
    (hnot : e.isNegated = false) : ∃ t, Term.Written 0 (objectText e raw) t := by
  have hrenders := lower_renders e hplain h
  suffices hshows : Term.Shows 0 (objectText e raw) (e.term Vocabulary.callName) by
    obtain ⟨t, ht, -⟩ := hshows
    exact ⟨t, ht⟩
  cases raw with
  | group c members =>
      rw [objectText_group]
      refine hrenders.shows_junction ?_
      rintro rfl
      exact absurd (isNegated_of_lower h) (by simp [hnot])
  | leaf text =>
      cases hrenders with
      | leaf hshows =>
          cases e with
          | binary op left right =>
              have hparen : op.precedence < partPrecedence := by
                cases op <;> simp [BinOp.precedence, partPrecedence]
              simp only [objectText, isIndex, operand, hparen, decide_true, Bool.true_or, if_true,
                Bool.false_eq_true, if_false]
              exact hshows.paren (rank_le_loosest hplain)
          | _ => exact hshows

/-- The object of a part binds as tightly as the part does exactly if it is no negation. -/
theorem objectText_written_iff {limit depth : Nat} {place : Place} {e : Expr}
    (hplain : e.isPlain = true) {raw : Condition} (h : lower limit place depth e = .ok raw) :
    ∃ t, Term.read? raw.inline = some t ∧
      (Term.Written 0 (objectText e raw) t ↔ e.isNegated = false) := by
  obtain ⟨t, ht, -⟩ :=
    (lower_renders e hplain h).shows (rank_le_loosest hplain) (by decide)
  refine ⟨t, Term.read?_eq_some_iff.mpr ht, fun hobject => ?_, fun hnot => ?_⟩
  · cases e with
    | negated child =>
        obtain ⟨value, -, rfl⟩ := of_lower_negated h
        obtain ⟨s, hs, hhead⟩ := Condition.inline_negation [value]
        rw [objectText_group, hs] at hobject
        exact absurd hobject (Term.not_written_of_bang hhead t)
    | _ => rfl
  · rcases objectText_cases e raw with heq | heq
    · obtain ⟨u, hu⟩ := exists_written_objectText hplain h hnot
      rw [heq] at hu ⊢
      rwa [ht.unique (Nat.le_refl _) (Nat.zero_le _) hu]
    · rw [heq]
      exact ht.paren

/-- What stands at the left end of a chain that is not logical, or of a path, is lowered as it would
be by itself. -/
theorem condition_of_lower {limit depth : Nat} {place : Place} {e : Expr} {value : Condition}
    (hplace : continues place e = true → e.isLogical = false) (hlevel : depth + 1 ≤ limit)
    (h : lower limit place (depth + 1) e = .ok value) : e.condition limit depth = .ok value := by
  cases hc : continues place e with
  | false =>
      have hroom := room_of_lower h hc
      rw [start_of_not_continues hc] at hroom
      refine lower_mono e h ?_ ?_
      · rw [start_alone, start_of_not_continues hc]
        omega
      · rw [start_alone]
        omega
  | true =>
      refine lower_mono e h ?_ ?_
      · rw [start_alone, start_of_continues hc]
      · rw [start_alone, operatorChanges_of_not_isLogical (hplace hc)]
        exact hlevel

/-- The object of a part is lowered as it would be by itself. -/
theorem condition_of_lower_path {limit depth : Nat} {object : Expr} {raw : Condition}
    (hlevel : depth + 1 ≤ limit) (h : lower limit .path (depth + 1) object = .ok raw) :
    object.condition limit depth = .ok raw := by
  refine condition_of_lower (fun hc => ?_) hlevel h
  cases object <;> simp_all [continues, Expr.isLogical]

/-! ## The access -/

/-- A condition is the text of an object with a part after it, and is read as that part of the term
`t`. -/
def IsAccess (c : Condition) (object key : String) (t : Term) : Prop :=
  c = .leaf (Vocabulary.access object key) ∧
    Term.read? c.inline = some (.member t (partName object key))

theorem isAccess_property_iff {key : String} (hkey : Vocabulary.isIdentifier key = true)
    {text : String} {t : Term} :
    IsAccess (.leaf (Vocabulary.property (text ++ "." ++ key))) text key t ↔
      IsUntouched text ∧ Term.Written 0 text t := by
  have hword := Vocabulary.isWordText_partName text hkey
  unfold IsAccess
  rw [Filter.leaf.injEq, Vocabulary.property_part_eq_iff hkey, Condition.inline]
  refine and_congr_right fun huntouched => ?_
  rw [(Vocabulary.property_part_eq_iff hkey).mpr huntouched, Term.read?_eq_some_iff]
  exact ⟨.of_member hword, fun h => (h.member hword).mono (Nat.zero_le _)⟩

/-- A property of an object is written with the object's own text, in parentheses if need be, after
the renaming of properties has gone over it.  So the object is kept exactly if it has no dash and no
blank before it; and the access is read as a property of all of the object exactly if, further, its
text is a primary, which for objects that keep their form means that they are no negations. -/
theorem part_keeps_object_iff {limit depth : Nat} {object : Expr} {key : String} {c : Condition}
    (hkey : Vocabulary.isIdentifier key = true)
    (hdate : Vocabulary.dateParts.contains (Text.lowerCase key) = false)
    (h : (Expr.index object (.literal (.text key))).condition limit depth = .ok c) :
    ∃ raw text, object.condition limit depth = .ok raw ∧ text = objectText object raw ∧
      (text = raw.inline ∨ text = "(" ++ raw.inline ++ ")") ∧
      c = .leaf (Vocabulary.access (Vocabulary.underscored (Vocabulary.unindented text)) key) ∧
      (c = .leaf (Vocabulary.access text key) ↔ IsUntouched text) ∧
      (∀ t, IsAccess c text key t ↔ IsUntouched text ∧ Term.Written 0 text t) ∧
      (object.isPlain = true → ∃ t, Term.read? raw.inline = some t ∧
        (IsAccess c text key t ↔ IsUntouched text ∧ object.isNegated = false)) := by
  obtain ⟨raw, hraw, rfl⟩ := of_lower_part h
  have hroom := room_of_lower h (by rfl)
  rw [start_alone] at hraw hroom
  rw [partText_of_isIdentifier hkey hdate]
  refine ⟨raw, objectText object raw, condition_of_lower_path (by omega) hraw, rfl,
    objectText_cases object raw, by rw [Vocabulary.property_part _ hkey], ?_,
    fun t => isAccess_property_iff hkey, fun hplain => ?_⟩
  · rw [Filter.leaf.injEq]
    exact Vocabulary.property_part_eq_iff hkey
  · obtain ⟨t, ht, hiff⟩ := objectText_written_iff hplain hraw
    exact ⟨t, ht, by rw [isAccess_property_iff hkey, hiff]⟩

/-- The element `rows[i - 1]`. -/
def lastRow : Expr :=
  .index (.var "rows") (.binary .sub (.var "i") (.literal (.number (.int 1))))

/-- The minus of an index is lost when a property follows. -/
theorem part_keeps_object_iff_lastRow :
    Vocabulary.isIdentifier "x" = true ∧
      Vocabulary.dateParts.contains (Text.lowerCase "x") = false ∧
      (Expr.index lastRow (.literal (.text "x"))).condition 10 0 = .ok (.leaf "rows[i _ 1].x") ∧
      lastRow.condition 10 0 = .ok (.leaf "rows[i - 1]") ∧
      (Filter.leaf "rows[i _ 1].x" = (.leaf (Vocabulary.access "rows[i - 1]" "x") : Condition) ↔
        IsUntouched "rows[i - 1]") ∧
      (∀ t, IsAccess (.leaf "rows[i _ 1].x") "rows[i - 1]" "x" t ↔
        IsUntouched "rows[i - 1]" ∧ Term.Written 0 "rows[i - 1]" t) ∧
      ¬ IsUntouched "rows[i - 1]" := by
  obtain ⟨raw, text, hraw, rfl, -, -, hkept, hread, -⟩ :=
    @part_keeps_object_iff 10 0 lastRow "x" (.leaf "rows[i _ 1].x") rfl rfl rfl
  have hvalue : lastRow.condition 10 0 = .ok (.leaf "rows[i - 1]") := rfl
  obtain rfl := Except.ok.inj (hvalue.symm.trans hraw)
  exact ⟨rfl, rfl, rfl, hvalue, hkept, hread, fun h => h.dash (by decide)⟩

end VaultQuery.Expr
