import Mathlib.Data.List.Nodup
import Mathlib.Data.List.Perm.Subperm
import VaultQuery.Proofs.Base.Build

/-!
The columns of a table.  Every field has its column, in order; a formula gets a key of its own, so
that no formula takes the place of another (`freshKey_not_mem`); and a sort or group key comes to a
column of the table, or to a text that no column has.
-/

namespace VaultQuery

namespace Work

/-! ## Keys of formulas -/

theorem toString_nat_injective {m n : Nat} (h : toString m = toString n) : m = n := by
  have hdigits : String.ofList (Nat.toDigits 10 m) = String.ofList (Nat.toDigits 10 n) := h
  have hread := congrArg (fun s : String => Nat.ofDigitChars 10 s.toList 0) hdigits
  simpa only [String.toList_ofList, Nat.ofDigitChars_ten_toDigits] using hread

/-- The keys that are tried for a formula: the key itself and `n` numbered ones. -/
def candidates (base : String) (n : Nat) : List String :=
  base :: (List.range n).map fun i => base ++ "_" ++ toString (i + 2)

theorem nodup_candidates (base : String) (n : Nat) : (candidates base n).Nodup := by
  refine List.nodup_cons.mpr ⟨?_, ?_⟩
  · intro hmem
    obtain ⟨i, -, hi⟩ := List.mem_map.mp hmem
    have hlength := congrArg String.length hi
    have hlow : "_".length = 1 := rfl
    rw [String.length_append, String.length_append, hlow] at hlength
    omega
  · refine List.Nodup.map ?_ List.nodup_range
    intro i j hij
    have hnumber : toString (i + 2) = toString (j + 2) := (String.append_right_inj _).mp hij
    exact Nat.add_right_cancel (toString_nat_injective hnumber)

/-- A key is found that is not taken, since one more is tried than are taken. -/
theorem freshKey_not_mem (base : String) (taken : List String) : freshKey base taken ∉ taken := by
  have hkey : freshKey base taken =
      ((candidates base taken.length).find? fun k => !taken.contains k).getD base := rfl
  rw [hkey]
  cases hfind : (candidates base taken.length).find? fun k => !taken.contains k with
  | some key =>
      have hfree := List.find?_some hfind
      simpa using hfree
  | none =>
      have hsubset : candidates base taken.length ⊆ taken := by
        intro key hmem
        simpa using List.find?_eq_none.mp hfind key hmem
      have hle := (List.subperm_of_subset (nodup_candidates base taken.length) hsubset).length_le
      simp only [candidates, List.length_cons, List.length_map, List.length_range] at hle
      omega

theorem ran_formulaKey {field : NamedField} {w w' : Workspace} {key : String}
    (h : Ran (formulaKey field) w key w') :
    w' = { w with counter := w.counter + 1 } ∧ key ∉ w.formulas.map (·.1) := by
  obtain ⟨_, w₁, hcount, h⟩ := ran_bind.mp h
  obtain ⟨w₂, w₃, hget, h⟩ := ran_bind.mp h
  cases hcount
  cases hget
  obtain ⟨rfl, rfl⟩ := ran_pure.mp h
  exact ⟨rfl, freshKey_not_mem _ _⟩

/-! ## Columns -/

/-- A column as it is placed in a table: its text, the key of its formula if it is one, and its
alias. -/
structure Placed where
  expression : String
  key? : Option String
  alias? : Option String

namespace Placed

/-- The path of a column. -/
def path (p : Placed) : String :=
  match p.key? with
  | some key => "formula." ++ key
  | none => p.expression

/-- The formula of a column, under its key. -/
def formula? (p : Placed) : Option (String × String) :=
  p.key?.map fun key => (key, p.expression)

/-- What is kept of a column for the keys that refer to it. -/
def column (p : Placed) : Column :=
  ⟨p.path, p.expression, p.alias?⟩

end Placed

/-- A column shows a field: it has the text and the alias of the field, and a key if the field is a
formula. -/
structure Shows (s : Settings) (depth : Nat) (field : NamedField) (p : Placed) : Prop where
  text : field.field.baseText s.treeLimit depth = .ok p.expression
  alias? : p.alias? = field.alias?
  isFormula : p.key?.isSome = field.field.isFormula

/-- `Adds w placed w'`: columns are added to a table, and their formulas under keys of their own. -/
structure Adds (w : Workspace) (placed : List Placed) (w' : Workspace) : Prop where
  depth : w'.depth = w.depth
  columns : w'.columns = w.columns ++ placed.map Placed.column
  formulas : w'.formulas = w.formulas ++ placed.filterMap Placed.formula?
  nodup : (w.formulas.map (·.1)).Nodup → (w'.formulas.map (·.1)).Nodup

theorem Adds.nil (w : Workspace) : Adds w [] w :=
  ⟨rfl, by simp, by simp, id⟩

theorem Adds.cons {w w₁ w' : Workspace} {p : Placed} {placed : List Placed}
    (hfirst : Adds w [p] w₁) (hrest : Adds w₁ placed w') : Adds w (p :: placed) w' where
  depth := hrest.depth.trans hfirst.depth
  columns := by
    rw [hrest.columns, hfirst.columns, List.append_assoc]
    rfl
  formulas := by
    rw [hrest.formulas, hfirst.formulas, List.append_assoc, ← List.filterMap_append]
    rfl
  nodup h := hrest.nodup (hfirst.nodup h)

theorem ran_column {s : Settings} {field : NamedField} {w w' : Workspace}
    {place : String × String} (h : Ran (column s field) w place w') :
    ∃ p, Shows s w.depth field p ∧ place.1 = p.path ∧ Adds w [p] w' := by
  obtain ⟨expression, w₁, hwalk, hrest⟩ := ran_bind.mp h
  obtain ⟨htext, rfl⟩ := ran_walk.mp hwalk
  cases hformula : field.field.isFormula with
  | false =>
      rw [hformula] at hrest
      cases hrest
      refine ⟨⟨expression, none, field.alias?⟩, ⟨htext, rfl, hformula.symm⟩, rfl, rfl, rfl, ?_, id⟩
      simp [Placed.formula?]
  | true =>
      rw [hformula] at hrest
      obtain ⟨key, w₂, hkey, hadd⟩ := ran_bind.mp hrest
      obtain ⟨rfl, hfresh⟩ := ran_formulaKey hkey
      cases hadd
      refine ⟨⟨expression, some key, field.alias?⟩, ⟨htext, rfl, hformula.symm⟩, rfl, rfl, rfl, rfl,
        ?_⟩
      intro hnodup
      rw [List.map_append]
      exact hnodup.append (List.nodup_singleton key) (by simpa using hfresh)

/-! ## The order of the columns -/

theorem keys_putLabel (display : List (String × String)) (path label : String) :
    (putLabel display path label).map (·.1) =
      if path ∈ display.map (·.1) then display.map (·.1) else display.map (·.1) ++ [path] := by
  have hany : display.any (·.1 == path) = true ↔ path ∈ display.map (·.1) := by
    simp [List.any_eq_true]
  rw [putLabel]
  split
  case isFalse h => rw [if_neg (mt hany.mpr h), List.map_append, List.map_singleton]
  case isTrue h =>
      rw [if_pos (hany.mp h), List.map_map]
      refine List.map_congr_left fun p _ => ?_
      show (if p.1 == path then (path, label) else p).1 = p.1
      split
      case isTrue heq => exact (eq_of_beq heq).symm
      case isFalse => rfl

theorem eraseDups_concat (seen : List String) (path : String) :
    (seen ++ [path]).eraseDups =
      if path ∈ seen then seen.eraseDups else seen.eraseDups ++ [path] := by
  rw [List.eraseDups_append]
  split
  case isTrue h => simp [List.removeAll, h]
  case isFalse h => simp [List.removeAll, h, List.eraseDups_cons]

theorem eraseDups_eq_nil_iff {l : List String} : l.eraseDups = [] ↔ l = [] := by
  cases l with
  | nil => simp
  | cons a l => simp [List.eraseDups_cons]

/-- The columns of a table show its fields in order, and a path keeps its first place. -/
theorem ran_columns {s : Settings} (fields : List NamedField)
    {display shown : List (String × String)} (seen : List String)
    (hseen : display.map (·.1) = seen.eraseDups) {w w' : Workspace}
    (h : Ran (columns s display fields) w shown w') :
    ∃ placed, List.Forall₂ (Shows s w.depth) fields placed ∧ Adds w placed w' ∧
      shown.map (·.1) = (seen ++ placed.map Placed.path).eraseDups := by
  induction fields generalizing display seen w with
  | nil =>
      obtain ⟨rfl, rfl⟩ := ran_pure.mp h
      exact ⟨[], .nil, .nil _, by simpa using hseen⟩
  | cons field fields ih =>
      obtain ⟨⟨path, label⟩, w₁, hcolumn, hrest⟩ := ran_bind.mp h
      obtain ⟨p, hshows, rfl, hadds⟩ := ran_column hcolumn
      have hput : (putLabel display p.path label).map (·.1) = (seen ++ [p.path]).eraseDups := by
        rw [keys_putLabel, eraseDups_concat, hseen]
        simp only [List.mem_eraseDups]
      obtain ⟨placed, hshown, hadded, horder⟩ := ih _ hput hrest
      rw [hadds.depth] at hshown
      refine ⟨p :: placed, .cons hshows hshown, hadds.cons hadded, ?_⟩
      rw [horder, List.append_assoc]
      rfl

end Work

/-! ## The whole table -/

/-- The paths that a table shows, before repeats are dropped. -/
def Work.paths (showId : Bool) (placed : List Placed) : List String :=
  (if showId then [idColumn.1] else []) ++ placed.map Placed.path

/-- A sort or group key comes to a path that the table shows, or to its own text, which then is the
text of no column. -/
def Work.Refers (s : Settings) (order : List String) (placed : List Placed) (field : Expr)
    (path : String) : Prop :=
  path ∈ order ∨ field.baseText s.treeLimit 0 = .ok path ∧ ∀ p ∈ placed, p.expression ≠ path

theorem Work.Resolves.refers {s : Settings} {table : Workspace} {showId : Bool}
    {placed : List Placed} (hdepth : table.depth = 0)
    (hcolumns : table.columns = placed.map Placed.column) {field : Expr} {path : String}
    (h : Resolves s table field path) :
    Refers s (paths showId placed).eraseDups placed field path := by
  obtain ⟨text, htext, rfl⟩ := h
  rw [hdepth] at htext
  rw [hcolumns]
  cases hfind : (placed.map Placed.column).find? (refersTo field text) with
  | some c =>
      obtain ⟨p, hp, rfl⟩ := List.mem_map.mp (List.mem_of_find?_eq_some hfind)
      refine .inl (List.mem_eraseDups.mpr (List.mem_append_right _ ?_))
      exact List.mem_map_of_mem hp
  | none =>
      refine .inr ⟨htext, fun p hp heq => ?_⟩
      have hrefers := List.find?_eq_none.mp hfind p.column (List.mem_map_of_mem hp)
      apply hrefers
      have hsame : p.column.expression = text := heq
      simp [refersTo, hsame]

theorem Work.formulas_eq_nil_iff {s : Settings} {depth : Nat} {fields : List NamedField}
    {placed : List Placed} (h : List.Forall₂ (Shows s depth) fields placed) :
    placed.filterMap Placed.formula? = [] ↔ ∀ field ∈ fields, field.field.isFormula = false := by
  induction h with
  | nil => simp
  | @cons field p fields placed hshows _ ih =>
      have hkey : p.formula? = none ↔ field.field.isFormula = false := by
        rw [← hshows.isFormula]
        simp [Placed.formula?]
      cases hp : p.formula? with
      | none => simp [hp, ih, hkey.mp hp]
      | some f =>
          have hformula : field.field.isFormula ≠ false := fun hfalse => by
            rw [hkey.mpr hfalse] at hp
            cases hp
          simp [hp, hformula]

/-- What a base with one view holds of a table whose fields have the columns `placed`. -/
structure Work.Tabulates (s : Settings) (q : Query) (fields : List NamedField) (showId : Bool)
    (placed : List Placed) (view : View Condition) (b : Base Condition) : Prop where
  views : b.views = [view]
  /-- Every field has its column, with a key exactly if it is a formula. -/
  shows : List.Forall₂ (Shows s 0) fields placed
  /-- The view shows the paths of the columns in order, each at its first place. -/
  order : view.order =
    if paths showId placed = [] then none else some (paths showId placed).eraseDups
  /-- What is labelled is what is shown. -/
  display : b.display.map (·.map (·.1)) = view.order
  /-- There is a formula for each column with a key, in order, unless no field is a formula. -/
  formulas : b.formulas = if ∀ field ∈ fields, field.field.isFormula = false then none
    else some (placed.filterMap Placed.formula?)
  /-- No two formulas have the same key. -/
  nodup : ((placed.filterMap Placed.formula?).map (·.1)).Nodup
  /-- Every formula is shown. -/
  shown : ∀ f ∈ placed.filterMap Placed.formula?,
    "formula." ++ f.1 ∈ (paths showId placed).eraseDups
  /-- The last sort keys come to columns that are shown, or to texts of their own. -/
  sort : SetBy (List.Forall₂ fun field key => key.direction = field.direction ∧
      Refers s (paths showId placed).eraseDups placed field.field key.column)
    none view.sort (lastOf? sort? q.operations)
  /-- So does the last group key. -/
  groupBy : SetBy (fun field path =>
      Refers s (paths showId placed).eraseDups placed field.field path)
    none view.groupBy (lastOf? group? q.operations)

/-- No column of a table and no formula is lost or overwritten. -/
theorem columns_are_kept {s : Settings} {q : Query} {inView : Option Bool} {b : Base Condition}
    {w w' : Workspace} {fields : List NamedField} {showId : Bool}
    (hheader : q.header = .table fields showId) (h : Work.Ran (Work.base s q inView) w b w') :
    ∃ placed view, Work.Tabulates s q fields showId placed view b := by
  obtain ⟨display, source, slots, w₁, htable, hdepth, -, hslots, rfl⟩ := Work.parts_of_ran_base h
  rw [hheader] at htable
  obtain ⟨placed, hshows, hadds, horder⟩ := Work.ran_columns fields
    (if showId then [Work.idColumn.1] else []) (by cases showId <;> rfl) htable
  obtain ⟨hkept, hsets⟩ := Work.ran_operations q.operations hslots
  have hcolumns : w₁.table.columns = placed.map Work.Placed.column := hadds.columns
  have hformulas : w'.formulas = placed.filterMap Work.Placed.formula? :=
    (congrArg (·.formulas) hkept).trans hadds.formulas
  have hnodup : (w'.formulas.map (·.1)).Nodup :=
    (congrArg (·.formulas) hkept : w'.formulas = w₁.formulas) ▸ hadds.nodup List.nodup_nil
  have hempty : display = [] ↔ Work.paths showId placed = [] := by
    rw [← List.map_eq_nil_iff (f := (·.1)), horder, Work.eraseDups_eq_nil_iff]
    rfl
  rw [hformulas] at hnodup ⊢
  refine ⟨placed, _, rfl, hshows, ?_, ?_, ?_, hnodup, ?_, ?_, ?_⟩
  · show (if display.isEmpty then none else some (display.map (·.1))) = _
    by_cases hnone : display = []
    · rw [if_pos (hempty.mp hnone), hnone]
      rfl
    · rw [if_neg (mt hempty.mpr hnone), if_neg (by simpa using hnone), horder]
      rfl
  · cases display <;> rfl
  · have hnone := Work.formulas_eq_nil_iff hshows
    show (if (placed.filterMap Work.Placed.formula?).isEmpty then none else _) = _
    by_cases hplain : ∀ field ∈ fields, field.field.isFormula = false
    · rw [if_pos hplain, hnone.mpr hplain]
      rfl
    · rw [if_neg hplain, if_neg (by simpa using mt hnone.mp hplain)]
  · intro f hf
    obtain ⟨p, hp, hformula⟩ := List.mem_filterMap.mp hf
    obtain ⟨key, hkey, rfl⟩ := Option.map_eq_some_iff.mp hformula
    have hpath : p.path = "formula." ++ key := by rw [Work.Placed.path, hkey]
    rw [← hpath]
    exact List.mem_eraseDups.mpr (List.mem_append_right _ (List.mem_map_of_mem hp))
  · exact hsets.sort.imp fun fields keys hsorts =>
      hsorts.imp fun field key hkey => ⟨hkey.2, hkey.1.refers hdepth hcolumns⟩
  · exact hsets.groupBy.imp fun field path hpath => hpath.refers hdepth hcolumns

/-- Fields with two formulas of the same name and a path that stands twice. -/
def crowdedFields : List NamedField :=
  [⟨"A b", .binary .add (.var "x") (.literal (.number (.int 1))), some "A b"⟩,
    ⟨"y", .var "y", none⟩,
    ⟨"a  B", .negated (.var "x"), some "a  B"⟩,
    ⟨"why", .var "y", some "why"⟩]

/-- A table of these fields, with sort keys by alias and by text, and a group key that is none of
them. -/
def crowdedQuery : Query where
  header := .table crowdedFields true
  operations := [
    .sort [⟨.var "why", .desc⟩, ⟨.negated (.var "x"), .asc⟩],
    .group ⟨"z", .var "z", none⟩]

/-- The view of `crowdedQuery`. -/
def crowdedView : View Condition where
  order := some ["file.name", "formula.a_b", "y", "formula.a_b_2"]
  groupBy := some "z"
  sort := some [⟨"y", .desc⟩, ⟨"formula.a_b_2", .asc⟩]

/-- The base of `crowdedQuery`. -/
def crowdedBase : Base Condition where
  formulas := some [("a_b", "x + 1"), ("a_b_2", "!(x)")]
  display := some [("file.name", "Name"), ("formula.a_b", "A b"), ("y", "why"),
    ("formula.a_b_2", "a  B")]
  views := [crowdedView]

theorem columns_are_kept_crowded :
    (∃ w', Work.Ran (Work.base {} crowdedQuery none) {} crowdedBase w') ∧
      ∃ placed view, Work.Tabulates {} crowdedQuery crowdedFields true placed view crowdedBase :=
  ⟨⟨_, rfl⟩, @columns_are_kept {} crowdedQuery none crowdedBase {} _ crowdedFields true rfl rfl⟩

end VaultQuery
