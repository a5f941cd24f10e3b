import VaultQuery.Proofs.Base.Build

/-!
The operations of a query as entries into the slots of its view.  Whether an operation succeeds, and
what it enters, depends on the table alone and not on the operations before it (`Enters`); so the
operations of a query succeed exactly if each of them does, and leave what their entries leave, put
one after another (`yields_operations_iff`, `yields_base_iff`).
-/

namespace VaultQuery

namespace Work

section Yields

variable {α β : Type}

/-- `Yields x w a`: the work `x` succeeds with `a` if it starts from the state `w`. -/
def Yields (x : Work α) (w : Workspace) (a : α) : Prop :=
  (x.run.run w).1 = .ok a

theorem yields_iff {x : Work α} {w : Workspace} {a : α} : Yields x w a ↔ ∃ w', Ran x w a w' := by
  constructor
  · intro h
    exact ⟨(x.run.run w).2, Prod.ext h rfl⟩
  · rintro ⟨w', h⟩
    exact congrArg Prod.fst h

theorem yields_bind {x : Work α} {f : α → Work β} {w : Workspace} {b : β} :
    Yields (x >>= f) w b ↔ ∃ a w₁, Ran x w a w₁ ∧ Yields (f a) w₁ b := by
  constructor
  · intro h
    obtain ⟨w', h⟩ := yields_iff.mp h
    obtain ⟨a, w₁, ha, hb⟩ := ran_bind.mp h
    exact ⟨a, w₁, ha, yields_iff.mpr ⟨w', hb⟩⟩
  · rintro ⟨a, w₁, ha, hb⟩
    obtain ⟨w', hb⟩ := yields_iff.mp hb
    exact yields_iff.mpr ⟨w', ran_bind.mpr ⟨a, w₁, ha, hb⟩⟩

end Yields

/-! ## Entries -/

/-- What an operation enters into the slots of a view. -/
inductive Entry where
  | kept (c : Condition)
  | sort (keys : List SortKey)
  /-- The rows of a limit, if it is a positive integer. -/
  | limit (rows : Option Int)
  | groupBy (path : String)
  | nothing

/-- The slots after an entry.  A limit that is no positive integer leaves its slot as it is. -/
def Slots.put (slots : Slots) : Entry → Slots
  | .kept c => { slots with kept := some c }
  | .sort keys => { slots with sort := some keys }
  | .limit rows => { slots with limit := rows.or slots.limit }
  | .groupBy path => { slots with groupBy := some path }
  | .nothing => slots

/-- The slots of a view. -/
inductive Slot where
  | kept | sort | limit | groupBy
deriving DecidableEq

/-- The slot that an entry goes to. -/
def Entry.slot? : Entry → Option Slot
  | .kept _ => some .kept
  | .sort _ => some .sort
  | .limit _ => some .limit
  | .groupBy _ => some .groupBy
  | .nothing => none

end Work

/-- The slot that an operation fills. -/
def Operation.slot? : Operation → Option Work.Slot
  | .keep _ => some .kept
  | .sort _ => some .sort
  | .limit _ => some .limit
  | .group _ => some .groupBy
  | .flatten _ | .extract _ | .foreign _ => none

namespace Work

/-- `Enters s table op x`: over a table, an operation succeeds and enters `x`. -/
inductive Enters (s : Settings) (table : Workspace) : Operation → Entry → Prop
  | keep {clause : Expr} {c : Condition} :
      clause.condition s.treeLimit table.depth = .ok c → Enters s table (.keep clause) (.kept c)
  | sort {fields : List SortField} {keys : List SortKey} :
      List.Forall₂ (SortsBy s table) fields keys → Enters s table (.sort fields) (.sort keys)
  | limit {amount : Expr} {text : String} {count : Option Int} :
      amount.baseText s.treeLimit table.depth = .ok text → rowCount? amount text = .ok count →
      (s.strictLimit = true → count.filter (0 < ·) ≠ none) →
      Enters s table (.limit amount) (.limit (count.filter (0 < ·)))
  | group {field : NamedField} {path : String} :
      Resolves s table field.field path → Enters s table (.group field) (.groupBy path)
  | flatten (field : NamedField) : Enters s table (.flatten field) .nothing
  | extract (fields : List (String × Expr)) : Enters s table (.extract fields) .nothing

theorem Enters.slot?_eq {s : Settings} {table : Workspace} {op : Operation} {x : Entry}
    (h : Enters s table op x) : x.slot? = op.slot? := by
  cases h <;> rfl

/-! ## One operation -/

section Operation

variable {s : Settings} {w : Workspace}

theorem eq_ok_of_ran {α : Type} {x : Except Fault α} {a : α} {w' : Workspace}
    (h : Ran (MonadExcept.ofExcept x) w a w') : x = .ok a := by
  cases x with
  | ok b =>
      obtain ⟨rfl, -⟩ := ran_pure.mp h
      rfl
  | error e => cases h

theorem ran_reference_of_resolves {field : Expr} {path : String}
    (h : Resolves s w.table field path) : Ran (reference s field) w path w := by
  obtain ⟨text, htext, rfl⟩ := h
  exact ran_bind.mpr ⟨text, w, ran_walk.mpr ⟨htext, rfl⟩, ran_bind.mpr ⟨w, w, rfl, rfl⟩⟩

theorem ran_sortKeys_of_sortsBy {fields : List SortField} {keys : List SortKey}
    (h : List.Forall₂ (SortsBy s w.table) fields keys) : Ran (sortKeys s fields) w keys w := by
  induction h with
  | nil => rfl
  | @cons field key fields keys hkey _ ih =>
      obtain ⟨hcolumn, hdirection⟩ := hkey
      have hfirst := ran_reference_of_resolves hcolumn
      refine ran_bind.mpr ⟨key.column, w, hfirst, ran_bind.mpr ⟨keys, w, ih, ?_⟩⟩
      rw [← hdirection]
      rfl

/-- A limit yields its rows, or the limit so far if it is no positive integer and need not be. -/
theorem yields_limit_iff {amount : Expr} {present rows : Option Int} :
    Yields (limit s amount present) w rows ↔
      ∃ x, Enters s w.table (.limit amount) (.limit x) ∧ rows = x.or present := by
  constructor
  · intro h
    obtain ⟨w', hlimit⟩ := yields_iff.mp h
    obtain ⟨text, w₁, hwalk, hrest⟩ := ran_bind.mp hlimit
    obtain ⟨htext, rfl⟩ := ran_walk.mp hwalk
    obtain ⟨count, w₂, hcount, h⟩ := ran_bind.mp hrest
    have hread := eq_ok_of_ran hcount
    split at h
    case h_1 n hn =>
        obtain ⟨rfl, rfl⟩ := ran_pure.mp h
        exact ⟨_, .limit htext hread fun _ => by simp [hn], by rw [hn]; rfl⟩
    case h_2 hn =>
        split at h
        case isTrue =>
            obtain ⟨_, w₃, hthrow, -⟩ := ran_bind.mp h
            exact absurd hthrow not_ran_throw
        case isFalse hlenient =>
            obtain ⟨_, w₃, -, h⟩ := ran_bind.mp h
            obtain ⟨rfl, rfl⟩ := ran_pure.mp h
            exact ⟨_, .limit htext hread fun hstrict => absurd hstrict hlenient, by rw [hn]; rfl⟩
  · rintro ⟨x, hx, rfl⟩
    cases hx with
    | @limit _ text count htext hcount hstrict =>
        have hread : Ran (MonadExcept.ofExcept (rowCount? amount text)) w count w := by
          rw [hcount]
          rfl
        have hwalk : Ran (baseText s amount) w text w := ran_walk.mpr ⟨htext, rfl⟩
        refine yields_bind.mpr ⟨text, w, hwalk, yields_bind.mpr ⟨count, w, hread, ?_⟩⟩
        cases hn : count.filter (0 < ·) with
        | some n => rfl
        | none =>
            have hlenient : s.strictLimit = false := by
              cases h : s.strictLimit with
              | false => rfl
              | true => exact absurd hn (hstrict h)
            rw [hlenient]
            rfl

/-- An operation yields what its entry makes of the slots. -/
theorem yields_operation_iff {slots slots' : Slots} {op : Operation} :
    Yields (operation s slots op) w slots' ↔
      ∃ x, Enters s w.table op x ∧ slots' = slots.put x := by
  constructor
  · intro h
    obtain ⟨w', h⟩ := yields_iff.mp h
    cases op with
    | keep clause =>
        obtain ⟨c, w₁, hwalk, h⟩ := ran_bind.mp h
        obtain ⟨rfl, rfl⟩ := ran_pure.mp h
        exact ⟨.kept c, .keep (ran_walk.mp hwalk).1, rfl⟩
    | sort fields =>
        obtain ⟨keys, w₁, hkeys, h⟩ := ran_bind.mp h
        obtain ⟨rfl, rfl⟩ := ran_pure.mp h
        exact ⟨.sort keys, .sort (ran_sortKeys fields hkeys).2, rfl⟩
    | limit amount =>
        obtain ⟨rows, w₁, hrows, h⟩ := ran_bind.mp h
        obtain ⟨rfl, rfl⟩ := ran_pure.mp h
        obtain ⟨x, hx, rfl⟩ := yields_limit_iff.mp (yields_iff.mpr ⟨w₁, hrows⟩)
        exact ⟨.limit x, hx, rfl⟩
    | group field =>
        obtain ⟨path, w₁, hpath, h⟩ := ran_bind.mp h
        obtain ⟨rfl, rfl⟩ := ran_pure.mp h
        exact ⟨.groupBy path, .group (ran_reference hpath).2, rfl⟩
    | flatten field =>
        obtain ⟨_, w₁, -, h⟩ := ran_bind.mp h
        obtain ⟨rfl, rfl⟩ := ran_pure.mp h
        exact ⟨.nothing, .flatten field, rfl⟩
    | extract fields =>
        obtain ⟨_, w₁, -, h⟩ := ran_bind.mp h
        obtain ⟨rfl, rfl⟩ := ran_pure.mp h
        exact ⟨.nothing, .extract fields, rfl⟩
    | foreign node => exact absurd h not_ran_throw
  · rintro ⟨x, hx, rfl⟩
    cases hx with
    | @keep clause c hc =>
        exact yields_bind.mpr ⟨c, w, ran_walk.mpr ⟨hc, rfl⟩, rfl⟩
    | @sort fields keys hkeys =>
        exact yields_bind.mpr ⟨keys, w, ran_sortKeys_of_sortsBy hkeys, rfl⟩
    | @limit amount text count htext hcount hstrict =>
        have hlimit : Yields (limit s amount slots.limit) w _ :=
          yields_limit_iff.mpr ⟨_, .limit htext hcount hstrict, rfl⟩
        obtain ⟨w', hrows⟩ := yields_iff.mp hlimit
        exact yields_bind.mpr ⟨_, w', hrows, rfl⟩
    | @group field path hpath =>
        exact yields_bind.mpr ⟨path, w, ran_reference_of_resolves hpath, rfl⟩
    | flatten field => rfl
    | extract fields => rfl

end Operation

/-! ## All operations -/

section Operations

variable {s : Settings} {q : Query} {inView : Option Bool} {b : Base Condition}

/-- The operations of a query succeed exactly if each of them does by itself, and leave what their
entries leave. -/
theorem yields_operations_iff (ops : List Operation) {slots slots' : Slots} {w : Workspace} :
    Yields (operations s slots ops) w slots' ↔
      ∃ xs, List.Forall₂ (Enters s w.table) ops xs ∧ slots' = xs.foldl Slots.put slots := by
  induction ops generalizing slots w with
  | nil =>
      show Except.ok slots = Except.ok slots' ↔ _
      simp [eq_comm]
  | cons op ops ih =>
      constructor
      · intro h
        obtain ⟨middle, w₁, hop, hops⟩ := yields_bind.mp h
        obtain ⟨x, hx, rfl⟩ := yields_operation_iff.mp (yields_iff.mpr ⟨w₁, hop⟩)
        obtain ⟨xs, hxs, rfl⟩ := ih.mp hops
        rw [(ran_operation hop).1] at hxs
        exact ⟨x :: xs, .cons hx hxs, rfl⟩
      · rintro ⟨_, hentries, rfl⟩
        cases hentries with
        | @cons _ x _ xs hx hxs =>
            obtain ⟨w₁, hop⟩ := yields_iff.mp (yields_operation_iff.mpr ⟨x, hx, rfl⟩)
            rw [← (ran_operation hop).1] at hxs
            exact yields_bind.mpr ⟨_, w₁, hop, ih.mpr ⟨xs, hxs, rfl⟩⟩

/-- A query has a base exactly if its header makes a table, its source has a condition, and each of
its operations enters something over that table. -/
theorem yields_base_iff {w : Workspace} :
    Yields (base s q inView) w b ↔
      ∃ display source table, Ran (header s q.header) { remarks := w.remarks } display table ∧
        q.source.condition s.treeLimit 0 = .ok source ∧
        ∃ xs, List.Forall₂ (Enters s table.table) q.operations xs ∧
          b = assembled s inView display table.formulas source (xs.foldl Slots.put {}) := by
  constructor
  · intro h
    obtain ⟨w', h⟩ := yields_iff.mp h
    obtain ⟨display, source, slots, table, hheader, -, hsource, hslots, rfl⟩ :=
      parts_of_ran_base h
    obtain ⟨xs, hxs, rfl⟩ := (yields_operations_iff q.operations).mp (yields_iff.mpr ⟨w', hslots⟩)
    have hformulas : w'.formulas = table.formulas :=
      congrArg (·.formulas) (ran_operations q.operations hslots).1
    exact ⟨display, source, table, hheader, hsource, xs, hxs, by rw [hformulas]⟩
  · rintro ⟨display, source, table, hheader, hsource, xs, hxs, rfl⟩
    have hdepth : table.depth = 0 := keepsDepth_header s q.header _ _ _ hheader
    obtain ⟨w', hslots⟩ := yields_iff.mp ((yields_operations_iff q.operations).mpr ⟨xs, hxs, rfl⟩)
    have hformulas : w'.formulas = table.formulas :=
      congrArg (·.formulas) (ran_operations q.operations hslots).1
    have hcondition : Ran (sourceCondition s q.source) table source table :=
      ran_walk.mpr ⟨by rwa [hdepth], rfl⟩
    refine yields_bind.mpr ⟨(), { remarks := w.remarks }, rfl, ?_⟩
    refine yields_bind.mpr ⟨display, table, hheader, ?_⟩
    refine yields_bind.mpr ⟨source, table, hcondition, ?_⟩
    refine yields_bind.mpr ⟨_, w', hslots, ?_⟩
    rw [← hformulas]
    cases display <;> rfl

end Operations

end Work

end VaultQuery
