import Mathlib.Data.List.Forall2
import VaultQuery.Base.Build

/-!
What a successful run of the work on a query has done: every step leaves the depth of the walk as it
was, the operations leave the table alone and the last one of a kind is the one that counts, and the
filters of the base are those of the source and of the last clause that keeps pages.
-/

namespace VaultQuery

/-- The table that the work has made: all of its state but the remarks. -/
def Workspace.table (w : Workspace) : Workspace :=
  { w with remarks := [] }

namespace Work

/-! ## Runs -/

section Runs

variable {α β : Type}

/-- `Ran x w a w'`: the work `x` succeeds with `a` and takes the state from `w` to `w'`. -/
def Ran (x : Work α) (w : Workspace) (a : α) (w' : Workspace) : Prop :=
  x.run.run w = (.ok a, w')

theorem ran_pure {a b : α} {w w' : Workspace} : Ran (pure a) w b w' ↔ a = b ∧ w = w' := by
  constructor
  · intro h
    cases h
    exact ⟨rfl, rfl⟩
  · rintro ⟨rfl, rfl⟩
    rfl

theorem ran_bind {x : Work α} {f : α → Work β} {w w' : Workspace} {b : β} :
    Ran (x >>= f) w b w' ↔ ∃ a w₁, Ran x w a w₁ ∧ Ran (f a) w₁ b w' := by
  unfold Ran
  rw [ExceptT.run_bind, StateT.run_bind]
  cases hx : x.run.run w with
  | mk r w₁ =>
      cases r with
      | error e =>
          constructor
          · intro h
            cases h
          · rintro ⟨a, w₂, h, -⟩
            cases h
      | ok a =>
          constructor
          · intro h
            exact ⟨a, w₁, rfl, h⟩
          · rintro ⟨a', w₂, h, hf⟩
            cases h
            exact hf

theorem not_ran_throw {e : Fault} {w w' : Workspace} {a : α} : ¬ Ran (throw e) w a w' :=
  nofun

/-- A walk that succeeds leaves the state as it was. -/
theorem ran_walk {f : Nat → Except Fault α} {w w' : Workspace} {a : α} :
    Ran (walk f) w a w' ↔ f w.depth = .ok a ∧ w' = w := by
  unfold walk
  rw [ran_bind]
  constructor
  · rintro ⟨w₀, w₁, hget, h⟩
    cases hget
    split at h
    case h_1 b hf =>
        obtain ⟨rfl, rfl⟩ := ran_pure.mp h
        exact ⟨hf, rfl⟩
    case h_2 => cases h
    case h_3 => cases h
  · rintro ⟨hf, rfl⟩
    refine ⟨w', w', rfl, ?_⟩
    rw [hf]
    rfl

/-! ## What work leaves alone -/

variable {γ : Type} {part : Workspace → γ}

/-- Work that leaves a part of the state as it was if it succeeds. -/
def Keeps (part : Workspace → γ) (x : Work α) : Prop :=
  ∀ (w : Workspace) (a : α) (w' : Workspace), Ran x w a w' → part w' = part w

theorem Keeps.pure (a : α) : Keeps part (Pure.pure a) := by
  intro w b w' h
  obtain ⟨-, rfl⟩ := ran_pure.mp h
  rfl

theorem Keeps.bind {x : Work α} {f : α → Work β} (hx : Keeps part x)
    (hf : ∀ a, Keeps part (f a)) : Keeps part (x >>= f) := by
  intro w b w' h
  obtain ⟨a, w₁, ha, hb⟩ := ran_bind.mp h
  exact (hf a w₁ b w' hb).trans (hx w a w₁ ha)

theorem Keeps.modify {f : Workspace → Workspace} (hf : ∀ w, part (f w) = part w) :
    Keeps part (modify f) := by
  intro w a w' h
  cases h
  exact hf w

theorem Keeps.get : Keeps part (MonadState.get : Work Workspace) := by
  intro w a w' h
  cases h
  rfl

theorem Keeps.walk (f : Nat → Except Fault α) : Keeps part (walk f) := by
  intro w a w' h
  rw [(ran_walk.mp h).2]

theorem Keeps.throw (e : Fault) : Keeps part (MonadExcept.throw e : Work α) := by
  intro w a w' h
  cases h

theorem Keeps.ofExcept (x : Except Fault α) :
    Keeps part (MonadExcept.ofExcept x : Work α) := by
  cases x with
  | ok a => exact .pure a
  | error e => exact .throw e

end Runs

/-! ## Columns, keys and limits -/

theorem keepsDepth_formulaKey (field : NamedField) : Keeps Workspace.depth (formulaKey field) :=
  .bind (.modify fun _ => rfl) fun _ => .bind .get fun _ => .pure _

theorem keepsDepth_column (s : Settings) (field : NamedField) :
    Keeps Workspace.depth (column s field) := by
  have hadd : ∀ (expression : String) (p : String × String), Keeps Workspace.depth (do
      modify fun w => { w with columns := w.columns ++ [⟨p.1, expression, field.alias?⟩] }
      return p : Work (String × String)) :=
    fun _ _ => .bind (.modify fun _ => rfl) fun _ => .pure _
  unfold column
  refine .bind (.walk _) fun expression => ?_
  split
  case isTrue =>
      exact .bind (keepsDepth_formulaKey field) fun _ => .bind (.modify fun _ => rfl) fun _ =>
        .bind (.pure _) fun p => hadd expression p
  case isFalse => exact .bind (.pure _) fun p => hadd expression p

theorem keepsDepth_columns (s : Settings) (fields : List NamedField) :
    ∀ display, Keeps Workspace.depth (columns s display fields) := by
  induction fields with
  | nil => exact fun display => .pure display
  | cons field fields ih =>
      intro display
      exact .bind (keepsDepth_column s field) fun _ => ih _

theorem keepsDepth_header (s : Settings) (h : Header) : Keeps Workspace.depth (header s h) := by
  cases h with
  | table fields showId => exact keepsDepth_columns s fields _
  | _ => exact .throw _

/-- What a sort or group key comes to in a table: the path of the first column that it refers to,
else its own text. -/
def Resolves (s : Settings) (table : Workspace) (field : Expr) (path : String) : Prop :=
  ∃ text, field.baseText s.treeLimit table.depth = .ok text ∧
    path = ((table.columns.find? (refersTo field text)).map (·.path)).getD text

theorem ran_reference {s : Settings} {field : Expr} {w w' : Workspace} {path : String}
    (h : Ran (reference s field) w path w') : w' = w ∧ Resolves s w.table field path := by
  obtain ⟨text, w₁, hwalk, hfind⟩ := ran_bind.mp h
  obtain ⟨htext, rfl⟩ := ran_walk.mp hwalk
  obtain ⟨w₂, w₃, hget, hpath⟩ := ran_bind.mp hfind
  cases hget
  obtain ⟨rfl, rfl⟩ := ran_pure.mp hpath
  exact ⟨rfl, text, htext, rfl⟩

theorem keepsDepth_reference (s : Settings) (field : Expr) :
    Keeps Workspace.depth (reference s field) := by
  intro w path w' h
  rw [(ran_reference h).1]

/-- A sort key that comes to a column or to its own text, with the direction it asks for. -/
def SortsBy (s : Settings) (table : Workspace) (field : SortField) (key : SortKey) : Prop :=
  Resolves s table field.field key.column ∧ key.direction = field.direction

theorem ran_sortKeys {s : Settings} (fields : List SortField) {w w' : Workspace}
    {keys : List SortKey} (h : Ran (sortKeys s fields) w keys w') :
    w' = w ∧ List.Forall₂ (SortsBy s w.table) fields keys := by
  induction fields generalizing keys with
  | nil =>
      obtain ⟨rfl, rfl⟩ := ran_pure.mp h
      exact ⟨rfl, .nil⟩
  | cons field fields ih =>
      obtain ⟨column, w₁, hcolumn, h⟩ := ran_bind.mp h
      obtain ⟨rest, w₂, hrest, h⟩ := ran_bind.mp h
      obtain ⟨rfl, rfl⟩ := ran_pure.mp h
      obtain ⟨rfl, hresolves⟩ := ran_reference hcolumn
      obtain ⟨rfl, hkeys⟩ := ih hrest
      exact ⟨rfl, .cons ⟨hresolves, rfl⟩ hkeys⟩

theorem keepsDepth_sortKeys (s : Settings) (fields : List SortField) :
    Keeps Workspace.depth (sortKeys s fields) := by
  intro w keys w' h
  rw [(ran_sortKeys fields h).1]

theorem keepsTable_ignore (step : String) : Keeps Workspace.table (ignore step) :=
  .modify fun _ => rfl

theorem keepsTable_limit (s : Settings) (amount : Expr) (present : Option Int) :
    Keeps Workspace.table (limit s amount present) := by
  unfold limit
  refine .bind (.walk _) fun text => .bind (.ofExcept _) fun count => ?_
  split
  case h_1 => exact .pure _
  case h_2 =>
      split
      case isTrue => exact .bind (.throw _) fun _ => .bind (.modify fun _ => rfl) fun _ => .pure _
      case isFalse => exact .bind (.modify fun _ => rfl) fun _ => .pure _

/-! ## Operations -/

section LastOf

variable {β γ : Type}

/-- The clause of an operation that keeps pages. -/
def clause? : Operation → Option Expr
  | .keep clause => some clause
  | _ => none

/-- The keys of an operation that sorts rows. -/
def sort? : Operation → Option (List SortField)
  | .sort fields => some fields
  | _ => none

/-- The field of an operation that groups rows. -/
def group? : Operation → Option NamedField
  | .group field => some field
  | _ => none

/-- What the last operation of a kind asks for. -/
def lastOf? (ask : Operation → Option β) : List Operation → Option β
  | [] => none
  | op :: ops => (lastOf? ask ops).or (ask op)

/-- The last clause that keeps pages. -/
def lastClause? : List Operation → Option Expr
  | [] => none
  | op :: ops => (lastClause? ops).or (clause? op)

theorem lastOf?_clause? (ops : List Operation) : lastOf? clause? ops = lastClause? ops := by
  induction ops with
  | nil => rfl
  | cons op ops ih => rw [lastOf?, lastClause?, ih]

/-- What a slot holds after it has been asked for something, if it has, and as before if not. -/
def SetBy (R : β → γ → Prop) (before after : Option γ) : Option β → Prop
  | some b => ∃ c, R b c ∧ after = some c
  | none => after = before

theorem SetBy.imp {R R' : β → γ → Prop} (hR : ∀ b c, R b c → R' b c) {before after : Option γ}
    {asked : Option β} (h : SetBy R before after asked) : SetBy R' before after asked := by
  cases asked with
  | none => exact h
  | some b =>
      obtain ⟨c, hc, hafter⟩ := h
      exact ⟨c, hR b c hc, hafter⟩

theorem SetBy.trans {R : β → γ → Prop} {before middle after : Option γ} {first last : Option β}
    (h : SetBy R before middle first) (h' : SetBy R middle after last) :
    SetBy R before after (last.or first) := by
  cases last with
  | some b => exact h'
  | none =>
      have hsame : after = middle := h'
      rw [hsame]
      exact h

end LastOf

/-- What is kept, how rows are sorted and by what they are grouped, after a clause, sort keys and a
group key have been asked for. -/
structure Sets (s : Settings) (table : Workspace) (before after : Slots) (clause : Option Expr)
    (sort : Option (List SortField)) (group : Option NamedField) : Prop where
  kept : SetBy (fun clause c => clause.condition s.treeLimit table.depth = .ok c) before.kept
    after.kept clause
  sort : SetBy (List.Forall₂ (SortsBy s table)) before.sort after.sort sort
  groupBy : SetBy (fun field path => Resolves s table field.field path) before.groupBy
    after.groupBy group

/-- One operation leaves the table alone, and every slot that it does not ask for. -/
theorem ran_operation {s : Settings} {slots slots' : Slots} {op : Operation} {w w' : Workspace}
    (h : Ran (operation s slots op) w slots' w') :
    w'.table = w.table ∧ Sets s w.table slots slots' (clause? op) (sort? op) (group? op) := by
  cases op with
  | keep clause =>
      obtain ⟨c, w₁, hwalk, hset⟩ := ran_bind.mp h
      obtain ⟨hcondition, rfl⟩ := ran_walk.mp hwalk
      obtain ⟨rfl, rfl⟩ := ran_pure.mp hset
      exact ⟨rfl, ⟨c, hcondition, rfl⟩, rfl, rfl⟩
  | sort fields =>
      obtain ⟨keys, w₁, hkeys, h⟩ := ran_bind.mp h
      obtain ⟨rfl, rfl⟩ := ran_pure.mp h
      obtain ⟨rfl, hsorts⟩ := ran_sortKeys fields hkeys
      exact ⟨rfl, rfl, ⟨keys, hsorts, rfl⟩, rfl⟩
  | limit amount =>
      obtain ⟨count, w₁, hcount, h⟩ := ran_bind.mp h
      obtain ⟨rfl, rfl⟩ := ran_pure.mp h
      exact ⟨keepsTable_limit s amount _ _ _ _ hcount, rfl, rfl, rfl⟩
  | group field =>
      obtain ⟨key, w₁, hkey, h⟩ := ran_bind.mp h
      obtain ⟨rfl, rfl⟩ := ran_pure.mp h
      obtain ⟨rfl, hresolves⟩ := ran_reference hkey
      exact ⟨rfl, rfl, rfl, key, hresolves, rfl⟩
  | flatten field =>
      obtain ⟨_, w₁, hnote, h⟩ := ran_bind.mp h
      obtain ⟨rfl, rfl⟩ := ran_pure.mp h
      exact ⟨keepsTable_ignore _ _ _ _ hnote, rfl, rfl, rfl⟩
  | extract fields =>
      obtain ⟨_, w₁, hnote, h⟩ := ran_bind.mp h
      obtain ⟨rfl, rfl⟩ := ran_pure.mp h
      exact ⟨keepsTable_ignore _ _ _ _ hnote, rfl, rfl, rfl⟩
  | foreign node => exact absurd h not_ran_throw

/-- The last operation of a kind decides about its slot. -/
theorem ran_operations {s : Settings} (ops : List Operation) {slots slots' : Slots}
    {w w' : Workspace} (h : Ran (operations s slots ops) w slots' w') :
    w'.table = w.table ∧ Sets s w.table slots slots' (lastClause? ops) (lastOf? sort? ops)
      (lastOf? group? ops) := by
  rw [← lastOf?_clause?]
  induction ops generalizing slots w with
  | nil =>
      obtain ⟨rfl, rfl⟩ := ran_pure.mp h
      exact ⟨rfl, rfl, rfl, rfl⟩
  | cons op ops ih =>
      obtain ⟨middle, w₁, hop, hops⟩ := ran_bind.mp h
      obtain ⟨htable, hfirst⟩ := ran_operation hop
      obtain ⟨htable', hrest⟩ := ih hops
      rw [htable] at htable' hrest
      exact ⟨htable', hfirst.kept.trans hrest.kept, hfirst.sort.trans hrest.sort,
        hfirst.groupBy.trans hrest.groupBy⟩

theorem depth_of_ran_operations {s : Settings} {ops : List Operation} {slots slots' : Slots}
    {w w' : Workspace} (h : Ran (operations s slots ops) w slots' w') : w'.depth = w.depth :=
  congrArg (·.depth) (ran_operations ops h).1

end Work

/-! ## The whole query -/

/-- The base that is put together from the labels, the formulas, the condition of the source and
what the operations have set. -/
def Work.assembled (s : Settings) (inView : Option Bool) (display formulas : List (String × String))
    (source : Option Condition) (slots : Slots) : Base Condition where
  filters := if inView.getD s.filtersInView then none else Condition.both source slots.kept
  formulas := if formulas.isEmpty then none else some formulas
  display := if display.isEmpty then none else some display
  views := [
    { name := s.viewName
      limit := slots.limit
      filters := if inView.getD s.filtersInView then Condition.both source slots.kept else none
      order := if display.isEmpty then none else some (display.map (·.1))
      groupBy := slots.groupBy
      sort := slots.sort }]

/-- The work on a query starts from an empty table, goes on with the source at the top, and ends
with the operations. -/
theorem Work.parts_of_ran_base {s : Settings} {q : Query} {inView : Option Bool}
    {b : Base Condition} {w w' : Workspace} (h : Ran (base s q inView) w b w') :
    ∃ display source slots w₁,
      Ran (header s q.header) { remarks := w.remarks } display w₁ ∧ w₁.depth = 0 ∧
      q.source.condition s.treeLimit 0 = .ok source ∧
      Ran (operations s {} q.operations) w₁ slots w' ∧
      b = assembled s inView display w'.formulas source slots := by
  obtain ⟨_, w₁, hreset, h⟩ := ran_bind.mp h
  obtain ⟨display, w₂, hheader, h⟩ := ran_bind.mp h
  obtain ⟨source, w₃, hsource, h⟩ := ran_bind.mp h
  obtain ⟨slots, w₄, hslots, h⟩ := ran_bind.mp h
  obtain ⟨w₅, w₆, hget, h⟩ := ran_bind.mp h
  obtain ⟨rfl, rfl⟩ := ran_pure.mp h
  cases hreset
  cases hget
  obtain ⟨hcondition, rfl⟩ := ran_walk.mp hsource
  have hdepth : w₃.depth = 0 := keepsDepth_header s q.header _ _ _ hheader
  rw [hdepth] at hcondition
  refine ⟨display, source, slots, w₃, hheader, hdepth, hcondition, hslots, ?_⟩
  cases display <;> rfl

/-- The filter of a base, wherever it stands. -/
def Base.combined (b : Base Condition) : Option Condition :=
  b.filters.or (b.views.findSome? (·.filters))

/-- The filter of a base joins the condition of the source and that of the last clause that keeps
pages, whatever state the work starts from. -/
theorem Work.ran_base {s : Settings} {q : Query} {inView : Option Bool} {b : Base Condition}
    {w w' : Workspace} (h : Ran (base s q inView) w b w') :
    ∃ source kept, q.source.condition s.treeLimit 0 = .ok source ∧
      SetBy (fun clause c => clause.condition s.treeLimit 0 = .ok c) none kept
        (lastClause? q.operations) ∧
      b.combined = Condition.both source kept := by
  obtain ⟨display, source, slots, w₁, -, hdepth, hsource, hslots, rfl⟩ := parts_of_ran_base h
  have hkept := (ran_operations q.operations hslots).2.kept
  have htable : w₁.table.depth = 0 := hdepth
  rw [htable] at hkept
  refine ⟨source, slots.kept, hsource, hkept, ?_⟩
  simp only [Base.combined, assembled]
  cases inView.getD s.filtersInView <;> simp

end VaultQuery
