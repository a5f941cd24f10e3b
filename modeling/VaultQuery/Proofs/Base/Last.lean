import VaultQuery.Proofs.Base.Entry

/-!
Which operations of a query decide about its base.  Of the clauses that keep pages, the sort keys
and the group keys the last one decides, so all others can be left out.  A limit that is no positive
integer enters nothing: it does not take back the limit before it, and the last positive integer
among the limits decides (`last_of_each_kind_decides`).
-/

namespace VaultQuery

/-! ## The last one of each kind -/

section LastOfEach

variable {α β : Type}

/-- The elements that fill a slot which no later element fills. -/
def lastOfEach (slot? : α → Option Work.Slot) : List α → List α
  | [] => []
  | a :: l =>
    if (slot? a).isSome && !l.any (slot? · == slot? a) then a :: lastOfEach slot? l
    else lastOfEach slot? l

variable {slot? : α → Option Work.Slot}

/-- An element is left out because it fills no slot, or because a later element fills the same. -/
theorem lastOfEach_cons (slot? : α → Option Work.Slot) (a : α) (l : List α) :
    lastOfEach slot? (a :: l) = a :: lastOfEach slot? l ∧ (∀ x ∈ l, slot? x ≠ slot? a) ∨
      lastOfEach slot? (a :: l) = lastOfEach slot? l ∧
        (slot? a = none ∨ ∃ x ∈ l, slot? x = slot? a) := by
  rw [lastOfEach]
  split
  case isTrue h =>
      refine .inl ⟨rfl, fun x hx heq => ?_⟩
      simp only [Bool.and_eq_true, Bool.not_eq_true', List.any_eq_false, beq_iff_eq] at h
      exact h.2 x hx heq
  case isFalse h =>
      refine .inr ⟨rfl, ?_⟩
      cases hslot : slot? a with
      | none => exact .inl rfl
      | some k =>
          simp only [hslot, Option.isSome_some, Bool.true_and, Bool.not_eq_true',
            Bool.not_eq_false, List.any_eq_true, beq_iff_eq] at h
          exact .inr h

theorem findSome?_reverse_cons (ask : α → Option β) (a : α) (l : List α) :
    (a :: l).reverse.findSome? ask = (l.reverse.findSome? ask).or (ask a) := by
  rw [List.reverse_cons, List.findSome?_append, List.findSome?_singleton]

theorem findSome?_reverse_isSome {ask : α → Option β} {l : List α} {x : α} (hx : x ∈ l)
    (hask : (ask x).isSome = true) : ∃ y, l.reverse.findSome? ask = some y := by
  rw [← Option.isSome_iff_exists, List.findSome?_isSome_iff]
  exact ⟨x, List.mem_reverse.mpr hx, hask⟩

/-- What the last element with a slot says can be asked of the last ones of each kind. -/
theorem findSome?_lastOfEach {ask : α → Option β} {k : Work.Slot} {l : List α}
    (hask : ∀ x ∈ l, (ask x).isSome = true ↔ slot? x = some k) :
    (lastOfEach slot? l).reverse.findSome? ask = l.reverse.findSome? ask := by
  induction l with
  | nil => rfl
  | cons a l ih =>
      have ih := ih fun x hx => hask x (List.mem_cons_of_mem a hx)
      have ha := hask a List.mem_cons_self
      rw [findSome?_reverse_cons]
      rcases lastOfEach_cons slot? a l with ⟨hcons, -⟩ | ⟨hdrop, hslot⟩
      · rw [hcons, findSome?_reverse_cons, ih]
      · rw [hdrop, ih]
        cases hanswer : ask a with
        | none => rw [Option.or_none]
        | some y =>
            -- the element would answer, so a later one fills its slot and answers too
            rw [hanswer] at ha
            have hk : slot? a = some k := ha.mp rfl
            rcases hslot with hnone | ⟨x, hx, hsame⟩
            · rw [hk] at hnone
              cases hnone
            · have hlater := (hask x (List.mem_cons_of_mem a hx)).mpr (hsame.trans hk)
              obtain ⟨z, hz⟩ := findSome?_reverse_isSome hx hlater
              rw [hz]
              rfl

/-- If several elements of a kind answer or do not, the last one of each kind answers for itself. -/
theorem findSome?_join_lastOfEach {ask : α → Option (Option β)} {k : Work.Slot} {l : List α}
    (hask : ∀ x ∈ l, (ask x).isSome = true ↔ slot? x = some k) :
    (lastOfEach slot? l).reverse.findSome? (fun x => (ask x).join) =
      (l.reverse.findSome? ask).join := by
  induction l with
  | nil => rfl
  | cons a l ih =>
      have ih := ih fun x hx => hask x (List.mem_cons_of_mem a hx)
      have ha := hask a List.mem_cons_self
      rw [findSome?_reverse_cons]
      rcases lastOfEach_cons slot? a l with ⟨hcons, halone⟩ | ⟨hdrop, hslot⟩
      · rw [hcons, findSome?_reverse_cons, ih]
        cases hanswer : ask a with
        | none =>
            rw [Option.or_none]
            exact Option.or_none
        | some y =>
            rw [hanswer] at ha
            have hrest : l.reverse.findSome? ask = none := by
              rw [List.findSome?_eq_none_iff]
              intro x hx
              have hx := List.mem_reverse.mp hx
              cases hother : ask x with
              | none => rfl
              | some z =>
                  have hk := (hask x (List.mem_cons_of_mem a hx)).mp (by rw [hother]; rfl)
                  exact absurd (hk.trans (ha.mp rfl).symm) (halone x hx)
            rw [hrest]
            rfl
      · rw [hdrop, ih]
        cases hanswer : ask a with
        | none => rw [Option.or_none]
        | some y =>
            rw [hanswer] at ha
            rcases hslot with hnone | ⟨x, hx, hsame⟩
            · rw [ha.mp rfl] at hnone
              cases hnone
            · have hlater := (hask x (List.mem_cons_of_mem a hx)).mpr (hsame.trans (ha.mp rfl))
              obtain ⟨z, hz⟩ := findSome?_reverse_isSome hx hlater
              rw [hz]
              rfl

variable {R : α → β → Prop} {slotβ? : β → Option Work.Slot}

theorem forall₂_lastOfEach (hR : ∀ a b, R a b → slotβ? b = slot? a) {l : List α} {l' : List β}
    (h : List.Forall₂ R l l') :
    List.Forall₂ R (lastOfEach slot? l) (lastOfEach slotβ? l') := by
  induction h with
  | nil => exact .nil
  | @cons a b l l' hab hl ih =>
      have hany : ∀ k, l'.any (slotβ? · == k) = l.any (slot? · == k) := by
        intro k
        clear ih
        induction hl with
        | nil => rfl
        | cons hab _ ih => rw [List.any_cons, List.any_cons, ih, hR _ _ hab]
      rw [lastOfEach, lastOfEach, hR a b hab, hany]
      split
      case isTrue => exact .cons hab ih
      case isFalse => exact ih

theorem findSome?_reverse_eq {γ : Type} {f : α → Option γ} {g : β → Option γ}
    (hR : ∀ a b, R a b → g b = f a) {l : List α} {l' : List β} (h : List.Forall₂ R l l') :
    l'.reverse.findSome? g = l.reverse.findSome? f := by
  induction h with
  | nil => rfl
  | cons hab _ ih => rw [findSome?_reverse_cons, findSome?_reverse_cons, ih, hR _ _ hab]

end LastOfEach

/-! ## What the entries leave -/

namespace Work

def Entry.kept? : Entry → Option Condition
  | .kept c => some c
  | _ => none

def Entry.keys? : Entry → Option (List SortKey)
  | .sort keys => some keys
  | _ => none

def Entry.limit? : Entry → Option (Option Int)
  | .limit rows => some rows
  | _ => none

def Entry.rows? (x : Entry) : Option Int :=
  x.limit?.join

def Entry.path? : Entry → Option String
  | .groupBy path => some path
  | _ => none

/-- A limit that is no positive integer. -/
def Entry.isIdle : Entry → Bool
  | .limit none => true
  | _ => false

/-- After all entries a slot has what the last one that entered something left there. -/
theorem foldl_put (xs : List Entry) (slots : Slots) :
    xs.foldl Slots.put slots =
      { kept := (xs.reverse.findSome? Entry.kept?).or slots.kept
        sort := (xs.reverse.findSome? Entry.keys?).or slots.sort
        limit := (xs.reverse.findSome? Entry.rows?).or slots.limit
        groupBy := (xs.reverse.findSome? Entry.path?).or slots.groupBy } := by
  induction xs generalizing slots with
  | nil => rfl
  | cons x xs ih =>
      have hput : slots.put x =
          { kept := x.kept?.or slots.kept, sort := x.keys?.or slots.sort
            limit := x.rows?.or slots.limit, groupBy := x.path?.or slots.groupBy } := by
        cases x <;> rfl
      rw [List.foldl_cons, ih, hput]
      simp only [findSome?_reverse_cons, Option.or_assoc]

theorem foldl_put_empty (xs : List Entry) :
    xs.foldl Slots.put {} =
      { kept := xs.reverse.findSome? Entry.kept?
        sort := xs.reverse.findSome? Entry.keys?
        limit := xs.reverse.findSome? Entry.rows?
        groupBy := xs.reverse.findSome? Entry.path? } := by
  rw [foldl_put]
  simp only [Option.or_none]

/-- The last entries of each kind leave what all entries leave, but for the limit. -/
theorem foldl_put_lastOfEach (xs : List Entry) :
    (lastOfEach Entry.slot? xs).foldl Slots.put {} =
      { xs.foldl Slots.put {} with
        limit := (lastOfEach Entry.slot? xs).reverse.findSome? Entry.rows? } := by
  have hkept : (lastOfEach Entry.slot? xs).reverse.findSome? Entry.kept? =
      xs.reverse.findSome? Entry.kept? :=
    findSome?_lastOfEach (k := .kept) fun x _ => by cases x <;> simp [Entry.kept?, Entry.slot?]
  have hkeys : (lastOfEach Entry.slot? xs).reverse.findSome? Entry.keys? =
      xs.reverse.findSome? Entry.keys? :=
    findSome?_lastOfEach (k := .sort) fun x _ => by cases x <;> simp [Entry.keys?, Entry.slot?]
  have hpath : (lastOfEach Entry.slot? xs).reverse.findSome? Entry.path? =
      xs.reverse.findSome? Entry.path? :=
    findSome?_lastOfEach (k := .groupBy) fun x _ => by cases x <;> simp [Entry.path?, Entry.slot?]
  rw [foldl_put_empty, foldl_put_empty, hkept, hkeys, hpath]

/-- As limit they leave that of the last limit, whether it has any rows or not. -/
theorem rows?_lastOfEach (xs : List Entry) :
    (lastOfEach Entry.slot? xs).reverse.findSome? Entry.rows? =
      (xs.reverse.findSome? Entry.limit?).join :=
  findSome?_join_lastOfEach (k := .limit) fun x _ => by
    cases x <;> simp [Entry.limit?, Entry.slot?]

theorem foldl_put_filter_idle (xs : List Entry) (slots : Slots) :
    (xs.filter (!·.isIdle)).foldl Slots.put slots = xs.foldl Slots.put slots := by
  induction xs generalizing slots with
  | nil => rfl
  | cons x xs ih =>
      rw [List.filter_cons]
      split
      case isTrue => exact ih (slots.put x)
      case isFalse h =>
          have hput : slots.put x = slots := by
            cases x with
            | limit rows =>
                cases rows with
                | none => rfl
                | some n => exact absurd rfl h
            | _ => exact absurd rfl h
          rw [List.foldl_cons, hput, ih]

/-- Without the limits that are no positive integers, the last entries of each kind leave what all
entries leave. -/
theorem foldl_put_lastOfEach_filter_idle (xs : List Entry) :
    (lastOfEach Entry.slot? (xs.filter (!·.isIdle))).foldl Slots.put {} =
      xs.foldl Slots.put {} := by
  have hrows : (lastOfEach Entry.slot? (xs.filter (!·.isIdle))).reverse.findSome? Entry.rows? =
      (xs.filter (!·.isIdle)).reverse.findSome? Entry.rows? := by
    refine findSome?_lastOfEach (k := .limit) fun x hx => ?_
    have hbusy := (List.mem_filter.mp hx).2
    cases x with
    | limit rows =>
        cases rows with
        | none => cases hbusy
        | some n => exact ⟨fun _ => rfl, fun _ => rfl⟩
    | _ => simp [Entry.rows?, Entry.limit?, Entry.slot?]
  rw [foldl_put_lastOfEach, hrows, ← foldl_put_filter_idle xs, foldl_put_empty]

end Work

/-! ## Which operations decide -/

/-- The rows that an operation limits a view to: those of a limit that is a positive integer. -/
def Operation.rows? (s : Settings) : Operation → Option Int
  | .limit amount =>
    ((amount.baseText s.treeLimit 0).bind (Work.rowCount? amount)).toOption.join.filter (0 < ·)
  | _ => none

/-- A limit that is no positive integer. -/
def Operation.isIdle (s : Settings) (op : Operation) : Bool :=
  op.slot? == some .limit && (op.rows? s).isNone

/-- A base with another limit for its views. -/
def Base.limitedTo {φ : Type} (b : Base φ) (rows : Option Int) : Base φ :=
  { b with views := b.views.map fun v => { v with limit := rows } }

namespace Work

section Decide

variable {s : Settings} {table : Workspace} {op : Operation} {x : Entry}

theorem Enters.limit?_eq (h : Enters s table op x) (hdepth : table.depth = 0) :
    x.limit? = if op.slot? = some .limit then some (op.rows? s) else none := by
  cases h with
  | limit htext hcount _ =>
      rw [hdepth] at htext
      simp [Entry.limit?, Operation.slot?, Operation.rows?, htext, hcount, Except.bind,
        Except.toOption]
  | _ => rfl

theorem Enters.rows?_eq (h : Enters s table op x) (hdepth : table.depth = 0) :
    x.rows? = op.rows? s := by
  rw [Entry.rows?, h.limit?_eq hdepth]
  cases op <;> rfl

theorem Enters.isIdle_eq (h : Enters s table op x) (hdepth : table.depth = 0) :
    x.isIdle = op.isIdle s := by
  have hslot := h.slot?_eq
  have hrows := h.rows?_eq hdepth
  rw [Operation.isIdle, ← hslot, ← hrows]
  cases x with
  | limit rows => cases rows <;> rfl
  | _ => rfl

end Decide

end Work

theorem find?_bind_eq {α β : Type} {p : α → Bool} {f : α → Option β} {l : List α}
    (hp : ∀ a, (f a).isSome = true → p a = true) (h : ((l.find? p).bind f).isSome = true) :
    (l.find? p).bind f = l.findSome? f := by
  induction l with
  | nil => rfl
  | cons a l ih =>
      rw [List.find?_cons, List.findSome?_cons]
      rw [List.find?_cons] at h
      cases hpa : p a with
      | true =>
          rw [hpa] at h
          obtain ⟨y, hy⟩ := Option.isSome_iff_exists.mp h
          have hfa : f a = some y := hy
          rw [hfa]
          exact hfa
      | false =>
          rw [hpa] at h
          have hnone : f a = none := by
            rw [← Option.not_isSome_iff_eq_none]
            intro hsome
            rw [hp a hsome] at hpa
            cases hpa
          rw [hnone]
          exact ih h

namespace Query

/-- The query with the last one of each kind of operations only, and without those that fill no
slot. -/
def lastOnly (q : Query) : Query :=
  { q with operations := lastOfEach Operation.slot? q.operations }

/-- The query without the limits that are no positive integers. -/
def withoutIdle (s : Settings) (q : Query) : Query :=
  { q with operations := q.operations.filter (!·.isIdle s) }

/-- The rows of the last limit, if there is a limit and the last one is a positive integer. -/
def lastRows? (s : Settings) (q : Query) : Option Int :=
  (q.operations.reverse.find? (·.slot? == some .limit)).bind (Operation.rows? s)

/-- The last positive integer among the limits. -/
def latestRows? (s : Settings) (q : Query) : Option Int :=
  q.operations.reverse.findSome? (Operation.rows? s)

/-- The last limit gives the last positive integer among the limits exactly if it is one itself, or
if none of them is. -/
theorem lastRows?_eq_latestRows?_iff (s : Settings) (q : Query) :
    q.lastRows? s = q.latestRows? s ↔
      (q.lastRows? s).isSome = true ∨ ∀ op ∈ q.operations, op.rows? s = none := by
  constructor
  · intro h
    cases hlast : q.lastRows? s with
    | some n => exact .inl rfl
    | none =>
        rw [hlast] at h
        refine .inr fun op hop => ?_
        exact List.findSome?_eq_none_iff.mp h.symm op (List.mem_reverse.mpr hop)
  · rintro (hsome | hnone)
    · refine find?_bind_eq (fun op hrows => ?_) hsome
      cases op with
      | limit amount => rfl
      | _ => cases hrows
    · have hlatest : q.latestRows? s = none :=
        List.findSome?_eq_none_iff.mpr fun op hop => hnone op (List.mem_reverse.mp hop)
      rw [hlatest]
      show (q.operations.reverse.find? _).bind _ = none
      rw [Option.bind_eq_none_iff]
      intro op hop
      exact hnone op (List.mem_reverse.mp (List.mem_of_find?_eq_some hop))

end Query

namespace Work

section LastRows

variable {s : Settings} {table : Workspace} {ops : List Operation} {xs : List Entry}

theorem forall₂_filter_idle (hdepth : table.depth = 0)
    (h : List.Forall₂ (Enters s table) ops xs) :
    List.Forall₂ (Enters s table) (ops.filter (!·.isIdle s)) (xs.filter (!·.isIdle)) := by
  induction h with
  | nil => exact .nil
  | cons hx _ ih =>
      rw [List.filter_cons, List.filter_cons, hx.isIdle_eq hdepth]
      split
      case isTrue => exact .cons hx ih
      case isFalse => exact ih

theorem join_limit?_eq (hdepth : table.depth = 0) (h : List.Forall₂ (Enters s table) ops xs) :
    (xs.reverse.findSome? Entry.limit?).join =
      (ops.reverse.find? (·.slot? == some .limit)).bind (Operation.rows? s) := by
  rw [findSome?_reverse_eq (fun _ _ hx => hx.limit?_eq hdepth) h]
  induction ops.reverse with
  | nil => rfl
  | cons op ops ih =>
      rw [List.findSome?_cons, List.find?_cons]
      by_cases hslot : op.slot? = some .limit
      · rw [if_pos hslot, hslot]
        rfl
      · rw [if_neg hslot, beq_false_of_ne hslot]
        exact ih

end LastRows

theorem eq_of_yields {α : Type} {x : Work α} {w : Workspace} {a a' : α} (h : Yields x w a)
    (h' : Yields x w a') : a = a' :=
  Except.ok.inj (h.symm.trans h')

end Work

section Main

variable {s : Settings} {q : Query} {inView : Option Bool} {w : Workspace}
  {b : Base Condition}

/-- The limit of a base is the last positive integer among the limits of its query.  Without the
limits that are none, the last one of each kind of operations makes the same base.  With them, the
last one of each kind makes this base with the limit of the last limit, so it makes the same base
exactly if that is a positive integer, or if no limit is. -/
theorem last_of_each_kind_decides (h : Work.Yields (Work.base s q inView) w b) :
    b.views.map (·.limit) = [q.latestRows? s] ∧
      Work.Yields (Work.base s (q.withoutIdle s).lastOnly inView) w b ∧
      Work.Yields (Work.base s q.lastOnly inView) w (b.limitedTo (q.lastRows? s)) ∧
      (Work.Yields (Work.base s q.lastOnly inView) w b ↔
        (q.lastRows? s).isSome = true ∨ ∀ op ∈ q.operations, op.rows? s = none) := by
  obtain ⟨display, source, table, hheader, hsource, xs, hxs, rfl⟩ := Work.yields_base_iff.mp h
  have hdepth : table.table.depth = 0 := Work.keepsDepth_header s q.header _ _ _ hheader
  have hslot : ∀ op x, Work.Enters s table.table op x → x.slot? = op.slot? :=
    fun _ _ hx => hx.slot?_eq
  have hlimit : (xs.foldl Work.Slots.put {}).limit = q.latestRows? s := by
    rw [Work.foldl_put_empty]
    exact findSome?_reverse_eq (fun _ _ hx => hx.rows?_eq hdepth) hxs
  have hshort : Work.Yields (Work.base s q.lastOnly inView) w
      ((Work.assembled s inView display table.formulas source
        (xs.foldl Work.Slots.put {})).limitedTo (q.lastRows? s)) := by
    refine Work.yields_base_iff.mpr ⟨display, source, table, hheader, hsource, _,
      forall₂_lastOfEach hslot hxs, ?_⟩
    rw [Work.foldl_put_lastOfEach, Work.rows?_lastOfEach, Work.join_limit?_eq hdepth hxs]
    rfl
  refine ⟨by rw [← hlimit]; rfl, ?_, hshort, ?_⟩
  · refine Work.yields_base_iff.mpr ⟨display, source, table, hheader, hsource, _,
      forall₂_lastOfEach hslot (Work.forall₂_filter_idle hdepth hxs), ?_⟩
    rw [Work.foldl_put_lastOfEach_filter_idle]
  · rw [← Query.lastRows?_eq_latestRows?_iff, ← hlimit]
    constructor
    · intro hsame
      have heq := Work.eq_of_yields hshort hsame
      have hviews := congrArg (fun b : Base Condition => b.views.map (·.limit)) heq
      exact List.head_eq_of_cons_eq hviews
    · intro heq
      rw [heq] at hshort
      exact hshort

/-- A table of one column that is limited to five rows, and then to none. -/
def relimitedQuery : Query where
  header := .table [⟨"a", .var "a", none⟩] true
  operations := [
    .limit (.literal (.number (.int 5))),
    .limit (.literal (.number (.int 0)))]

/-- The base of `relimitedQuery`: the first limit stands. -/
def relimitedBase : Base Condition where
  display := some [("file.name", "Name"), ("a", "A")]
  views := [{ limit := some 5, order := some ["file.name", "a"] }]

theorem last_of_each_kind_decides_relimited :
    Work.Yields (Work.base {} relimitedQuery none) {} relimitedBase ∧
      ¬ Work.Yields (Work.base {} relimitedQuery.lastOnly none) {} relimitedBase := by
  have h : Work.Yields (Work.base {} relimitedQuery none) {} relimitedBase := rfl
  refine ⟨h, fun hsame => ?_⟩
  rcases (last_of_each_kind_decides h).2.2.2.mp hsame with hlast | hnone
  · exact absurd hlast (by decide)
  · exact absurd (hnone _ List.mem_cons_self) (by decide)

end Main

end VaultQuery
