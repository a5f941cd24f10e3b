import VaultQuery.Proofs.Expr.Plain

/-!
Brackets among conjunctions, and among disjunctions.  The operands of an operator are what is left
of an expression when the nodes of that operator are taken away, whatever their brackets are.  If
they are predicates, then the condition of the expression is one group of their conditions, in
their order (`plain_eq_group`); so the brackets do not matter, and the limit is all that can tell
two ways to set them apart.
-/

namespace VaultQuery

theorem Filter.spread_join {κ α : Type} [DecidableEq κ] (c : κ) (f g : Filter κ α) :
    (f.join c g).spread c = f.spread c ++ g.spread c :=
  if_pos rfl

namespace Expr

/-! ## Operands -/

/-- The operands that nodes of an operator join, from left to right. -/
def operands (op : BinOp) : Expr → List Expr
  | .binary o left right =>
    if o = op then operands op left ++ operands op right else [.binary o left right]
  | e => [e]

/-- A node of an operator. -/
def isNodeOf (op : BinOp) : Expr → Bool
  | .binary o _ _ => o = op
  | _ => false

theorem operands_node (op : BinOp) (left right : Expr) :
    operands op (.binary op left right) = operands op left ++ operands op right := by
  rw [operands, if_pos rfl]

theorem operands_of_not_isNodeOf {op : BinOp} {e : Expr} (h : e.isNodeOf op = false) :
    operands op e = [e] := by
  cases e with
  | binary o left right => rw [operands, if_neg (by simpa [isNodeOf] using h)]
  | _ => rfl

theorem operands_ne_nil (op : BinOp) (e : Expr) : operands op e ≠ [] := by
  fun_induction operands op e <;> simp_all

/-- What joins predicates is one. -/
theorem isPredicate_of_operands {op : BinOp} (hop : op.isLogical = true) (e : Expr)
    (h : ∀ m ∈ operands op e, m.isPredicate = true) : e.isPredicate = true := by
  fun_induction operands op e with
  | case1 left right ihl ihr =>
      have hleft := ihl fun m hm => h m (List.mem_append_left _ hm)
      simp [isPredicate, hop, hleft]
  | case2 o left right ho => exact h _ List.mem_cons_self
  | case3 e => exact h _ List.mem_cons_self

/-! ## Conditions of operands -/

theorem connective_inj {op o : BinOp} (hop : op.isLogical = true) (ho : o.isLogical = true)
    (h : connective op = connective o) : op = o := by
  cases op <;> cases o <;> simp_all [connective, BinOp.isLogical]

theorem leaf_of_plain {e : Expr} (hnot : e.isNegated = false) (hlogical : e.isLogical = false)
    {c : Condition} (h : plain e = .ok c) : ∃ text, c = .leaf text := by
  obtain ⟨limit, hlimit⟩ := exists_limit operatorChanges (visits 1 e)
  exact leaf_of_lower hnot hlogical (condition_eq_ok_iff.mpr ⟨h, hlimit⟩)

theorem plain_logical {op : BinOp} (hop : op.isLogical = true) {left right : Expr}
    (h : (left.isPredicate || right.isPredicate) = true) :
    plain (.binary op left right) = (do
      let value ← plain left
      let rightValue ← plain right
      return (member left value).join (connective op) (member right rightValue)) := by
  rw [plain]
  simp only [hop, h, if_true]

/-- A predicate that is no node of an operator is one member of a group of that operator. -/
theorem spread_operand {op : BinOp} (hop : op.isLogical = true) {e : Expr}
    (hnode : e.isNodeOf op = false) (hpred : e.isPredicate = true) {c : Condition}
    (h : plain e = .ok c) : (member e c).spread (connective op) = [c] := by
  cases e with
  | negated child =>
      rw [plain] at h
      obtain ⟨value, -, h⟩ := bind_eq_ok.mp h
      obtain rfl := Except.ok.inj h
      exact if_neg (connective_ne_not op).symm
  | call name args =>
      obtain ⟨text, rfl⟩ := leaf_of_plain rfl rfl h
      rfl
  | binary o left right =>
      cases ho : o.isLogical with
      | false =>
          obtain ⟨text, rfl⟩ := leaf_of_plain (e := .binary o left right) rfl ho h
          simp [member, Expr.isLogical, ho, Filter.spread]
      | true =>
          have hside : (left.isPredicate || right.isPredicate) = true := by
            have hcomparison : o.isComparison = false := by cases o <;> first | rfl | cases ho
            simpa [isPredicate, ho, hcomparison] using hpred
          have hne : connective o ≠ connective op := by
            intro heq
            simp [isNodeOf, connective_inj ho hop heq] at hnode
          rw [plain_logical ho hside] at h
          obtain ⟨value, -, h⟩ := bind_eq_ok.mp h
          obtain ⟨rightValue, -, h⟩ := bind_eq_ok.mp h
          obtain rfl := Except.ok.inj h
          exact if_neg hne
  | _ => cases hpred

/-- The members that an expression adds to a group of an operator are the conditions of its
operands. -/
theorem plain_spread {op : BinOp} (hop : op.isLogical = true) (e : Expr)
    (h : ∀ m ∈ operands op e, m.isPredicate = true) :
    (plain e >>= fun c => pure ((member e c).spread (connective op))) =
      (operands op e).mapM plain := by
  have hsingle : ∀ e : Expr, e.isNodeOf op = false → e.isPredicate = true →
      (plain e >>= fun c => pure ((member e c).spread (connective op))) = [e].mapM plain := by
    intro e hnode hpred
    rw [List.mapM_cons, List.mapM_nil]
    cases hc : plain e with
    | error fault => rfl
    | ok c => exact congrArg Except.ok (spread_operand hop hnode hpred hc)
  fun_induction operands op e with
  | case1 left right ihl ihr =>
      have hl : ∀ m ∈ operands op left, m.isPredicate = true :=
        fun m hm => h m (List.mem_append_left _ hm)
      have hr : ∀ m ∈ operands op right, m.isPredicate = true :=
        fun m hm => h m (List.mem_append_right _ hm)
      rw [plain_logical hop (by simp [isPredicate_of_operands hop left hl]), List.mapM_append,
        ← ihl hl, ← ihr hr]
      cases plain left with
      | error fault => rfl
      | ok value =>
          cases plain right with
          | error fault => rfl
          | ok rightValue => exact congrArg Except.ok (Filter.spread_join ..)
  | case2 o left right ho =>
      exact hsingle _ (by simpa [isNodeOf] using ho) (h _ List.mem_cons_self)
  | case3 e hnot =>
      have hnode : e.isNodeOf op = false := by
        cases e with
        | binary o left right => exact absurd rfl (hnot o left right)
        | _ => rfl
      exact hsingle e hnode (h e List.mem_cons_self)

/-- Nodes of an operator that join predicates are one group of the conditions of these. -/
theorem plain_eq_group {op : BinOp} (hop : op.isLogical = true) {left right : Expr}
    (h : ∀ m ∈ operands op (.binary op left right), m.isPredicate = true) :
    plain (.binary op left right) =
      ((operands op (.binary op left right)).mapM plain).map (.group (connective op)) := by
  have hside : (left.isPredicate || right.isPredicate) = true := by
    have hleft := isPredicate_of_operands hop left fun m hm =>
      h m (operands_node op left right ▸ List.mem_append_left _ hm)
    rw [hleft, Bool.true_or]
  rw [← plain_spread hop _ h, plain_logical hop hside]
  cases plain left with
  | error fault => rfl
  | ok value =>
      cases plain right with
      | error fault => rfl
      | ok rightValue =>
          exact congrArg (Except.ok ∘ Filter.group (connective op)) (Filter.spread_join ..).symm

/-! ## Depth -/

theorem start_add (place : Place) (d k : Nat) (e : Expr) :
    start place (d + k) e = start place d e + k := by
  unfold start
  split <;> omega

mutual

/-- An expression that is worked on `k` levels further down is visited `k` levels further down. -/
theorem visits_add (k : Nat) (e : Expr) (d : Nat) :
    visits (d + k) e = (visits d e).map fun v => (v.1 + k, v.2) := by
  match e with
  | .var _ | .literal _ | .foreign _ => rfl
  | .negated child =>
      rw [visits, visits, List.map_cons, ← visits_add k child, Nat.add_right_comm]
  | .list items =>
      rw [visits, visits, List.map_cons, ← visitsAll_add k items, Nat.add_right_comm]
  | .call name args =>
      rw [visits, visits, List.map_cons]
      refine congrArg _ ?_
      split
      · rw [← visitsAll_add k args, Nat.add_right_comm]
      · rfl
  | .index object key =>
      by_cases hkey : ∃ name, key = .literal (.text name)
      · obtain ⟨name, rfl⟩ := hkey
        rw [visits, visits, List.map_cons, List.map_append, start_add, ← visits_add k object]
        rfl
      · rw [not_exists] at hkey
        rw [visits_element hkey, visits_element hkey, List.map_cons, List.map_append, start_add,
          ← visits_add k object, ← visits_add k key, Nat.add_right_comm]
  | .binary op left right =>
      rw [visits, visits, List.map_cons]
      refine congrArg _ ?_
      split
      · rw [List.map_append, start_add, ← visits_add k left, ← visits_add k right,
          Nat.add_right_comm]
      · rw [List.map_append, start_add, ← visits_add k left]
        refine congrArg _ ?_
        split
        · rw [← visits_add k right, Nat.add_right_comm]
        · rfl

theorem visitsAll_add (k : Nat) (es : List Expr) (d : Nat) :
    visitsAll (d + k) es = (visitsAll d es).map fun v => (v.1 + k, v.2) := by
  match es with
  | [] => rfl
  | e :: es =>
      rw [visitsAll, visitsAll, List.map_append, ← visits_add k e, ← visitsAll_add k es]

end

/-- The walk over an expression, from a depth on, stays within the limit. -/
def StaysWithin (limit depth : Nat) (e : Expr) : Prop :=
  ∀ v ∈ visits (depth + 1) e, Fits limit v

theorem staysWithin_of_condition {limit depth : Nat} {e : Expr} {c : Condition}
    (h : e.condition limit depth = .ok c) : StaysWithin limit depth e :=
  (condition_eq_ok_iff.mp h).2

theorem StaysWithin.condition_eq {limit depth : Nat} {e : Expr} (h : StaysWithin limit depth e) :
    e.condition limit depth = plain e := by
  have hwalk : Bounded operatorChanges limit (visits (depth + 1) e) (e.condition limit depth)
      (plain e) := start_alone depth e ▸ bounded_lower e .alone depth
  exact hwalk.eq h

/-- An expression that stays within the limit at some depth does so at every lesser one. -/
theorem StaysWithin.of_start {limit depth : Nat} {place : Place} {e : Expr}
    (h : ∀ v ∈ visits (start place (depth + 1) e) e, Fits limit v) : StaysWithin limit depth e := by
  intro v hv
  obtain ⟨k, hk⟩ := Nat.exists_eq_add_of_le (le_start place (depth + 1) e)
  rw [hk, visits_add] at h
  have hdeep : v.1 + k + v.2.operatorChanges ≤ limit := h _ (List.mem_map_of_mem hv)
  show v.1 + v.2.operatorChanges ≤ limit
  omega

/-- The operands of an expression that stays within the limit stay within it by themselves. -/
theorem StaysWithin.operand {limit depth : Nat} {op : BinOp} (hop : op.isLogical = true) {e : Expr}
    (h : StaysWithin limit depth e) : ∀ m ∈ operands op e, StaysWithin limit depth m := by
  fun_induction operands op e with
  | case1 left right ihl ihr =>
      intro m hm
      rcases List.mem_append.mp hm with hm | hm
      · refine ihl (@of_start limit depth .logical left ?_) m hm
        intro v hv
        exact h v ((mem_visits_logical hop).mpr (.inr (.inl hv)))
      · refine ihr (@of_start limit depth .alone right ?_) m hm
        intro v hv
        rw [start_alone] at hv
        exact h v ((mem_visits_logical hop).mpr (.inr (.inr hv)))
  | case2 o left right ho =>
      intro m hm
      rwa [List.mem_singleton.mp hm]
  | case3 e =>
      intro m hm
      rwa [List.mem_singleton.mp hm]

theorem mapM_congr {α β : Type} {f g : α → Except Fault β} {l : List α}
    (h : ∀ a ∈ l, f a = g a) : l.mapM f = l.mapM g := by
  induction l with
  | nil => rfl
  | cons a l ih =>
      rw [List.mapM_cons, List.mapM_cons, h a List.mem_cons_self,
        ih fun b hb => h b (List.mem_cons_of_mem _ hb)]

/-- A node of an operator that stays within the limit is one group of the conditions that its
operands have by themselves. -/
theorem StaysWithin.condition_eq_group {op : BinOp} (hop : op.isLogical = true) {left right : Expr}
    (hpred : ∀ m ∈ operands op (.binary op left right), m.isPredicate = true) {limit depth : Nat}
    (h : StaysWithin limit depth (.binary op left right)) :
    (Expr.binary op left right).condition limit depth =
      ((operands op (.binary op left right)).mapM (condition limit depth)).map
        (.group (connective op)) := by
  have hoperands : (operands op (.binary op left right)).mapM (condition limit depth) =
      (operands op (.binary op left right)).mapM plain := by
    refine mapM_congr ?_
    intro m hm
    exact (h.operand hop m hm).condition_eq
  rw [h.condition_eq, hoperands, plain_eq_group hop hpred]

/-- An expression with the operands of a node is a node of the same operator. -/
theorem exists_node_of_operands {op : BinOp} {e left right : Expr}
    (h : operands op e = operands op (.binary op left right)) :
    ∃ left' right', e = .binary op left' right' := by
  cases hnode : e.isNodeOf op with
  | true =>
      cases e with
      | binary o left' right' =>
          obtain rfl : o = op := by simpa [isNodeOf] using hnode
          exact ⟨left', right', rfl⟩
      | _ => cases hnode
  | false =>
      have hlength := congrArg List.length h
      have hleft := List.length_pos_iff.mpr (operands_ne_nil op left)
      have hright := List.length_pos_iff.mpr (operands_ne_nil op right)
      rw [operands_of_not_isNodeOf hnode, operands_node, List.length_append,
        List.length_singleton] at hlength
      omega

/-- Conjunctions of predicates under conjunctions, and likewise disjunctions, are one group with the
conditions of all that they join, from left to right.  So two ways to set the brackets give the same
condition, as far as both stay within the limit; and what has a condition does. -/
theorem brackets_do_not_matter {op : BinOp} (hop : op.isLogical = true) {left right : Expr}
    (hpred : ∀ m ∈ operands op (.binary op left right), m.isPredicate = true) {limit depth : Nat} :
    (StaysWithin limit depth (.binary op left right) →
      (Expr.binary op left right).condition limit depth =
        ((operands op (.binary op left right)).mapM (condition limit depth)).map
          (.group (connective op))) ∧
    (∀ c, (Expr.binary op left right).condition limit depth = .ok c →
      StaysWithin limit depth (.binary op left right)) ∧
    ∀ e : Expr, operands op e = operands op (.binary op left right) →
      StaysWithin limit depth e → StaysWithin limit depth (.binary op left right) →
        e.condition limit depth = (Expr.binary op left right).condition limit depth := by
  refine ⟨fun h => h.condition_eq_group hop hpred, fun c h => staysWithin_of_condition h, ?_⟩
  intro e hoperands he h
  obtain ⟨left', right', rfl⟩ := exists_node_of_operands hoperands
  have hpred' : ∀ m ∈ operands op (.binary op left' right'), m.isPredicate = true := by
    intro m hm
    exact hpred m (hoperands ▸ hm)
  rw [he.condition_eq_group hop hpred', h.condition_eq_group hop hpred, hoperands]

/-- Four predicates with brackets around the last two and the first two. -/
def pairedConjunction : Expr :=
  .binary .and (.binary .and (.binary .eq (.var "a") (.var "b")) (.negated (.var "c")))
    (.binary .and (.binary .or (.negated (.var "d")) (.var "e")) (.call "empty" [.var "f"]))

/-- The same predicates with brackets that close at the end. -/
def trailingConjunction : Expr :=
  .binary .and (.binary .eq (.var "a") (.var "b"))
    (.binary .and (.negated (.var "c"))
      (.binary .and (.binary .or (.negated (.var "d")) (.var "e")) (.call "empty" [.var "f"])))

theorem brackets_do_not_matter_trailing :
    BinOp.and.isLogical = true ∧
      (∀ m ∈ operands .and pairedConjunction, m.isPredicate = true) ∧
      operands .and trailingConjunction = operands .and pairedConjunction ∧
      trailingConjunction.condition 6 0 = pairedConjunction.condition 6 0 ∧
      pairedConjunction.condition 6 0 = .ok (.group .and [.leaf "a == b", .group .not [.leaf "c"],
        .group .or [.group .not [.leaf "d"], .leaf "e"], .leaf "isEmpty(f)"]) := by
  have hpred : ∀ m ∈ operands .and pairedConjunction, m.isPredicate = true :=
    List.all_eq_true.mp rfl
  obtain ⟨-, hstays, hsame⟩ := @brackets_do_not_matter .and rfl _ _ hpred 6 0
  exact ⟨rfl, hpred, rfl,
    hsame trailingConjunction rfl (staysWithin_of_condition rfl) (hstays _ rfl), rfl⟩

end Expr

end VaultQuery
