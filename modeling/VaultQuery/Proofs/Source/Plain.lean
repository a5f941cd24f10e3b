import VaultQuery.Proofs.Expr.Fault
import VaultQuery.Proofs.Expr.Loop
import VaultQuery.Proofs.Source.Truth

/-!
The plain lowering of a source, and what the walk over a source has to do with it: as for
expressions, the walk is a loop along every chain (`condition_eq_unrolled`), and it has the result
of the plain lowering unless a visit does not fit the limit (`bounded_lower`).
-/

namespace VaultQuery

namespace Source

/-! ## Visits and the plain lowering -/

/-- The sources that the walk works on, with their depths, if it works on a source at depth `d`. -/
def visits (d : Nat) : Source → List (Nat × Source)
  | .negated child => (d, .negated child) :: visits (d + 1) child
  | .joined joint left right =>
    (d, .joined joint left right) :: (visits (start true d left) left ++ visits (d + 1) right)
  | s => [(d, s)]

theorem self_mem_visits (d : Nat) (s : Source) : (d, s) ∈ visits d s := by
  cases s <;> exact List.mem_cons_self

/-- The condition of a source, made from those of its parts. -/
def plain : Source → Except Fault (Option Condition)
  | .folder path => .ok (if path.isEmpty then none else some (fileCall "inFolder" path))
  | .tag name => .ok (some (fileCall "hasTag" (String.ofList (name.toList.dropWhile (· == '#')))))
  | .link target => .ok (some (fileCall "hasLink" target))
  | .negated child => do
    let inner ← plain child
    return inner.map fun f => .group .not [f]
  | .joined joint left right =>
    match connective? joint with
    | none => .error .noOperand
    | some c => do
      let value ← plain left
      let rightValue ← plain right
      return joinOptional c value rightValue
  | .everything => .ok none
  | .foreign node => .error (.obstacle (.foreignSource node.label))

/-- A source whose joints are those of the query language has a plain lowering. -/
theorem exists_plain {s : Source} (h : s.isStandard = true) : ∃ r, plain s = .ok r := by
  induction s with
  | negated child ih =>
      obtain ⟨r, hr⟩ := ih h
      exact ⟨_, by rw [plain, hr]; rfl⟩
  | joined joint left right ihl ihr =>
      simp only [isStandard, Bool.and_eq_true] at h
      obtain ⟨c, hc⟩ := Option.isSome_iff_exists.mp h.1.1
      obtain ⟨value, hvalue⟩ := ihl h.1.2
      obtain ⟨rightValue, hright⟩ := ihr h.2
      exact ⟨joinOptional c value rightValue, by rw [plain, hc, hvalue, hright]; rfl⟩
  | foreign node => cases h
  | _ => exact ⟨_, rfl⟩

/-- A source has a plain lowering, unless a joint or a node does not belong in it. -/
theorem onlyFaults_plain {P : Fault → Prop} (hjoint : P .noOperand)
    (hforeign : ∀ label, P (.obstacle (.foreignSource label))) (s : Source) :
    OnlyFaults P (plain s) := by
  induction s with
  | negated child ih => exact ih.bind fun _ _ => onlyFaults_ok _
  | joined joint left right ihl ihr =>
      rw [plain]
      cases connective? joint with
      | none => exact onlyFaults_error hjoint
      | some c => exact ihl.bind fun _ _ => ihr.bind fun _ _ => onlyFaults_ok _
  | foreign node => exact onlyFaults_error (hforeign _)
  | _ => exact onlyFaults_ok _

/-! ## The walk and the plain lowering -/

section Walk

variable {limit : Nat}

/-- What the walk does at a joint. -/
theorem lower_joined (inChain : Bool) (depth : Nat) (joint : Joint) (left right : Source) :
    lower limit inChain depth (.joined joint left right) = (do
      let d ← if continues inChain (.joined joint left right) then .ok depth
        else descend limit depth
      if !continues inChain (.joined joint left right) &&
          limit < d + jointChanges (.joined joint left right) then
        .error (.obstacle (.chainTooDeep limit))
      match connective? joint with
      | none => .error .noOperand
      | some c => do
        let value ← lower limit true d left
        let rightValue ← lower limit false d right
        return joinOptional c value rightValue) := by
  rw [lower]
  rfl

/-- The walk has the result of the plain lowering, unless a visit does not fit the limit. -/
theorem bounded_lower (s : Source) (inChain : Bool) (depth : Nat) :
    Bounded jointChanges limit (visits (start inChain depth s) s) (lower limit inChain depth s)
      (plain s) := by
  induction s generalizing inChain depth with
  | negated child ih =>
      rw [lower, plain, start_of_not_continues rfl]
      refine .descend List.mem_cons_self ?_
      refine Bounded.bind ?_ fun inner _ => .within _
      exact (ih false (depth + 1)).mono fun v hv =>
        List.mem_cons_of_mem _ (start_false (depth + 1) child ▸ hv)
  | joined joint left right ihl ihr =>
      have hsides : ∀ d, Bounded jointChanges limit (visits d (.joined joint left right))
          (match connective? joint with
          | none => .error .noOperand
          | some c => do
            let value ← lower limit true d left
            let rightValue ← lower limit false d right
            return joinOptional c value rightValue)
          (plain (.joined joint left right)) := by
        intro d
        rw [plain]
        cases connective? joint with
        | none => exact .within _
        | some c =>
            refine Bounded.bind ?_ fun value _ => Bounded.bind ?_ fun rightValue _ => .within _
            · exact (ihl true d).mono fun v hv => List.mem_cons_of_mem _ (List.mem_append_left _ hv)
            · refine (ihr false d).mono fun v hv => ?_
              exact List.mem_cons_of_mem _ (List.mem_append_right _ (start_false d right ▸ hv))
      rw [lower_joined]
      cases hc : continues inChain (.joined joint left right) with
      | true =>
          rw [start_of_continues hc]
          exact hsides depth
      | false =>
          rw [start_of_not_continues hc]
          refine .descend (self_mem_visits _ _) ?_
          simp only [Bool.not_false, Bool.true_and, decide_eq_true_eq]
          split
          case isTrue hlt => exact .chainTooDeep _ (self_mem_visits _ _) hlt
          case isFalse => exact hsides (depth + 1)
  | _ => exact .descend List.mem_cons_self (.within _)

/-- Every visit of a walk that succeeds fits the limit. -/
theorem fits_of_lower (s : Source) {inChain : Bool} {depth : Nat} {r : Option Condition}
    (h : lower limit inChain depth s = .ok r)
    (hroom : start inChain depth s + s.jointChanges ≤ limit) :
    ∀ v ∈ visits (start inChain depth s) s, v.1 + v.2.jointChanges ≤ limit := by
  induction s generalizing inChain depth r with
  | negated child ih =>
      obtain ⟨-, inner, hinner, -⟩ := lower_negated_eq_ok.mp h
      have hchild := ih hinner (room_of_child hinner (Nat.le_refl _) (by simp [continues_false]))
      rw [start_false] at hchild
      exact List.forall_mem_cons.mpr ⟨hroom, hchild⟩
  | joined joint left right ihl ihr =>
      obtain ⟨c, hc⟩ := connective?_of_lower h
      obtain ⟨-, value, rightValue, hleft, hright, -⟩ := (lower_joined_eq_ok hc).mp h
      -- the check of the whole chain covers the chain that its left operand is
      have hsome : (connective? joint).isSome = true := by simp [hc]
      have hchain := jointChanges_left_le hsome left right
      have hfirst := ihl hleft (room_of_child hleft (Nat.le_refl _) fun _ => by omega)
      have hsecond := ihr hright (room_of_child hright (Nat.le_refl _) (by simp [continues_false]))
      rw [start_false] at hsecond
      exact List.forall_mem_cons.mpr ⟨hroom, List.forall_mem_append.mpr ⟨hfirst, hsecond⟩⟩
  | _ =>
      intro v hv
      obtain rfl := List.mem_singleton.mp hv
      exact hroom

/-- A source that is worked on `k` levels further down is visited `k` levels further down. -/
theorem visits_add (k : Nat) (s : Source) (d : Nat) :
    visits (d + k) s = (visits d s).map fun v => (v.1 + k, v.2) := by
  induction s generalizing d with
  | negated child ih => rw [visits, visits, List.map_cons, ← ih, Nat.add_right_comm]
  | joined joint left right ihl ihr =>
      have hstart : start true (d + k) left = start true d left + k := by
        unfold start
        split <;> omega
      rw [visits, visits, List.map_cons, List.map_append, hstart, ← ihl, ← ihr, Nat.add_right_comm]
  | _ => rfl

/-- Only an obstacle keeps a source from its condition, if its joints are those that are read. -/
theorem onlyFaults_lower (n limit : Nat) (s : Source) (h : s.isStandard = true)
    (inChain : Bool) (depth : Nat) :
    OnlyFaults (Fault.Allowed n) (lower limit inChain depth s) := by
  obtain ⟨r, hr⟩ := exists_plain h
  have hplain : OnlyFaults (Fault.Allowed n) (plain s) := hr ▸ onlyFaults_ok r
  exact (bounded_lower s inChain depth).onlyFaults hplain (fun _ _ _ => trivial)
    (fun _ _ _ => trivial)

end Walk

/-! ## Chains as loops -/

/-- What stands at the left end of a chain, and the connectives and right operands after it,
innermost first. -/
def links : Source → Source × List (Connective × Source)
  | .joined joint left right =>
    match connective? joint with
    | some c => ((links left).1, (links left).2 ++ [(c, right)])
    | none => (.joined joint left right, [])
  | s => (s, [])

/-- One joint of a chain.  The state is the condition so far. -/
def turn (limit depth : Nat) (value : Option Condition) (link : Connective × Source) :
    Except Fault (Option Condition) := do
  let rightValue ← link.2.condition limit depth
  return joinOptional link.1 value rightValue

/-- The condition of a source that is worked on at a depth, with a loop for each chain. -/
def unrolled (limit depth : Nat) (s : Source) : Except Fault (Option Condition) :=
  match s with
  | .negated child => do
    let inner ← child.condition limit depth
    return inner.map fun f => .group .not [f]
  | .joined _ _ _ => do
    let (first, links) := s.links
    if limit < depth + alternations (links.map Prod.fst) then
      .error (.obstacle (.chainTooDeep limit))
    if links.isEmpty then .error .noOperand
    let value ← first.condition limit depth
    links.foldlM (turn limit depth) value
  | s => plain s

/-- The changes of joint along a chain are those of its links. -/
theorem alternations_links (s : Source) :
    alternations (s.links.2.map Prod.fst) = s.jointChanges := by
  fun_induction jointChanges s with
  | case1 j k left right right' h ih =>
      obtain ⟨hj, hk⟩ := Bool.and_eq_true_iff.mp h
      obtain ⟨c, hc⟩ := Option.isSome_iff_exists.mp hj
      obtain ⟨c', hc'⟩ := Option.isSome_iff_exists.mp hk
      have hsame : j = k ↔ c' = c := by
        cases j <;> cases k <;> cases hc <;> cases hc' <;> decide
      simp only [links, hc, hc', List.map_append, List.map_cons, List.map_nil, List.append_assoc,
        List.cons_append, List.nil_append] at ih ⊢
      rw [alternations_concat, ih]
      simp only [hsame]
  | case2 j k left right right' h =>
      cases hj : connective? j with
      | none => simp [links, hj, alternations]
      | some c =>
          have hk : connective? k = none := by simpa [hj] using h
          simp [links, hj, hk, alternations]
  | case3 s h =>
      cases s with
      | joined j left right =>
          have hleft : left.links.2 = [] := by
            cases left with
            | joined k l r => exact absurd rfl (h j k l r right)
            | _ => rfl
          rw [links]
          split <;> simp [hleft, alternations]
      | _ => rfl

/-- A loop over the links of a chain ends in the condition of the whole chain. -/
theorem foldlM_links (limit depth : Nat) (s : Source) :
    (s.links.1.condition limit depth >>= fun value =>
        s.links.2.foldlM (turn limit depth) value) = lower limit true depth s := by
  fun_induction links s with
  | case1 joint left right c hc ih =>
      have hcontinues : continues true (.joined joint left right) = true := by
        simp [continues, hc]
      simp only [List.foldlM_append, List.foldlM_cons, List.foldlM_nil]
      rw [← bind_assoc, ih, lower_joined, hcontinues, hc]
      refine bind_congr fun value => ?_
      exact bind_pure (turn limit depth value (c, right))
  | case2 joint left right hc =>
      have hcontinues : continues true (.joined joint left right) = false := by
        simp [continues, hc]
      rw [condition, lower_joined, lower_joined, hcontinues, continues_false]
      exact bind_pure _
  | case3 s hnot =>
      cases s with
      | joined joint left right => exact absurd rfl (hnot joint left right)
      | _ => exact bind_pure _

/-- The walk over a source takes one level, and then does what the loop does. -/
theorem condition_eq_unrolled (limit depth : Nat) (s : Source) :
    s.condition limit depth = descend limit depth >>= fun d => s.unrolled limit d := by
  cases s with
  | joined joint left right =>
      rw [condition, lower_joined, continues_false]
      refine bind_congr fun d => ?_
      simp only [unrolled, alternations_links, Bool.not_false, Bool.true_and, decide_eq_true_eq]
      split
      case isTrue => rfl
      case isFalse =>
      cases hc : connective? joint with
      | none =>
          have hlinks : (joined joint left right).links = (.joined joint left right, []) := by
            simp [links, hc]
          rw [hlinks]
          rfl
      | some c =>
          have hcontinues : continues true (.joined joint left right) = true := by
            simp [continues, hc]
          have hlinks : (joined joint left right).links.2.isEmpty = false := by simp [links, hc]
          have hloop := foldlM_links limit d (.joined joint left right)
          rw [lower_joined, hcontinues, hc] at hloop
          rw [hlinks]
          exact hloop.symm
  | _ => rfl

end Source

/-! ## Expressions and sources -/

end VaultQuery
