import VaultQuery.Proofs.Expr.Lower

/-!
The walk along a chain of operators or a path of parts, as a loop.  The loop starts at the left end
and takes one link at a turn; what it has to know of the links before, such as whether they make a
date, runs along in its state.  The walk does what these loops do (`condition_eq_unrolled`), and
fails where they fail.
-/

namespace VaultQuery

/-- The number of neighbours in a list that differ. -/
def alternations {α : Type} [DecidableEq α] : List α → Nat
  | a :: b :: l => (if a = b then 0 else 1) + alternations (b :: l)
  | _ => 0

theorem alternations_concat {α : Type} [DecidableEq α] (l : List α) (a b : α) :
    alternations (l ++ [a, b]) = alternations (l ++ [a]) + if a = b then 0 else 1 := by
  induction l with
  | nil => simp [alternations]
  | cons c l ih =>
      cases l with
      | nil => simp [alternations]
      | cons c' l =>
          show _ + alternations (c' :: l ++ [a, b]) = _ + alternations (c' :: l ++ [a]) + _
          rw [ih, Nat.add_assoc]

/-- What a loop ends with, read off its last state. -/
theorem map_bind_pure {α σ : Type} {x : Except Fault α} {state : α → σ} {result : σ → α}
    (h : ∀ a, x = .ok a → result (state a) = a) :
    (x.map state >>= fun s => pure (result s)) = x := by
  cases x with
  | error f => rfl
  | ok a => exact congrArg Except.ok (h a rfl)

namespace Expr

/-! ## Chains and paths -/

/-- What stands at the left end of the chain that an expression continues, and the operators and
right operands after it, innermost first. -/
def links (place : Place) : Expr → Expr × List (BinOp × Expr)
  | .binary op left right =>
    if continues place (.binary op left right) then
      ((links place left).1, (links place left).2 ++ [(op, right)])
    else (.binary op left right, [])
  | e => (e, [])

/-- The root of a path and the keys after it, innermost first. -/
def keys : Expr → Expr × List Expr
  | .index object key => ((keys object).1, (keys object).2 ++ [key])
  | e => (e, [])

/-! ## Turns of the loops -/

/-- One operation of a chain.  The state is the text so far, and whether that is a date. -/
def chainTurn (limit depth p : Nat) (state : String × Bool) (link : BinOp × Expr) :
    Except Fault (String × Bool) := do
  let (text, isDate) := state
  let (op, right) := link
  let moved ← if op.isAdditive then right.duration?.mapError .numeral else .ok none
  match if isDate then moved else none with
  | some amount =>
    let signed := if op = .sub then amount.neg else amount
    return (text ++ " + \"" ++ (← signed.write.mapError .numeral) ++ "\"", true)
  | none =>
    let value ← right.condition limit depth
    return (text ++ " " ++ op.baseSymbol ++ " " ++ operand right value p true, false)

/-- One logical operator of a chain.  The state is the expression so far, its condition, and whether
there has been a predicate. -/
def logicalTurn (limit depth : Nat) (state : Expr × Condition × Bool) (link : BinOp × Expr) :
    Except Fault (Expr × Condition × Bool) := do
  let (left, value, isFilter) := state
  let (op, right) := link
  let rightValue ← right.condition limit depth
  let isFilter := isFilter || right.isPredicate
  let joined :=
    if isFilter || value.isGroup || rightValue.isGroup then
      (member left value).join (connective op) (member right rightValue)
    else
      .leaf (operand left value op.precedence false ++ " " ++ op.baseSymbol ++ " " ++
        operand right rightValue op.precedence true)
  return (.binary op left right, joined, isFilter)

/-- One part of a path.  The state is the text so far as an object, and by itself. -/
def pathTurn (limit depth : Nat) (state : String × String) (key : Expr) :
    Except Fault (String × String) :=
  let (value, inner) := state
  match key with
  | .literal (.text name) => .ok (partText value inner name, partText value inner name)
  | _ => do
    let inside ← key.condition limit depth
    return (value ++ "[" ++ inside.inline ++ "]", value ++ "[" ++ inside.inline ++ "]")

theorem pathTurn_element {key : Expr} (hkey : ∀ name, key ≠ .literal (.text name))
    (limit depth : Nat) (value inner : String) :
    pathTurn limit depth (value, inner) key = (do
      let inside ← key.condition limit depth
      return (value ++ "[" ++ inside.inline ++ "]", value ++ "[" ++ inside.inline ++ "]")) := by
  unfold pathTurn
  dsimp only
  split
  case h_1 name => exact absurd rfl (hkey name)
  case h_2 => rfl

/-- The condition of an expression that is worked on at a depth, with a loop for each chain and each
path. -/
def unrolled (limit depth : Nat) (e : Expr) : Except Fault Condition :=
  match e with
  | .index _ _ => do
    let (root, keys) := e.keys
    let raw ← root.condition limit depth
    let state ← keys.foldlM (pathTurn limit depth)
      (operand root raw partPrecedence false, raw.inline)
    return .leaf state.1
  | .binary op _ _ =>
    if op.isLogical then do
      let (first, links) := e.links .logical
      if limit < depth + alternations (links.map Prod.fst) then
        .error (.obstacle (.chainTooDeep limit))
      let value ← first.condition limit depth
      let state ← links.foldlM (logicalTurn limit depth) (first, value, first.isPredicate)
      return state.2.1
    else do
      let (first, links) := e.links (.chain op.precedence)
      let value ← first.condition limit depth
      let state ← links.foldlM (chainTurn limit depth op.precedence)
        (operand first value op.precedence false, first.isDate)
      return .leaf state.1
  | e => lowerNode limit .alone depth e

/-! ## Loops and the walk -/

section Loops

variable {limit depth : Nat} {place : Place}

theorem lower_of_continues {e : Expr} (h : continues place e = true) :
    lower limit place depth e = lowerNode limit place depth e := by
  rw [lower_eq, level, if_pos h]
  rfl

/-- What continues no chain is worked on as if it stood alone. -/
theorem lower_of_not_continues {e : Expr} (h : continues place e = false) :
    lower limit place depth e = e.condition limit depth := by
  have halone : continues .alone e = false := by cases e <;> rfl
  have hnode : ∀ d, lowerNode limit place d e = lowerNode limit .alone d e := by
    intro d
    cases e with
    | binary op left right => simp only [lowerNode, checkChain, h, halone]
    | _ => rfl
  rw [condition, lower_eq, lower_eq, level, level, h, halone]
  exact bind_congr hnode

theorem not_continues_of_not_binary (hplace : place ≠ .path) {e : Expr}
    (h : ∀ op left right, e ≠ .binary op left right) : continues place e = false := by
  cases e with
  | binary op left right => exact absurd rfl (h op left right)
  | _ => cases place <;> first | rfl | exact absurd rfl hplace

/-- What stands at the left end of a chain does not continue it. -/
theorem not_continues_links (hplace : place ≠ .path) (e : Expr) :
    continues place (links place e).1 = false := by
  fun_induction links place e with
  | case1 op left right h ih => exact ih
  | case2 op left right h => simpa using h
  | case3 e hnot => exact not_continues_of_not_binary hplace hnot

/-- A loop over the links of a chain ends in the state of the whole chain, if every turn leads from
the state of a left operand to the state of its operation. -/
theorem foldlM_links (hplace : place ≠ .path) {σ : Type} (state : Expr → Condition → σ)
    (turn : σ → BinOp × Expr → Except Fault σ)
    (hturn : ∀ op left right, continues place (.binary op left right) = true →
      (lower limit place depth left >>= fun c => turn (state left c) (op, right)) =
        (lower limit place depth (.binary op left right)).map (state (.binary op left right)))
    (e : Expr) :
    ((links place e).1.condition limit depth >>= fun c =>
        (links place e).2.foldlM turn (state (links place e).1 c)) =
      (lower limit place depth e).map (state e) := by
  have hend : ∀ e : Expr, continues place e = false →
      (e.condition limit depth >>= fun c => [].foldlM turn (state e c)) =
        (lower limit place depth e).map (state e) := by
    intro e h
    rw [lower_of_not_continues h]
    cases e.condition limit depth <;> rfl
  fun_induction links place e with
  | case1 op left right h ih =>
      rw [← hturn op left right h]
      simp only [List.foldlM_append, List.foldlM_cons, List.foldlM_nil]
      rw [← bind_assoc, ih]
      cases lower limit place depth left with
      | error f => rfl
      | ok c => exact bind_pure (turn (state left c) (op, right))
  | case2 op left right h => exact hend _ (by simpa using h)
  | case3 e hnot => exact hend e (not_continues_of_not_binary hplace hnot)

/-- A loop over the keys of a path ends in the texts of the whole path. -/
theorem foldlM_keys (limit depth : Nat) (e : Expr) :
    ((keys e).1.condition limit depth >>= fun raw =>
        (keys e).2.foldlM (pathTurn limit depth)
          (operand (keys e).1 raw partPrecedence false, raw.inline)) =
      (lower limit .path depth e).map fun c => (objectText e c, c.inline) := by
  fun_induction keys e with
  | case1 object key ih =>
      rw [lower_of_continues rfl, lowerNode]
      simp only [List.foldlM_append, List.foldlM_cons, List.foldlM_nil]
      rw [← bind_assoc, ih]
      cases lower limit .path depth object with
      | error f => rfl
      | ok raw =>
          show pathTurn limit depth (objectText object raw, raw.inline) key >>= pure =
            (part limit depth object key raw).map fun c =>
              (objectText (.index object key) c, c.inline)
          rw [bind_pure]
          by_cases hkey : ∃ name, key = .literal (.text name)
          · obtain ⟨name, rfl⟩ := hkey
            rfl
          · rw [not_exists] at hkey
            rw [pathTurn_element hkey, part_element hkey, condition]
            cases lower limit .alone depth key <;> rfl
  | case2 e hnot =>
      have hend : continues .path e = false ∧ e.isIndex = false := by
        cases e with
        | index object key => exact absurd rfl (hnot object key)
        | _ => exact ⟨rfl, rfl⟩
      rw [lower_of_not_continues hend.1]
      simp only [objectText, hend.2]
      cases e.condition limit depth <;> rfl

/-- One turn of a chain of operations: the running flag says whether the operation is a date. -/
theorem chainTurn_eq {p : Nat} {op : BinOp} {left right : Expr}
    (h : continues (.chain p) (.binary op left right) = true) :
    (lower limit (.chain p) depth left >>= fun c =>
        chainTurn limit depth p (leftText p left c, left.isDate) (op, right)) =
      (lower limit (.chain p) depth (.binary op left right)).map fun c =>
        (leftText p (.binary op left right) c, (Expr.binary op left right).isDate) := by
  obtain ⟨hop, rfl⟩ : op.isLogical = false ∧ op.precedence = p := by simpa [continues] using h
  rw [lower_of_continues h, lowerNode, if_neg (by simp [hop])]
  cases lower limit (.chain op.precedence) depth left with
  | error f => rfl
  | ok c =>
      show chainTurn limit depth op.precedence (leftText op.precedence left c, left.isDate)
          (op, right) = (shift? op left right >>= operation limit depth op left right c).map _
      have htext : leftText op.precedence (.binary op left right) = Condition.inline := by
        funext c
        rw [leftText, if_pos h]
      have hplain : (right.condition limit depth >>= fun value =>
            pure (leftText op.precedence left c ++ " " ++ op.baseSymbol ++ " " ++
              operand right value op.precedence true, false)) =
          (operation limit depth op left right c none).map fun c => (c.inline, false) := by
        rw [condition, operation]
        cases lower limit .alone depth right <;> rfl
      rw [htext, chainTurn, shift?, isDate, isDuration]
      cases op.isAdditive with
      | false => cases left.isDate <;> exact hplain
      | true =>
          cases right.duration? with
          | error fault => rfl
          | ok moved =>
              cases left.isDate with
              | false => cases moved <;> exact hplain
              | true =>
                  cases moved with
                  | none => exact hplain
                  | some amount =>
                      show ((if op = .sub then amount.neg else amount).write.mapError
                            Fault.numeral >>= fun moved =>
                          pure (leftText op.precedence left c ++ " + \"" ++ moved ++ "\"", true)) =
                        (operation limit depth op left right c (some amount)).map fun c =>
                          (c.inline, true)
                      rw [operation]
                      cases (if op = .sub then amount.neg else amount).write <;> rfl

/-- One turn of a chain of logical operators: the running flag says whether the chain is a
predicate. -/
theorem logicalTurn_eq {op : BinOp} {left right : Expr}
    (h : continues .logical (.binary op left right) = true) :
    (lower limit .logical depth left >>= fun c =>
        logicalTurn limit depth (left, c, left.isPredicate) (op, right)) =
      (lower limit .logical depth (.binary op left right)).map fun c =>
        (.binary op left right, c, (Expr.binary op left right).isPredicate) := by
  have hop : op.isLogical = true := h
  have hcomparison : op.isComparison = false := by cases op <;> first | rfl | cases hop
  have hpredicate : (Expr.binary op left right).isPredicate =
      (left.isPredicate || right.isPredicate) := by
    rw [isPredicate, hop, hcomparison]
    rfl
  rw [lower_of_continues h, lowerNode, if_pos hop, checkChain, h]
  show _ = (lower limit .logical depth left >>= fun value =>
    lower limit .alone depth right >>= fun rightValue =>
      pure (logicalPair op left right value rightValue)).map _
  cases lower limit .logical depth left with
  | error f => rfl
  | ok c =>
      show logicalTurn limit depth (left, c, left.isPredicate) (op, right) =
        (lower limit .alone depth right >>= fun rightValue =>
          pure (logicalPair op left right c rightValue)).map _
      rw [logicalTurn, condition]
      cases lower limit .alone depth right with
      | error f => rfl
      | ok rightValue =>
          show Except.ok _ = Except.ok (_, logicalPair op left right c rightValue, _)
          rw [logicalPair, hpredicate]

/-- The changes of operator along a chain of logical operators are those of its links. -/
theorem alternations_links (e : Expr) :
    alternations ((links .logical e).2.map Prod.fst) = e.operatorChanges := by
  fun_induction operatorChanges e with
  | case1 op op' l r right h ih =>
      obtain ⟨hop, hop'⟩ := Bool.and_eq_true_iff.mp h
      simp only [links, continues, hop, hop', ↓reduceIte, List.map_append, List.map_cons,
        List.map_nil, List.append_assoc, List.cons_append, List.nil_append] at ih ⊢
      rw [alternations_concat, ih]
      simp [eq_comm]
  | case2 op op' l r right h =>
      cases hop : op.isLogical with
      | false => simp [links, continues, hop, alternations]
      | true =>
          have hop' : op'.isLogical = false := by simpa [hop] using h
          simp [links, continues, hop, hop', alternations]
  | case3 e h =>
      cases e with
      | binary op left right =>
          have hleft : (links .logical left).2 = [] := by
            cases left with
            | binary op' l r => exact absurd rfl (h op op' l r right)
            | _ => rfl
          rw [links]
          split <;> simp [hleft, alternations]
      | _ => rfl

theorem lowerNode_path (limit depth : Nat) (object key : Expr) :
    lowerNode limit .alone depth (.index object key) =
      unrolled limit depth (.index object key) := by
  have hwalk : lower limit .path depth (.index object key) =
      lowerNode limit .alone depth (.index object key) := lower_of_continues rfl
  simp only [unrolled]
  rw [← bind_assoc, foldlM_keys, ← hwalk, map_bind_pure]
  intro c hc
  obtain ⟨text, rfl⟩ := leaf_of_lower rfl rfl hc
  rfl

theorem lowerNode_chain (limit depth : Nat) {op : BinOp} (hop : op.isLogical = false)
    (left right : Expr) :
    lowerNode limit .alone depth (.binary op left right) =
      unrolled limit depth (.binary op left right) := by
  have hc : continues (.chain op.precedence) (.binary op left right) = true := by
    simp [continues, hop]
  have hwalk : lower limit (.chain op.precedence) depth (.binary op left right) =
      lowerNode limit .alone depth (.binary op left right) := by
    rw [lower_of_continues hc, lowerNode, lowerNode, hop]
    rfl
  have hloop := foldlM_links (fun h : Place.chain op.precedence = .path => Place.noConfusion h)
    (fun e c => (leftText op.precedence e c, e.isDate)) (chainTurn limit depth op.precedence)
    (fun _ _ _ h => chainTurn_eq h) (.binary op left right)
  have hfirst := not_continues_links (fun h : Place.chain op.precedence = .path => Place.noConfusion h)
    (.binary op left right)
  simp only [leftText, hfirst, Bool.false_eq_true, ↓reduceIte] at hloop
  simp only [unrolled, hop, Bool.false_eq_true, ↓reduceIte]
  rw [← bind_assoc, hloop, ← hwalk, map_bind_pure]
  intro c h
  obtain ⟨text, rfl⟩ := leaf_of_lower rfl (not_isLogical_of_chain hc) h
  rw [if_pos hc]
  rfl

theorem lowerNode_logical (limit depth : Nat) {op : BinOp} (hop : op.isLogical = true)
    (left right : Expr) :
    lowerNode limit .alone depth (.binary op left right) =
      unrolled limit depth (.binary op left right) := by
  have hc : continues .logical (.binary op left right) = true := hop
  have hwalk : lowerNode limit .alone depth (.binary op left right) =
      checkChain limit depth .alone (.binary op left right) >>= fun _ =>
        lower limit .logical depth (.binary op left right) := by
    rw [lower_of_continues hc, lowerNode, lowerNode, hop, checkChain, checkChain, hc]
    rfl
  have hloop := foldlM_links (fun h : Place.logical = .path => Place.noConfusion h)
    (fun e c => (e, c, e.isPredicate)) (logicalTurn limit depth)
    (fun _ _ _ h => logicalTurn_eq h) (.binary op left right)
  simp only [unrolled, hop, ↓reduceIte]
  have hcheck : checkChain limit depth .alone (.binary op left right) =
      if limit < depth + (Expr.binary op left right).operatorChanges then
        .error (.obstacle (.chainTooDeep limit))
      else .ok () := by
    simp [checkChain, continues]
  rw [hwalk, hcheck, alternations_links]
  split
  case isTrue => rfl
  case isFalse =>
      rw [← bind_assoc, hloop, map_bind_pure fun _ _ => rfl]
      rfl

/-- The walk over an expression takes one level, and then does what the loops do. -/
theorem condition_eq_unrolled (limit depth : Nat) (e : Expr) :
    e.condition limit depth = descend limit depth >>= fun d => e.unrolled limit d := by
  have halone : continues .alone e = false := by cases e <;> rfl
  rw [condition, lower_eq, level, halone]
  refine bind_congr fun d => ?_
  cases e with
  | index object key => exact lowerNode_path limit d object key
  | binary op left right =>
      cases hop : op.isLogical with
      | true => exact lowerNode_logical limit d hop left right
      | false => exact lowerNode_chain limit d hop left right
  | _ => rfl

end Loops

end Expr

end VaultQuery
