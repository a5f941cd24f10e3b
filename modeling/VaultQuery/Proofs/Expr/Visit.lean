import VaultQuery.Proofs.Expr.Lower

/-!
The visits of the walk over an expression: the nodes it works on, each with the depth at which it
does.  A part of a path and a link of a chain are worked on at the depth of the whole; every other
node is one level below its parent.  Nodes that are written without a look inside are not visited:
the name of a property, the amount that moves a date, the arguments of a call that has a way of its
own.

A walk succeeds only if every visit fits the limit (`fits_of_lower`).
-/

namespace VaultQuery

namespace Expr

mutual

/-- The nodes that the walk works on, with their depths, if it works on the whole at depth `d`. -/
def visits (d : Nat) : Expr → List (Nat × Expr)
  | .index object key =>
    (d, .index object key) :: (visits (start .path d object) object ++
      match key with
      | .literal (.text _) => []
      | _ => visits (d + 1) key)
  | .binary op left right =>
    (d, .binary op left right) ::
      if op.isLogical then visits (start .logical d left) left ++ visits (d + 1) right
      else visits (start (.chain op.precedence) d left) left ++
        match shift? op left right with
        | .ok none => visits (d + 1) right
        | _ => []
  | .call name args =>
    (d, .call name args) ::
      match specialCall? name args with
      | .ok none => visitsAll (d + 1) args
      | _ => []
  | .negated child => (d, .negated child) :: visits (d + 1) child
  | .list items => (d, .list items) :: visitsAll (d + 1) items
  | e => [(d, e)]

/-- The nodes that the walk works on in several expressions at depth `d`. -/
def visitsAll (d : Nat) : List Expr → List (Nat × Expr)
  | [] => []
  | e :: es => visits d e ++ visitsAll d es

end

/-! ## Where the visits are -/

section Nodes

variable {d : Nat} {object key left right : Expr} {op : BinOp} {name : String} {args : List Expr}
  {v : Nat × Expr}

theorem self_mem_visits (d : Nat) (e : Expr) : (d, e) ∈ visits d e := by
  cases e <;> exact List.mem_cons_self

theorem mem_visits_property :
    v ∈ visits d (.index object (.literal (.text name))) ↔
      v = (d, .index object (.literal (.text name))) ∨
        v ∈ visits (start .path d object) object := by
  simp [visits]

theorem visits_element (hkey : ∀ name, key ≠ .literal (.text name)) :
    visits d (.index object key) =
      (d, .index object key) :: (visits (start .path d object) object ++ visits (d + 1) key) := by
  cases key with
  | literal value =>
      cases value with
      | text name => exact absurd rfl (hkey name)
      | _ => rfl
  | _ => rfl

theorem mem_visits_element (hkey : ∀ name, key ≠ .literal (.text name)) :
    v ∈ visits d (.index object key) ↔
      v = (d, .index object key) ∨ v ∈ visits (start .path d object) object ∨
        v ∈ visits (d + 1) key := by
  rw [visits_element hkey, List.mem_cons, List.mem_append]

theorem mem_visits_logical (hop : op.isLogical = true) :
    v ∈ visits d (.binary op left right) ↔
      v = (d, .binary op left right) ∨ v ∈ visits (start .logical d left) left ∨
        v ∈ visits (d + 1) right := by
  rw [visits, if_pos hop, List.mem_cons, List.mem_append]

theorem mem_visits_operation (hop : op.isLogical = false)
    (hshift : shift? op left right = .ok none) :
    v ∈ visits d (.binary op left right) ↔
      v = (d, .binary op left right) ∨
        v ∈ visits (start (.chain op.precedence) d left) left ∨ v ∈ visits (d + 1) right := by
  rw [visits, if_neg (by simp [hop]), hshift, List.mem_cons, List.mem_append]

theorem mem_visits_shifted (hop : op.isLogical = false) {x : Except Fault (Option Duration)}
    (hshift : shift? op left right = x) (hx : x ≠ .ok none) :
    v ∈ visits d (.binary op left right) ↔
      v = (d, .binary op left right) ∨
        v ∈ visits (start (.chain op.precedence) d left) left := by
  rw [visits, if_neg (by simp [hop]), hshift, List.mem_cons, List.mem_append]
  match x with
  | .ok none => exact absurd rfl hx
  | .ok (some _) => simp
  | .error _ => simp

theorem mem_visits_call (hspecial : specialCall? name args = .ok none) :
    v ∈ visits d (.call name args) ↔
      v = (d, .call name args) ∨ v ∈ visitsAll (d + 1) args := by
  rw [visits, hspecial, List.mem_cons]

theorem mem_visits_special {text : String} (hspecial : specialCall? name args = .ok (some text)) :
    v ∈ visits d (.call name args) ↔ v = (d, .call name args) := by
  rw [visits, hspecial, List.mem_singleton]

theorem mem_visitsAll {es : List Expr} : v ∈ visitsAll d es ↔ ∃ e ∈ es, v ∈ visits d e := by
  induction es with
  | nil => simp [visitsAll]
  | cons e es ih => simp [visitsAll, ih]

end Nodes

/-! ## Success -/

/-- A visit fits a limit: its depth does, and so does that of the groups which its chain of logical
operators would make. -/
def Fits (limit : Nat) (v : Nat × Expr) : Prop :=
  v.1 + v.2.operatorChanges ≤ limit

theorem not_isLogical_of_path {e : Expr} (h : continues .path e = true) : e.isLogical = false := by
  cases e with
  | binary op left right => cases h
  | _ => rfl

theorem room_of_alone {limit depth : Nat} {e : Expr} {c : Condition}
    (h : lower limit .alone depth e = .ok c) :
    start .alone depth e + e.operatorChanges ≤ limit :=
  room_of_lower h (by cases e <;> rfl)

mutual

/-- Every visit of a walk that succeeds fits the limit. -/
theorem fits_of_lower {limit : Nat} (e : Expr) {place : Place} {depth : Nat} {c : Condition}
    (h : lower limit place depth e = .ok c)
    (hroom : start place depth e + e.operatorChanges ≤ limit) :
    ∀ v ∈ visits (start place depth e) e, Fits limit v := by
  have h := lowerNode_of_lower h
  intro v hv
  match e with
  | .var _ | .literal _ | .foreign _ =>
      obtain rfl := List.mem_singleton.mp hv
      exact hroom
  | .negated child =>
      obtain ⟨value, hchild, -⟩ := bind_eq_ok.mp h
      rcases List.mem_cons.mp hv with rfl | hv
      · exact hroom
      · exact fits_of_lower child hchild (room_of_alone hchild) v (by rwa [start_alone])
  | .list items =>
      obtain ⟨texts, hitems, -⟩ := bind_eq_ok.mp h
      rcases List.mem_cons.mp hv with rfl | hv
      · exact hroom
      · exact fits_of_lowerAll items hitems v hv
  | .call name args =>
      obtain ⟨special, hspecial, h⟩ := bind_eq_ok.mp h
      cases special with
      | some text =>
          obtain rfl := (mem_visits_special hspecial).mp hv
          exact hroom
      | none =>
          obtain ⟨texts, hargs, -⟩ := bind_eq_ok.mp h
          rcases (mem_visits_call hspecial).mp hv with rfl | hv
          · exact hroom
          · exact fits_of_lowerAll args hargs v hv
  | .index object key =>
      obtain ⟨raw, hobject, h⟩ := bind_eq_ok.mp h
      have hpath := fits_of_lower object hobject (room_of_child hobject (Nat.le_refl _) fun hc => by
        rw [operatorChanges_of_not_isLogical (not_isLogical_of_path hc)]
        omega)
      unfold part at h
      split at h
      case h_1 name =>
          rcases mem_visits_property.mp hv with rfl | hv
          · exact hroom
          · exact hpath v hv
      case h_2 hkey =>
          obtain ⟨inside, hinside, -⟩ := bind_eq_ok.mp h
          rcases (mem_visits_element hkey).mp hv with rfl | hv | hv
          · exact hroom
          · exact hpath v hv
          · exact fits_of_lower key hinside (room_of_alone hinside) v (by rwa [start_alone])
  | .binary op left right =>
      cases hop : op.isLogical with
      | true =>
          rw [lowerNode, if_pos hop] at h
          obtain ⟨_, _, h⟩ := bind_eq_ok.mp h
          obtain ⟨value, hleft, h⟩ := bind_eq_ok.mp h
          obtain ⟨rightValue, hright, -⟩ := bind_eq_ok.mp h
          -- the check of the whole chain covers the chain that its left operand is
          have hchain := operatorChanges_left_le hop left right
          rcases (mem_visits_logical hop).mp hv with rfl | hv | hv
          · exact hroom
          · exact fits_of_lower left hleft
              (room_of_child hleft (Nat.le_refl _) fun _ => by omega) v hv
          · exact fits_of_lower right hright (room_of_alone hright) v (by rwa [start_alone])
      | false =>
          rw [lowerNode, if_neg (by simp [hop])] at h
          obtain ⟨value, hleft, h⟩ := bind_eq_ok.mp h
          obtain ⟨shift, hshift, h⟩ := bind_eq_ok.mp h
          have hchain := fits_of_lower left hleft (room_of_child hleft (Nat.le_refl _) fun hc => by
            rw [operatorChanges_of_not_isLogical (not_isLogical_of_chain hc)]
            omega)
          cases shift with
          | some amount =>
              rcases (mem_visits_shifted hop hshift nofun).mp hv with rfl | hv
              · exact hroom
              · exact hchain v hv
          | none =>
              obtain ⟨rightValue, hright, -⟩ := bind_eq_ok.mp h
              rcases (mem_visits_operation hop hshift).mp hv with rfl | hv | hv
              · exact hroom
              · exact hchain v hv
              · exact fits_of_lower right hright (room_of_alone hright) v (by rwa [start_alone])

theorem fits_of_lowerAll {limit : Nat} (es : List Expr) {depth : Nat} {texts : List String}
    (h : lowerAll limit depth es = .ok texts) : ∀ v ∈ visitsAll (depth + 1) es, Fits limit v := by
  intro v hv
  match es with
  | [] => cases hv
  | e :: es =>
      obtain ⟨value, rest, hvalue, hrest, -⟩ := of_lowerAll_cons h
      rcases List.mem_append.mp hv with hv | hv
      · exact fits_of_lower e hvalue (room_of_alone hvalue) v (by rwa [start_alone])
      · exact fits_of_lowerAll es hrest v hv

end

end Expr

end VaultQuery
