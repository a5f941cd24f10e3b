import VaultQuery.Proofs.Expr.Derived
import VaultQuery.Proofs.Expr.Visit

/-!
How deep the walk over an expression goes, measured by the derivation that the expression was read
by.  Each of the ranks from products to logical operators costs one level, a primary with its parts
up to three; so six levels are gone when a bracket, a call, a negation or a sign opens the next
derivation (`Derivation.shallow`).
-/

namespace VaultQuery

/-! ## Levels of a walk -/

/-- A walk, given by its visits from a depth on, takes at most `n` levels. -/
def TakesLevels {ν : Type} (n : Nat) (walk : Nat → List (Nat × ν)) : Prop :=
  ∀ d, ∀ v ∈ walk d, v.1 < d + n

namespace TakesLevels

variable {ν : Type} {n m d : Nat} {walk : Nat → List (Nat × ν)} {v : Nat × ν}

theorem mono (h : TakesLevels n walk) (hle : n ≤ m) : TakesLevels m walk := by
  intro d v hv
  have hlt := h d v hv
  omega

theorem leaf {x : ν} (hwalk : ∀ d, walk d = [(d, x)]) : TakesLevels (n + 1) walk := by
  intro d v hv
  rw [hwalk, List.mem_singleton] at hv
  rw [hv]
  exact Nat.lt_add_of_pos_right (Nat.succ_pos n)

/-- A part that is walked one level below the whole makes it one level deeper. -/
theorem below (h : TakesLevels n walk) (hv : v ∈ walk (d + 1)) : v.1 < d + (n + 1) := by
  have hlt := h _ v hv
  omega

/-- A left operand is walked one level below the whole, or continues it at the same level. -/
theorem left {continues : Bool}
    (h : TakesLevels n walk ∨ continues = true ∧ TakesLevels (n + 1) walk)
    (hv : v ∈ walk (if continues then d else d + 1)) : v.1 < d + (n + 1) := by
  rcases h with h | ⟨rfl, h⟩
  · have hlt := h _ v hv
    split at hlt <;> omega
  · exact h d v hv

end TakesLevels

namespace Expr

/-- The walk over an expression takes at most `n` levels. -/
def Shallow (n : Nat) (e : Expr) : Prop :=
  TakesLevels n (visits · e)

/-- Where the left operand of an operator stands. -/
def placeOf (op : BinOp) : Place :=
  if op.isLogical then .logical else .chain op.precedence

theorem of_mem_visits_binary {d : Nat} {op : BinOp} {left right : Expr} {v : Nat × Expr}
    (h : v ∈ visits d (.binary op left right)) :
    v.1 = d ∨ v ∈ visits (start (placeOf op) d left) left ∨ v ∈ visits (d + 1) right := by
  rw [visits] at h
  rcases List.mem_cons.mp h with rfl | h
  · exact .inl rfl
  right
  rw [placeOf]
  split at h
  case isTrue hop =>
      rw [if_pos hop]
      exact List.mem_append.mp h
  case isFalse hop =>
      rw [if_neg hop]
      refine (List.mem_append.mp h).imp id fun hright => ?_
      split at hright
      case h_1 => exact hright
      case h_2 => cases hright

theorem of_mem_visits_index {d : Nat} {object key : Expr} {v : Nat × Expr}
    (h : v ∈ visits d (.index object key)) :
    v.1 = d ∨ v ∈ visits (start .path d object) object ∨ v ∈ visits (d + 1) key := by
  by_cases hkey : ∃ name, key = .literal (.text name)
  · obtain ⟨name, rfl⟩ := hkey
    rcases mem_visits_property.mp h with rfl | hv
    · exact .inl rfl
    · exact .inr (.inl hv)
  · rcases (mem_visits_element fun name hname => hkey ⟨name, hname⟩).mp h with rfl | hv
    · exact .inl rfl
    · exact .inr hv

theorem of_mem_visits_call {d : Nat} {name : String} {args : List Expr} {v : Nat × Expr}
    (h : v ∈ visits d (.call name args)) : v.1 = d ∨ v ∈ visitsAll (d + 1) args := by
  rw [visits] at h
  rcases List.mem_cons.mp h with rfl | h
  · exact .inl rfl
  · split at h
    case h_1 => exact .inr h
    case h_2 => cases h

namespace Shallow

variable {n m : Nat} {e left right object key : Expr} {op : BinOp} {name : String} {es : List Expr}

theorem mono (h : e.Shallow n) (hle : n ≤ m) : e.Shallow m :=
  TakesLevels.mono h hle

theorem binary (hleft : left.Shallow n ∨ continues (placeOf op) left = true ∧ left.Shallow (n + 1))
    (hright : right.Shallow n) : (Expr.binary op left right).Shallow (n + 1) := by
  intro d v hv
  rcases of_mem_visits_binary hv with hself | hv | hv
  · omega
  · exact TakesLevels.left hleft hv
  · exact hright.below hv

theorem index (hobject : object.Shallow n ∨ continues .path object = true ∧ object.Shallow (n + 1))
    (hkey : key.Shallow n) : (Expr.index object key).Shallow (n + 1) := by
  intro d v hv
  rcases of_mem_visits_index hv with hself | hv | hv
  · omega
  · exact TakesLevels.left hobject hv
  · exact hkey.below hv

theorem call (h : ∀ e ∈ es, e.Shallow n) : (Expr.call name es).Shallow (n + 1) := by
  intro d v hv
  rcases of_mem_visits_call hv with hself | hv
  · omega
  · obtain ⟨e, he, hv⟩ := mem_visitsAll.mp hv
    exact (h e he).below hv

theorem list (h : ∀ e ∈ es, e.Shallow n) : (Expr.list es).Shallow (n + 1) := by
  intro d v hv
  rcases List.mem_cons.mp hv with rfl | hv
  · exact Nat.lt_add_of_pos_right (Nat.succ_pos n)
  · obtain ⟨e, he, hv⟩ := mem_visitsAll.mp hv
    exact (h e he).below hv

theorem negated (h : e.Shallow n) : (Expr.negated e).Shallow (n + 1) := by
  intro d v hv
  rcases List.mem_cons.mp hv with rfl | hv
  · exact Nat.lt_add_of_pos_right (Nat.succ_pos n)
  · exact h.below hv

theorem literal (value : Literal) : (Expr.literal value).Shallow 1 :=
  TakesLevels.leaf fun _ => rfl

theorem minus (h : e.Shallow n) (hn : 1 ≤ n) : e.minus.Shallow (n + 1) := by
  have hproduct : (Expr.binary .mul (.literal (.number (.int (-1)))) e).Shallow (n + 1) :=
    binary (.inl ((literal _).mono hn)) h
  unfold Expr.minus
  split
  case h_1 => exact (literal _).mono (by omega)
  case h_2 => exact (literal _).mono (by omega)
  case h_3 => exact hproduct

end Shallow

/-! ## Chains and paths -/

theorem precedence_of_operator? {k : Nat} {kind : Token.Kind} {op : BinOp}
    (h : operator? k kind = some op) :
    op.isLogical = decide (k = 5) ∧ (op.isLogical = false → op.precedence + k = 7) := by
  unfold operator? at h
  split at h <;> cases kind <;> cases h <;> decide

/-- The operators of a rank form one chain: what one joins continues the chain of another. -/
theorem continues_of_operator? {k : Nat} {kind kind' : Token.Kind} {op op' : BinOp}
    (h : operator? k kind = some op) (h' : operator? k kind' = some op') (left right : Expr) :
    continues (placeOf op') (.binary op left right) = true := by
  obtain ⟨hlogical, hprecedence⟩ := precedence_of_operator? h
  obtain ⟨hlogical', hprecedence'⟩ := precedence_of_operator? h'
  rw [← hlogical] at hlogical'
  rw [placeOf, hlogical']
  cases hop : op.isLogical with
  | true => exact hop
  | false =>
      have hrank := hprecedence hop
      have hrank' := hprecedence' (hlogical'.trans hop)
      have hsame : op.precedence = op'.precedence := by omega
      simp [continues, hop, hsame]

/-- A chain of operators of one rank is one level deeper than its operands, however long it is. -/
theorem shallow_grouped {n k : Nat} (steps : List (BinOp × Expr))
    (hsteps : ∀ step ∈ steps, (∃ kind, operator? k kind = some step.1) ∧ step.2.Shallow n) :
    ∀ e : Expr, (e.Shallow n ∨ (∃ op left right kind, e = .binary op left right ∧
      operator? k kind = some op) ∧ e.Shallow (n + 1)) → (grouped e steps).Shallow (n + 1) := by
  induction steps with
  | nil =>
      rintro e (h | ⟨-, h⟩)
      · exact h.mono (Nat.le_succ n)
      · exact h
  | cons step steps ih =>
      intro e h
      obtain ⟨⟨kind, hkind⟩, hright⟩ := hsteps step List.mem_cons_self
      refine ih (fun s hs => hsteps s (List.mem_cons_of_mem step hs)) _
        (.inr ⟨⟨_, _, _, kind, rfl, hkind⟩, .binary (h.imp id ?_) hright⟩)
      rintro ⟨⟨op, left, right, kind', rfl, hop⟩, hshallow⟩
      exact ⟨continues_of_operator? hop hkind left right, hshallow⟩

/-- A path is one level deeper than its root and its keys, however long it is. -/
theorem shallow_path {n : Nat} (keys : List Expr) (hkeys : ∀ key ∈ keys, key.Shallow n) :
    ∀ e : Expr, (e.Shallow n ∨ continues .path e = true ∧ e.Shallow (n + 1)) →
      (keys.foldl .index e).Shallow (n + 1) := by
  induction keys with
  | nil =>
      rintro e (h | ⟨-, h⟩)
      · exact h.mono (Nat.le_succ n)
      · exact h
  | cons key keys ih =>
      intro e h
      refine ih (fun k hk => hkeys k (List.mem_cons_of_mem key hk)) _ (.inr ⟨rfl, ?_⟩)
      exact .index h (hkeys key List.mem_cons_self)

/-! ## Derivations -/

theorem shallow_of_atom? {t : Token} {e : Expr} (h : atom? t = some e) : e.Shallow 2 := by
  have hleaf : ∀ value, (Expr.literal value).Shallow 2 :=
    fun value => (Shallow.literal value).mono (by decide)
  unfold atom? at h
  split at h
  case h_1 =>
      cases h
      exact hleaf _
  case h_2 =>
      obtain ⟨n, -, rfl⟩ := Option.map_eq_some_iff.mp h
      exact hleaf _
  case h_3 =>
      cases h
      exact hleaf _
  case h_4 =>
      cases h
      exact hleaf _
  case h_5 =>
      obtain ⟨m, -, rfl⟩ := Option.map_eq_some_iff.mp h
      exact hleaf _
  case h_6 =>
      cases h
      refine Shallow.call fun e he => ?_
      rw [List.mem_singleton.mp he]
      exact Shallow.literal _
  case h_7 =>
      cases h
      exact TakesLevels.leaf fun _ => rfl
  case h_8 => cases h

mutual

/-- An expression is no deeper than six levels for each open level of its derivation, one for each
rank above signs, and three for the innermost primary with its parts. -/
theorem Derivation.shallow {k : Nat} {ts : List Token} {e : Expr} (D : Derivation k ts e) :
    e.Shallow (6 * D.depth + max k 1 + 2) := by
  match D with
  | .access primary parts =>
      have hdepth : (Derivation.access primary parts).depth = max primary.depth parts.depth := rfl
      have hroot := primary.shallow.mono (m := 6 * (Derivation.access primary parts).depth + 2)
        (by omega)
      refine shallow_path _ (fun key hkey => ?_) _ (.inl hroot)
      exact (parts.shallow key hkey).mono (by omega)
  | .unsigned child => exact child.shallow
  | .not t ht child =>
      have hchild := child.shallow
      have hdepth : (Derivation.not t ht child).depth = child.depth + 1 := rfl
      exact (Shallow.negated hchild).mono (by omega)
  | .minus t ht child =>
      have hchild := child.shallow
      have hdepth : (Derivation.minus t ht child).depth = child.depth + 1 := rfl
      exact (hchild.minus (by omega)).mono (by omega)
  | @Derivation.chain k _ _ _ _ first rest =>
      have hdepth : (Derivation.chain first rest).depth = max first.depth rest.depth := rfl
      have hfirst := first.shallow.mono
        (m := 6 * (Derivation.chain first rest).depth + (k + 1) + 2) (by omega)
      have hchain := shallow_grouped _ (fun step hstep => ⟨(rest.shallow step hstep).1,
        (rest.shallow step hstep).2.mono (by omega)⟩) _ (.inl hfirst)
      exact hchain.mono (by omega)

theorem Steps.shallow {k : Nat} {us : List Token} {steps : List (BinOp × Expr)}
    (D : Steps k us steps) : ∀ step ∈ steps, (∃ kind, operator? (k + 1) kind = some step.1) ∧
      step.2.Shallow (6 * D.depth + max k 1 + 2) := by
  match D with
  | .done => nofun
  | .step t hop operand rest =>
      have hdepth : (Steps.step t hop operand rest).depth = max operand.depth rest.depth := rfl
      have hoperand := operand.shallow
      have hrest := rest.shallow
      intro step hstep
      rcases List.mem_cons.mp hstep with rfl | hstep
      · exact ⟨⟨t.kind, hop⟩, hoperand.mono (by omega)⟩
      · exact ⟨(hrest step hstep).1, (hrest step hstep).2.mono (by omega)⟩

theorem Primary.shallow {ts : List Token} {e : Expr} (D : Primary ts e) :
    e.Shallow (6 * D.depth + 2) := by
  match D with
  | .atom t h => exact shallow_of_atom? h
  | .call name p q _ _ _ items =>
      exact (Shallow.call items.shallow).mono (by rw [Primary.depth]; omega)
  | .duration name p q _ _ _ _ _ =>
      refine (Shallow.call (n := 1) fun e he => ?_).mono (by rw [Primary.depth]; omega)
      rw [List.mem_singleton.mp he]
      exact Shallow.literal _
  | .paren p q _ _ inside =>
      have hinside : Shallow (6 * inside.depth + 7) _ := inside.shallow
      exact hinside.mono (by rw [Primary.depth]; omega)
  | .list p q _ _ items => exact (Shallow.list items.shallow).mono (by rw [Primary.depth]; omega)

theorem Parts.shallow {us : List Token} {keys : List Expr} (D : Parts us keys) :
    ∀ key ∈ keys, key.Shallow (6 * D.depth + 2) := by
  match D with
  | .done => nofun
  | .property t name _ _ rest =>
      have hrest := rest.shallow
      intro key hkey
      rcases List.mem_cons.mp hkey with rfl | hkey
      · exact (Shallow.literal _).mono (by omega)
      · exact hrest key hkey
  | .element p q hp hq inside rest =>
      have hdepth : (Parts.element p q hp hq inside rest).depth =
        max (inside.depth + 1) rest.depth := rfl
      have hinside : Shallow (6 * inside.depth + 7) _ := inside.shallow
      have hrest := rest.shallow
      intro key hkey
      rcases List.mem_cons.mp hkey with rfl | hkey
      · exact hinside.mono (by omega)
      · exact (hrest key hkey).mono (by omega)

theorem Items.shallow {ts : List Token} {es : List Expr} (D : Items ts es) :
    ∀ e ∈ es, e.Shallow (6 * D.depth + 7) := by
  match D with
  | .empty => nofun
  | .filled first rest =>
      have hdepth : (Items.filled first rest).depth = max first.depth rest.depth := rfl
      have hfirst : Shallow (6 * first.depth + 7) _ := first.shallow
      have hrest := rest.shallow
      intro e he
      rcases List.mem_cons.mp he with rfl | he
      · exact hfirst.mono (by omega)
      · exact (hrest e he).mono (by omega)

theorem More.shallow {us : List Token} {es : List Expr} (D : More us es) :
    ∀ e ∈ es, e.Shallow (6 * D.depth + 7) := by
  match D with
  | .done => nofun
  | .item t ht first rest =>
      have hdepth : (More.item t ht first rest).depth = max first.depth rest.depth := rfl
      have hfirst : Shallow (6 * first.depth + 7) _ := first.shallow
      have hrest := rest.shallow
      intro e he
      rcases List.mem_cons.mp he with rfl | he
      · exact hfirst.mono (by omega)
      · exact (hrest e he).mono (by omega)

end

/-- What is read as an expression is no deeper than the limit of its clause allows. -/
theorem shallow_of_expression {c : Clause} {ts rest : List Token} {e : Expr}
    (h : expression c ts = .ok (e, rest)) : e.Shallow (6 * c.limit.toNat + 7) := by
  obtain ⟨us, D, -, hdepth⟩ := rankReader_sound c c.budget loosest ts e rest h
  have hbudget : c.budget ≤ c.limit.toNat := Nat.min_le_left _ _
  have hshallow : e.Shallow (6 * D.depth + 7) := D.shallow
  exact hshallow.mono (by omega)

end Expr

end VaultQuery
