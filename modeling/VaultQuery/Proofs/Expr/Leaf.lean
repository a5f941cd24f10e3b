import VaultQuery.Expr
import VaultQuery.Token

/-!
The leaves of an expression: the variables and literals it is built from, and the tokens that spell
them.
-/

namespace VaultQuery.Expr

mutual

/-- The variables and literals of an expression, and what does not belong in it. -/
def leaves : Expr → List Expr
  | .index object key => leaves object ++ leaves key
  | .binary _ left right => leaves left ++ leaves right
  | .call _ args => leavesOf args
  | .negated child => leaves child
  | .list items => leavesOf items
  | e => [e]

/-- The leaves of several expressions. -/
def leavesOf : List Expr → List Expr
  | [] => []
  | e :: es => leaves e ++ leavesOf es

end

theorem mem_leavesOf {es : List Expr} {x : Expr} : x ∈ leavesOf es ↔ ∃ e ∈ es, x ∈ e.leaves := by
  induction es with
  | nil => simp [leavesOf]
  | cons e es ih => simp [leavesOf, ih]

/-- The leaves that tokens with a property spell. -/
inductive Spelt (T : Token → Prop) : Expr → Prop
  | var {t : Token} (ht : T t) (hk : t.kind = .identifier) : Spelt T (.var t.text)
  | text {t : Token} (ht : T t) (hk : t.kind = .string ∨ t.kind = .link ∨ t.kind = .identifier) :
      Spelt T (.literal (.text t.text))
  | number {t : Token} {n : Number} (ht : T t) (hk : t.kind = .number)
      (hn : Numeral.read t.text = .ok n) : Spelt T (.literal (.number n))
  | duration {t : Token} {n : Number} (ht : T t) (hk : t.kind = .number)
      (hn : Numeral.read t.text = .ok n) (unit : TimeUnit) :
      Spelt T (.literal (.duration ⟨n, unit⟩))
  | null : Spelt T (.literal .null)
  | bool (b : Bool) : Spelt T (.literal (.bool b))
  | moment (m : Moment) : Spelt T (.literal (.moment m))
  /-- The factor that a sign stands for. -/
  | sign : Spelt T (.literal (.number (.int (-1))))
  | negNumber {n : Number} (h : Spelt T (.literal (.number n))) : Spelt T (.literal (.number n.neg))
  | negDuration {d : Duration} (h : Spelt T (.literal (.duration d))) :
      Spelt T (.literal (.duration d.neg))

/-- Every leaf is spelt by a token with a property. -/
def IsSpelt (T : Token → Prop) (e : Expr) : Prop :=
  ∀ x ∈ e.leaves, Spelt T x

section IsSpelt

variable {T : Token → Prop} {e object key left right : Expr} {es : List Expr}

theorem Spelt.mono {T' : Token → Prop} (hT : ∀ t, T t → T' t) (h : Spelt T e) : Spelt T' e := by
  induction h with
  | var ht hk => exact .var (hT _ ht) hk
  | text ht hk => exact .text (hT _ ht) hk
  | number ht hk hn => exact .number (hT _ ht) hk hn
  | duration ht hk hn unit => exact .duration (hT _ ht) hk hn unit
  | null => exact .null
  | bool b => exact .bool b
  | moment m => exact .moment m
  | sign => exact .sign
  | negNumber _ ih => exact .negNumber ih
  | negDuration _ ih => exact .negDuration ih

theorem IsSpelt.mono {T' : Token → Prop} (hT : ∀ t, T t → T' t) (h : IsSpelt T e) :
    IsSpelt T' e :=
  fun x hx => (h x hx).mono hT

theorem IsSpelt.leaf {x : Expr} (h : Spelt T x) : IsSpelt T x := by
  have hx : x.leaves = [x] := by cases h <;> rfl
  intro y hy
  rw [hx, List.mem_singleton] at hy
  exact hy ▸ h

theorem IsSpelt.index (ho : IsSpelt T object) (hk : IsSpelt T key) :
    IsSpelt T (.index object key) := by
  intro x hx
  exact (List.mem_append.mp hx).elim (ho x) (hk x)

theorem IsSpelt.binary (op : BinOp) (hl : IsSpelt T left) (hr : IsSpelt T right) :
    IsSpelt T (.binary op left right) := by
  intro x hx
  exact (List.mem_append.mp hx).elim (hl x) (hr x)

theorem IsSpelt.call (name : String) (h : ∀ e ∈ es, IsSpelt T e) : IsSpelt T (.call name es) := by
  intro x hx
  obtain ⟨e, he, hx⟩ := mem_leavesOf.mp hx
  exact h e he x hx

theorem IsSpelt.list (h : ∀ e ∈ es, IsSpelt T e) : IsSpelt T (.list es) := by
  intro x hx
  obtain ⟨e, he, hx⟩ := mem_leavesOf.mp hx
  exact h e he x hx

theorem IsSpelt.negated (h : IsSpelt T e) : IsSpelt T (.negated e) := by
  intro x hx
  exact h x hx

theorem IsSpelt.minus (h : IsSpelt T e) : IsSpelt T e.minus := by
  unfold Expr.minus
  split
  case h_1 n => exact .leaf (.negNumber (h _ (List.mem_singleton_self _)))
  case h_2 d => exact .leaf (.negDuration (h _ (List.mem_singleton_self _)))
  case h_3 => exact .binary _ (.leaf .sign) h

end IsSpelt

end VaultQuery.Expr
