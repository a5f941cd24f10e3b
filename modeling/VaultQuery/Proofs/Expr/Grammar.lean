import VaultQuery.Expr.Read

/-!
The grammar of expressions, with derivations as data.  Binary operators have four ranks, from
products (rank 2, the tightest) to logical operators (rank 5, the loosest); an expression of such a
rank is a chain of operands of the next tighter rank, grouped to the left.  Rank 1 are negations and
signs, rank 0 primaries with their parts.  `Derivation.depth` counts how many brackets, calls,
negations and signs are open at once, and `Derivation.unique` says that the grammar is unambiguous:
tokens have at most one derivation.
-/

namespace VaultQuery.Expr

/-! ## Derivations -/

/-- The operators of a rank. -/
def operator? : (rank : Nat) → Token.Kind → Option BinOp
  | 2 => multiplicative?
  | 3 => additive?
  | 4 => comparison?
  | 5 => logical?
  | _ => fun _ => none

/-- The rank of an expression as a whole. -/
def loosest : Nat := 5

/-- The expression that one token spells by itself. -/
def atom? (t : Token) : Option Expr :=
  match t.kind with
  | .string => some (.literal (.text t.text))
  | .number => (Numeral.read t.text).toOption.map fun n => .literal (.number n)
  | .boolean => some (.literal (.bool (Text.lowerCase t.text == "true")))
  | .null => some (.literal .null)
  | .date => (Moment.read t.text).toOption.map fun m => .literal (.moment m)
  | .link => some (.call "link" [.literal (.text t.text)])
  | .identifier => some (.var t.text)
  | _ => none

/-- The duration that a numeral and a unit spell, perhaps with a sign before them. -/
def amount? : List Token → Option Duration
  | [n, u] =>
    if n.kind = .number ∧ u.kind = .identifier then do
      let amount ← (Numeral.read n.text).toOption
      let unit ← TimeUnit.ofSpelling? u.text
      return ⟨amount, unit⟩
    else none
  | [m, n, u] => if m.kind = .minus then (amount? [n, u]).map Duration.neg else none
  | _ => none

/-- An operand with the operators and operands after it, grouped to the left. -/
def grouped (first : Expr) (steps : List (BinOp × Expr)) : Expr :=
  steps.foldl (fun left step => .binary step.1 left step.2) first

mutual

/-- Derivations of an expression from tokens, at a rank. -/
inductive Derivation : Nat → List Token → Expr → Type
  | access {ts us : List Token} {e : Expr} {keys : List Expr} : Primary ts e → Parts us keys →
      Derivation 0 (ts ++ us) (keys.foldl .index e)
  | unsigned {ts : List Token} {e : Expr} : Derivation 0 ts e → Derivation 1 ts e
  | not {ts : List Token} {e : Expr} (t : Token) : t.kind = .not → Derivation 1 ts e →
      Derivation 1 (t :: ts) (.negated e)
  | minus {ts : List Token} {e : Expr} (t : Token) : t.kind = .minus → Derivation 1 ts e →
      Derivation 1 (t :: ts) e.minus
  | chain {k : Nat} {ts us : List Token} {e : Expr} {steps : List (BinOp × Expr)} :
      Derivation (k + 1) ts e → Steps (k + 1) us steps →
      Derivation (k + 2) (ts ++ us) (grouped e steps)

/-- Operators of the rank after `k`, each with an operand of rank `k`. -/
inductive Steps : Nat → List Token → List (BinOp × Expr) → Type
  | done {k : Nat} : Steps k [] []
  | step {k : Nat} {ts us : List Token} {op : BinOp} {e : Expr} {steps : List (BinOp × Expr)}
      (t : Token) : operator? (k + 1) t.kind = some op → Derivation k ts e → Steps k us steps →
      Steps k (t :: (ts ++ us)) ((op, e) :: steps)

/-- Literals, variables, links, calls, expressions in parentheses and lists. -/
inductive Primary : List Token → Expr → Type
  | atom {e : Expr} (t : Token) : atom? t = some e → Primary [t] e
  | call {ts : List Token} {es : List Expr} (name p q : Token) : name.kind = .identifier →
      p.kind = .parenOpen → q.kind = .parenClose → Items ts es →
      Primary (name :: p :: (ts ++ [q])) (.call name.text es)
  | duration {ts : List Token} {d : Duration} (name p q : Token) : name.kind = .identifier →
      Text.lowerCase name.text = "dur" → p.kind = .parenOpen → q.kind = .parenClose →
      amount? ts = some d →
      Primary (name :: p :: (ts ++ [q])) (.call name.text [.literal (.duration d)])
  | paren {ts : List Token} {e : Expr} (p q : Token) : p.kind = .parenOpen →
      q.kind = .parenClose → Derivation loosest ts e → Primary (p :: (ts ++ [q])) e
  | list {ts : List Token} {es : List Expr} (p q : Token) : p.kind = .bracketOpen →
      q.kind = .bracketClose → Items ts es → Primary (p :: (ts ++ [q])) (.list es)

/-- Properties and indices. -/
inductive Parts : List Token → List Expr → Type
  | done : Parts [] []
  | property {us : List Token} {keys : List Expr} (t name : Token) : t.kind = .dot →
      name.kind = .identifier → Parts us keys →
      Parts (t :: name :: us) (.literal (.text name.text) :: keys)
  | element {ts us : List Token} {key : Expr} {keys : List Expr} (p q : Token) :
      p.kind = .bracketOpen → q.kind = .bracketClose → Derivation loosest ts key →
      Parts us keys → Parts (p :: (ts ++ q :: us)) (key :: keys)

/-- Expressions with commas between them. -/
inductive Items : List Token → List Expr → Type
  | empty : Items [] []
  | filled {ts us : List Token} {e : Expr} {es : List Expr} : Derivation loosest ts e →
      More us es → Items (ts ++ us) (e :: es)

/-- Expressions with a comma before each of them. -/
inductive More : List Token → List Expr → Type
  | done : More [] []
  | item {ts us : List Token} {e : Expr} {es : List Expr} (t : Token) : t.kind = .comma →
      Derivation loosest ts e → More us es → More (t :: (ts ++ us)) (e :: es)

end

mutual

/-- How many brackets, calls, negations and signs are open at once. -/
def Derivation.depth {k : Nat} {ts : List Token} {e : Expr} : Derivation k ts e → Nat
  | .access primary parts => max primary.depth parts.depth
  | .unsigned child => child.depth
  | .not _ _ child => child.depth + 1
  | .minus _ _ child => child.depth + 1
  | .chain first rest => max first.depth rest.depth

def Steps.depth {k : Nat} {ts : List Token} {steps : List (BinOp × Expr)} : Steps k ts steps → Nat
  | .done => 0
  | .step _ _ operand rest => max operand.depth rest.depth

def Primary.depth {ts : List Token} {e : Expr} : Primary ts e → Nat
  | .atom _ _ => 0
  | .call _ _ _ _ _ _ items => items.depth + 1
  | .duration .. => 1
  | .paren _ _ _ _ inside => inside.depth + 1
  | .list _ _ _ _ items => items.depth + 1

def Parts.depth {ts : List Token} {keys : List Expr} : Parts ts keys → Nat
  | .done => 0
  | .property _ _ _ _ rest => rest.depth
  | .element _ _ _ _ key rest => max (key.depth + 1) rest.depth

def Items.depth {ts : List Token} {es : List Expr} : Items ts es → Nat
  | .empty => 0
  | .filled first rest => max first.depth rest.depth

def More.depth {ts : List Token} {es : List Expr} : More ts es → Nat
  | .done => 0
  | .item _ _ first rest => max first.depth rest.depth

end

/-! ## First tokens -/

/-- Whether a token of a kind can open an expression. -/
def opens : Token.Kind → Bool
  | .string | .number | .boolean | .null | .date | .link | .identifier | .parenOpen | .bracketOpen
  | .not | .minus => true
  | _ => false

theorem kind_of_atom? {t : Token} {e : Expr} (h : atom? t = some e) :
    opens t.kind = true ∧ t.kind ≠ .not ∧ t.kind ≠ .minus ∧ t.kind ≠ .parenOpen ∧
      t.kind ≠ .bracketOpen := by
  unfold atom? at h
  split at h <;> simp_all [opens]

theorem Primary.head {ts : List Token} {e : Expr} (D : Primary ts e) :
    ∃ t us, ts = t :: us ∧ opens t.kind = true ∧ t.kind ≠ .not ∧ t.kind ≠ .minus := by
  cases D with
  | atom t h =>
      obtain ⟨hopens, hnot, hminus, -⟩ := kind_of_atom? h
      exact ⟨t, [], rfl, hopens, hnot, hminus⟩
  | call name p q hn => exact ⟨name, _, rfl, by simp [hn, opens]⟩
  | duration name p q hn => exact ⟨name, _, rfl, by simp [hn, opens]⟩
  | paren p q hp => exact ⟨p, _, rfl, by simp [hp, opens]⟩
  | list p q hp => exact ⟨p, _, rfl, by simp [hp, opens]⟩

theorem Derivation.head {k : Nat} {ts : List Token} {e : Expr} (D : Derivation k ts e) :
    ∃ t us, ts = t :: us ∧ opens t.kind = true ∧ (k = 0 → t.kind ≠ .not ∧ t.kind ≠ .minus) := by
  match D with
  | .access primary _ =>
      obtain ⟨t, us, rfl, ho, hs⟩ := primary.head
      exact ⟨t, us ++ _, rfl, ho, fun _ => hs⟩
  | .unsigned child =>
      obtain ⟨t, us, rfl, ho, -⟩ := child.head
      exact ⟨t, us, rfl, ho, nofun⟩
  | .not t ht _ => exact ⟨t, _, rfl, by simp [ht, opens], nofun⟩
  | .minus t ht _ => exact ⟨t, _, rfl, by simp [ht, opens], nofun⟩
  | .chain first _ =>
      obtain ⟨t, us, rfl, ho, -⟩ := first.head
      exact ⟨t, us ++ _, rfl, ho, nofun⟩

/-! ## What may follow -/

/-- The rank at which a kind of token is a binary operator. -/
def rankOf : Token.Kind → Nat
  | .star | .slash | .percent => 2
  | .plus | .minus => 3
  | .eq | .ne | .lt | .gt | .le | .ge => 4
  | .and | .or => 5
  | _ => 0

theorem rankOf_of_operator? {k : Nat} {kind : Token.Kind} {op : BinOp}
    (h : operator? k kind = some op) : rankOf kind = k := by
  unfold operator? at h
  split at h <;> cases kind <;> first | rfl | cases h

/-- Tokens that continue no expression of rank `k`. -/
def Quiet (k : Nat) (ts : List Token) : Prop :=
  ∀ t ∈ ts.head?, t.kind ≠ .parenOpen ∧ t.kind ≠ .dot ∧ t.kind ≠ .bracketOpen ∧
    ∀ j ≤ k, operator? j t.kind = none

theorem quiet_nil (k : Nat) : Quiet k [] :=
  fun _ h => absurd h (by simp)

/-- A closing bracket. -/
def closes : Token.Kind → Bool
  | .parenClose | .bracketClose => true
  | _ => false

/-- A token that ends an expression of any rank. -/
def ends : Token.Kind → Bool
  | .parenClose | .bracketClose | .comma => true
  | _ => false

theorem ends_of_closes {kind : Token.Kind} (h : closes kind = true) : ends kind = true := by
  cases kind <;> simp_all [closes, ends]

theorem quiet_of_ends {t : Token} (h : ends t.kind = true) (k : Nat) (ts : List Token) :
    Quiet k (t :: ts) := by
  intro t' ht
  obtain rfl : t = t' := by simpa using ht
  have hrank : rankOf t.kind = 0 := by
    revert h
    cases t.kind <;> simp [ends, rankOf]
  refine ⟨?_, ?_, ?_, fun j _ => ?_⟩
  · rintro hk; simp [hk, ends] at h
  · rintro hk; simp [hk, ends] at h
  · rintro hk; simp [hk, ends] at h
  · cases ho : operator? j t.kind with
    | none => rfl
    | some op =>
        obtain rfl : 0 = j := hrank.symm.trans (rankOf_of_operator? ho)
        simp [operator?] at ho

theorem quiet_of_operator? {k : Nat} {t : Token} {op : BinOp}
    (h : operator? (k + 1) t.kind = some op) (ts : List Token) : Quiet k (t :: ts) := by
  intro t' ht
  obtain rfl : t = t' := by simpa using ht
  have hrank := rankOf_of_operator? h
  refine ⟨?_, ?_, ?_, fun j hj => ?_⟩
  · rintro hk; simp [hk, rankOf] at hrank
  · rintro hk; simp [hk, rankOf] at hrank
  · rintro hk; simp [hk, rankOf] at hrank
  · cases ho : operator? j t.kind with
    | none => rfl
    | some op' => exact absurd (hrank.symm.trans (rankOf_of_operator? ho)) (by omega)

theorem Quiet.mono {j k : Nat} {ts : List Token} (h : Quiet k ts) (hle : j ≤ k) : Quiet j ts :=
  fun t ht => ⟨(h t ht).1, (h t ht).2.1, (h t ht).2.2.1,
    fun i hi => (h t ht).2.2.2 i (Nat.le_trans hi hle)⟩

theorem Steps.quiet {k : Nat} {us rest : List Token} {steps : List (BinOp × Expr)}
    (D : Steps k us steps) (h : Quiet (k + 1) rest) : Quiet k (us ++ rest) := by
  cases D with
  | done => exact h.mono (Nat.le_succ k)
  | step t hop _ _ => exact quiet_of_operator? hop _

theorem More.quiet {us rest : List Token} {es : List Expr} (D : More us es) {k : Nat}
    (h : Quiet k rest) : Quiet k (us ++ rest) := by
  cases D with
  | done => exact h
  | item t ht _ _ => exact quiet_of_ends (by simp [ht, ends]) k _

/-- Tokens that make no call of a name before them. -/
def NoCall (ts : List Token) : Prop :=
  ∀ t ∈ ts.head?, t.kind ≠ .parenOpen

theorem Parts.noCall {us rest : List Token} {keys : List Expr} (D : Parts us keys)
    (h : Quiet 0 rest) : NoCall (us ++ rest) := by
  intro t ht
  cases D with
  | done => exact (h t ht).1
  | property t' name hk _ _ =>
      obtain rfl : t' = t := by simpa using ht
      simp [hk]
  | element p q hk _ _ _ =>
      obtain rfl : p = t := by simpa using ht
      simp [hk]

/-! ## Amounts are no expressions -/

/-- A numeral, perhaps with a sign before it. -/
inductive SignedNumeral : List Token → Prop
  | plain {n : Token} : n.kind = .number → SignedNumeral [n]
  | minus {m n : Token} : m.kind = .minus → n.kind = .number → SignedNumeral [m, n]

theorem signedNumeral_of_amount? {ts : List Token} {d : Duration} (h : amount? ts = some d) :
    ∃ xs u, ts = xs ++ [u] ∧ SignedNumeral xs ∧ u.kind = .identifier := by
  have hpair : ∀ {n u : Token} {d : Duration}, amount? [n, u] = some d →
      n.kind = .number ∧ u.kind = .identifier := by
    intro n u d h
    rw [amount?] at h
    split at h
    case isTrue hk => exact hk
    case isFalse => cases h
  match ts, h with
  | [n, u], h => exact ⟨[n], u, rfl, .plain (hpair h).1, (hpair h).2⟩
  | [m, n, u], h =>
      rw [amount?] at h
      split at h
      case isTrue hm =>
          obtain ⟨d', hd, -⟩ := Option.map_eq_some_iff.mp h
          exact ⟨[m, n], u, rfl, .minus hm (hpair hd).1, (hpair hd).2⟩
      case isFalse => cases h

theorem eq_of_amount? {ts ts' rest rest' : List Token} {d d' : Duration}
    (hd : amount? ts = some d) (hd' : amount? ts' = some d') (h : ts ++ rest = ts' ++ rest') :
    ts = ts' := by
  obtain ⟨xs, u, rfl, hx, -⟩ := signedNumeral_of_amount? hd
  obtain ⟨xs', u', rfl, hx', -⟩ := signedNumeral_of_amount? hd'
  cases hx <;> cases hx' <;> simp_all

theorem Primary.eq_of_number {ts rest rest' : List Token} {e : Expr} {n : Token}
    (D : Primary ts e) (hn : n.kind = .number) (h : ts ++ rest = n :: rest') : ts = [n] := by
  cases D with
  | atom t _ =>
      obtain ⟨rfl, -⟩ := List.cons_eq_cons.mp h
      rfl
  | call name p q hk =>
      obtain ⟨rfl, -⟩ := List.cons_eq_cons.mp h
      simp [hn] at hk
  | duration name p q hk =>
      obtain ⟨rfl, -⟩ := List.cons_eq_cons.mp h
      simp [hn] at hk
  | paren p q hk =>
      obtain ⟨rfl, -⟩ := List.cons_eq_cons.mp h
      simp [hn] at hk
  | list p q hk =>
      obtain ⟨rfl, -⟩ := List.cons_eq_cons.mp h
      simp [hn] at hk

theorem Parts.eq_nil {us rest rest' : List Token} {keys : List Expr} {u : Token}
    (D : Parts us keys) (hu : u.kind = .identifier) (h : us ++ rest = u :: rest') : us = [] := by
  cases D with
  | done => rfl
  | property t name hk =>
      obtain ⟨rfl, -⟩ := List.cons_eq_cons.mp h
      simp [hu] at hk
  | element p q hk =>
      obtain ⟨rfl, -⟩ := List.cons_eq_cons.mp h
      simp [hu] at hk

theorem Steps.eq_nil {k : Nat} {us rest rest' : List Token} {steps : List (BinOp × Expr)}
    {u : Token} (D : Steps k us steps) (hu : u.kind = .identifier)
    (h : us ++ rest = u :: rest') : us = [] := by
  cases D with
  | done => rfl
  | step t hop =>
      obtain ⟨rfl, -⟩ := List.cons_eq_cons.mp h
      have hrank := rankOf_of_operator? hop
      simp [hu, rankOf] at hrank

/-- Of a numeral that a word follows, an expression takes everything before the word. -/
theorem Derivation.eq_of_numeral {k : Nat} {ts xs rest rest' : List Token} {u : Token} {e : Expr}
    (D : Derivation k ts e) (hx : SignedNumeral xs) (hu : u.kind = .identifier)
    (h : ts ++ rest = xs ++ u :: rest') : ts = xs := by
  match D with
  | .access primary parts =>
      rw [List.append_assoc] at h
      cases hx with
      | plain hn =>
          obtain rfl := primary.eq_of_number hn h
          obtain rfl := parts.eq_nil hu (List.cons_eq_cons.mp h).2
          rfl
      | minus hm _ =>
          obtain ⟨t, us, rfl, -, -, hs⟩ := primary.head
          obtain ⟨rfl, -⟩ := List.cons_eq_cons.mp h
          exact absurd hm hs
  | .unsigned child => exact child.eq_of_numeral hx hu h
  | .not t ht child =>
      cases hx with
      | plain hn =>
          obtain ⟨rfl, -⟩ := List.cons_eq_cons.mp h
          simp [hn] at ht
      | minus hm _ =>
          obtain ⟨rfl, -⟩ := List.cons_eq_cons.mp h
          simp [hm] at ht
  | .minus t ht child =>
      cases hx with
      | plain hn =>
          obtain ⟨rfl, -⟩ := List.cons_eq_cons.mp h
          simp [hn] at ht
      | minus hm hn =>
          obtain ⟨rfl, htail⟩ := List.cons_eq_cons.mp h
          rw [child.eq_of_numeral (.plain hn) hu htail]
  | .chain first steps =>
      rw [List.append_assoc] at h
      obtain rfl := first.eq_of_numeral hx hu h
      obtain rfl := steps.eq_nil hu (List.append_cancel_left h)
      exact List.append_nil _

/-- No list of expressions starts with a numeral that a word follows. -/
theorem Items.ne_of_numeral {ts xs rest rest' : List Token} {es : List Expr} {q u : Token}
    (D : Items ts es) (hq : q.kind = .parenClose) (hx : SignedNumeral xs)
    (hu : u.kind = .identifier) : ts ++ q :: rest ≠ xs ++ u :: rest' := by
  intro h
  cases D with
  | empty =>
      cases hx with
      | plain hn =>
          obtain ⟨rfl, -⟩ := List.cons_eq_cons.mp h
          simp [hn] at hq
      | minus hm _ =>
          obtain ⟨rfl, -⟩ := List.cons_eq_cons.mp h
          simp [hm] at hq
  | filled first more =>
      rw [List.append_assoc] at h
      obtain rfl := first.eq_of_numeral hx hu h
      have h := List.append_cancel_left h
      cases more with
      | done =>
          obtain ⟨rfl, -⟩ := List.cons_eq_cons.mp h
          simp [hu] at hq
      | item t ht =>
          obtain ⟨rfl, -⟩ := List.cons_eq_cons.mp h
          simp [hu] at ht

theorem Items.ne_of_amount? {ts us rest rest' : List Token} {es : List Expr} {d : Duration}
    {q : Token} (D : Items ts es) (hq : q.kind = .parenClose) (hd : amount? us = some d) :
    ts ++ q :: rest ≠ us ++ rest' := by
  obtain ⟨xs, u, rfl, hx, hu⟩ := signedNumeral_of_amount? hd
  rw [List.append_assoc]
  exact D.ne_of_numeral hq hx hu

/-! ## Derivations are unique -/

/-- Nothing opens with a negation or a sign and with a primary. -/
theorem Derivation.head_ne {ts us rest rest' : List Token} {e : Expr} {t : Token}
    (D : Derivation 0 ts e) (ht : t.kind = .not ∨ t.kind = .minus) :
    ts ++ rest ≠ t :: (us ++ rest') := by
  intro h
  obtain ⟨t', us', rfl, -, hs⟩ := D.head
  obtain ⟨rfl, -⟩ := List.cons_eq_cons.mp h
  rcases ht with ht | ht
  · exact (hs rfl).1 ht
  · exact (hs rfl).2 ht

/-- No expression opens with a closing bracket. -/
theorem Derivation.head_ne_of_closes {k : Nat} {ts us rest rest' : List Token} {e : Expr}
    {q : Token} (D : Derivation k ts e) (hq : closes q.kind = true) :
    [] ++ q :: rest ≠ ts ++ us ++ rest' := by
  intro h
  obtain ⟨t, ts, rfl, ho, -⟩ := D.head
  obtain ⟨rfl, -⟩ := List.cons_eq_cons.mp h
  revert hq ho
  cases q.kind <;> simp [closes, opens]

/-- What a primary is, as its first two tokens tell. -/
inductive Form where
  | atom | call | paren | list
deriving DecidableEq

/-- The form of the primary that tokens start with. -/
def formOf : List Token → Form
  | [] => .atom
  | t :: ts =>
    match t.kind with
    | .parenOpen => .paren
    | .bracketOpen => .list
    | .identifier => if ts.head?.any (·.kind == .parenOpen) then .call else .atom
    | _ => .atom

def Primary.form {ts : List Token} {e : Expr} : Primary ts e → Form
  | .atom .. => .atom
  | .call .. => .call
  | .duration .. => .call
  | .paren .. => .paren
  | .list .. => .list

theorem Primary.formOf_append {ts rest : List Token} {e : Expr} (D : Primary ts e)
    (hr : NoCall rest) : formOf (ts ++ rest) = D.form := by
  cases D with
  | atom t ht =>
      have hk := kind_of_atom? ht
      have hcall : rest.head?.any (·.kind == .parenOpen) = false := by
        cases rest with
        | nil => rfl
        | cons p rest => simpa using hr p rfl
      simp only [List.cons_append, List.nil_append, formOf, form, hcall]
      split <;> simp_all
  | call name p q hn hp => simp [formOf, form, hn, hp]
  | duration name p q hn _ hp => simp [formOf, form, hn, hp]
  | paren p q hp => simp [formOf, form, hp]
  | list p q hp => simp [formOf, form, hp]

mutual

/-- Tokens in front of something that continues no expression have at most one derivation. -/
theorem Derivation.unique {k : Nat} {ts ts' rest rest' : List Token} {e e' : Expr}
    (D : Derivation k ts e) (D' : Derivation k ts' e') (h : ts ++ rest = ts' ++ rest')
    (hr : Quiet k rest) (hr' : Quiet k rest') :
    (⟨ts, e, D⟩ : (ts : List Token) × (e : Expr) × Derivation k ts e) = ⟨ts', e', D'⟩ := by
  match D, D' with
  | .access primary parts, .access primary' parts' =>
      rw [List.append_assoc, List.append_assoc] at h
      cases primary.unique primary' h (parts.noCall hr) (parts'.noCall hr')
      cases parts.unique parts' (List.append_cancel_left h) hr hr'
      rfl
  | .unsigned child, .unsigned child' =>
      cases child.unique child' h (hr.mono (Nat.zero_le 1)) (hr'.mono (Nat.zero_le 1))
      rfl
  | .not t _ child, .not t' _ child' =>
      obtain ⟨rfl, htail⟩ := List.cons_eq_cons.mp h
      cases child.unique child' htail hr hr'
      rfl
  | .minus t _ child, .minus t' _ child' =>
      obtain ⟨rfl, htail⟩ := List.cons_eq_cons.mp h
      cases child.unique child' htail hr hr'
      rfl
  | .unsigned child, .not t ht _ => exact absurd h (child.head_ne (.inl ht))
  | .unsigned child, .minus t ht _ => exact absurd h (child.head_ne (.inr ht))
  | .not t ht _, .unsigned child => exact absurd h.symm (child.head_ne (.inl ht))
  | .minus t ht _, .unsigned child => exact absurd h.symm (child.head_ne (.inr ht))
  | .not t ht _, .minus t' ht' _ =>
      obtain ⟨rfl, -⟩ := List.cons_eq_cons.mp h
      simp [ht] at ht'
  | .minus t ht _, .not t' ht' _ =>
      obtain ⟨rfl, -⟩ := List.cons_eq_cons.mp h
      simp [ht] at ht'
  | .chain first steps, .chain first' steps' =>
      rw [List.append_assoc, List.append_assoc] at h
      cases first.unique first' h (steps.quiet hr) (steps'.quiet hr')
      cases steps.unique steps' (List.append_cancel_left h) hr hr'
      rfl
termination_by structural D

theorem Steps.unique {k : Nat} {us us' rest rest' : List Token} {steps steps' : List (BinOp × Expr)}
    (D : Steps k us steps) (D' : Steps k us' steps') (h : us ++ rest = us' ++ rest')
    (hr : Quiet (k + 1) rest) (hr' : Quiet (k + 1) rest') :
    (⟨us, steps, D⟩ : (us : List Token) × (steps : List (BinOp × Expr)) × Steps k us steps) =
      ⟨us', steps', D'⟩ := by
  match D, D' with
  | .done, .done => rfl
  | .done, .step t hop _ _ =>
      obtain rfl : rest = _ := h
      exact absurd ((hr t rfl).2.2.2 (k + 1) (Nat.le_refl _)) (by simp [hop])
  | .step t hop _ _, .done =>
      obtain rfl : _ = rest' := h
      exact absurd ((hr' t rfl).2.2.2 (k + 1) (Nat.le_refl _)) (by simp [hop])
  | .step t hop operand more, .step t' hop' operand' more' =>
      simp only [List.cons_append, List.cons.injEq, List.append_assoc] at h
      obtain ⟨rfl, htail⟩ := h
      obtain rfl := Option.some.inj (hop.symm.trans hop')
      cases operand.unique operand' htail (more.quiet hr) (more'.quiet hr')
      cases more.unique more' (List.append_cancel_left htail) hr hr'
      rfl
termination_by structural D

theorem Primary.unique {ts ts' rest rest' : List Token} {e e' : Expr} (D : Primary ts e)
    (D' : Primary ts' e') (h : ts ++ rest = ts' ++ rest') (hr : NoCall rest) (hr' : NoCall rest') :
    (⟨ts, e, D⟩ : (ts : List Token) × (e : Expr) × Primary ts e) = ⟨ts', e', D'⟩ := by
  have hform : D.form = D'.form := by
    rw [← D.formOf_append hr, h, D'.formOf_append hr']
  match D, hform with
  | .atom t ht, hform =>
      cases D' with
      | atom t' ht' =>
          obtain ⟨rfl, -⟩ := List.cons_eq_cons.mp h
          obtain rfl := Option.some.inj (ht.symm.trans ht')
          rfl
      | _ => cases hform
  | .call name p q _ _ hq items, hform =>
      cases D' with
      | call name' p' q' _ _ hq' items' =>
          simp only [List.cons_append, List.cons.injEq, List.append_assoc, List.nil_append] at h
          obtain ⟨rfl, rfl, htail⟩ := h
          cases items.unique items' htail (by simp [hq, closes]) (by simp [hq', closes])
          obtain ⟨rfl, -⟩ := List.cons_eq_cons.mp (List.append_cancel_left htail)
          rfl
      | duration name' p' q' _ _ _ _ hd =>
          simp only [List.cons_append, List.cons.injEq, List.append_assoc, List.nil_append] at h
          exact absurd h.2.2 (items.ne_of_amount? hq hd)
      | _ => cases hform
  | .duration name p q _ _ _ _ hd, hform =>
      cases D' with
      | call name' p' q' _ _ hq' items' =>
          simp only [List.cons_append, List.cons.injEq, List.append_assoc, List.nil_append] at h
          exact absurd h.2.2.symm (items'.ne_of_amount? hq' hd)
      | duration name' p' q' _ _ _ _ hd' =>
          simp only [List.cons_append, List.cons.injEq, List.append_assoc, List.nil_append] at h
          obtain ⟨rfl, rfl, htail⟩ := h
          obtain rfl := eq_of_amount? hd hd' htail
          obtain rfl := Option.some.inj (hd.symm.trans hd')
          obtain ⟨rfl, -⟩ := List.cons_eq_cons.mp (List.append_cancel_left htail)
          rfl
      | _ => cases hform
  | .paren p q _ hq inside, hform =>
      cases D' with
      | paren p' q' _ hq' inside' =>
          simp only [List.cons_append, List.cons.injEq, List.append_assoc, List.nil_append] at h
          obtain ⟨rfl, htail⟩ := h
          cases inside.unique inside' htail (quiet_of_ends (by simp [hq, ends]) _ _)
            (quiet_of_ends (by simp [hq', ends]) _ _)
          obtain ⟨rfl, -⟩ := List.cons_eq_cons.mp (List.append_cancel_left htail)
          rfl
      | _ => cases hform
  | .list p q _ hq items, hform =>
      cases D' with
      | list p' q' _ hq' items' =>
          simp only [List.cons_append, List.cons.injEq, List.append_assoc, List.nil_append] at h
          obtain ⟨rfl, htail⟩ := h
          cases items.unique items' htail (by simp [hq, closes]) (by simp [hq', closes])
          obtain ⟨rfl, -⟩ := List.cons_eq_cons.mp (List.append_cancel_left htail)
          rfl
      | _ => cases hform
termination_by structural D

theorem Parts.unique {us us' rest rest' : List Token} {keys keys' : List Expr} (D : Parts us keys)
    (D' : Parts us' keys') (h : us ++ rest = us' ++ rest') (hr : Quiet 0 rest)
    (hr' : Quiet 0 rest') :
    (⟨us, keys, D⟩ : (us : List Token) × (keys : List Expr) × Parts us keys) =
      ⟨us', keys', D'⟩ := by
  match D, D' with
  | .done, .done => rfl
  | .done, .property t _ ht _ _ =>
      obtain rfl : rest = _ := h
      exact absurd ht (hr t rfl).2.1
  | .done, .element t _ ht _ _ _ =>
      obtain rfl : rest = _ := h
      exact absurd ht (hr t rfl).2.2.1
  | .property t _ ht _ _, .done =>
      obtain rfl : _ = rest' := h
      exact absurd ht (hr' t rfl).2.1
  | .element t _ ht _ _ _, .done =>
      obtain rfl : _ = rest' := h
      exact absurd ht (hr' t rfl).2.2.1
  | .property t _ ht _ _, .element t' _ ht' _ _ _ =>
      obtain ⟨rfl, -⟩ := List.cons_eq_cons.mp h
      simp [ht] at ht'
  | .element t _ ht _ _ _, .property t' _ ht' _ _ =>
      obtain ⟨rfl, -⟩ := List.cons_eq_cons.mp h
      simp [ht] at ht'
  | .property t name _ _ more, .property t' name' _ _ more' =>
      simp only [List.cons_append, List.cons.injEq] at h
      obtain ⟨rfl, rfl, htail⟩ := h
      cases more.unique more' htail hr hr'
      rfl
  | .element p q _ hq key more, .element p' q' _ hq' key' more' =>
      simp only [List.cons_append, List.cons.injEq, List.append_assoc] at h
      obtain ⟨rfl, htail⟩ := h
      cases key.unique key' htail (quiet_of_ends (by simp [hq, ends]) _ _)
        (quiet_of_ends (by simp [hq', ends]) _ _)
      obtain ⟨rfl, hmore⟩ := List.cons_eq_cons.mp (List.append_cancel_left htail)
      cases more.unique more' hmore hr hr'
      rfl
termination_by structural D

theorem Items.unique {ts ts' rest rest' : List Token} {es es' : List Expr} {q q' : Token}
    (D : Items ts es) (D' : Items ts' es') (h : ts ++ q :: rest = ts' ++ q' :: rest')
    (hq : closes q.kind = true) (hq' : closes q'.kind = true) :
    (⟨ts, es, D⟩ : (ts : List Token) × (es : List Expr) × Items ts es) = ⟨ts', es', D'⟩ := by
  match D, D' with
  | .empty, .empty => rfl
  | .empty, .filled first _ => exact absurd h (first.head_ne_of_closes hq)
  | .filled first _, .empty => exact absurd h.symm (first.head_ne_of_closes hq')
  | .filled first more, .filled first' more' =>
      rw [List.append_assoc, List.append_assoc] at h
      cases first.unique first' h (more.quiet (quiet_of_ends (ends_of_closes hq) _ _))
        (more'.quiet (quiet_of_ends (ends_of_closes hq') _ _))
      cases more.unique more' (List.append_cancel_left h) hq hq'
      rfl
termination_by structural D

theorem More.unique {us us' rest rest' : List Token} {es es' : List Expr} {q q' : Token}
    (D : More us es) (D' : More us' es') (h : us ++ q :: rest = us' ++ q' :: rest')
    (hq : closes q.kind = true) (hq' : closes q'.kind = true) :
    (⟨us, es, D⟩ : (us : List Token) × (es : List Expr) × More us es) = ⟨us', es', D'⟩ := by
  match D, D' with
  | .done, .done => rfl
  | .done, .item t ht _ _ =>
      obtain ⟨rfl, -⟩ := List.cons_eq_cons.mp h
      simp [ht, closes] at hq
  | .item t ht _ _, .done =>
      obtain ⟨rfl, -⟩ := List.cons_eq_cons.mp h
      simp [ht, closes] at hq'
  | .item t _ first more, .item t' _ first' more' =>
      simp only [List.cons_append, List.cons.injEq, List.append_assoc] at h
      obtain ⟨rfl, htail⟩ := h
      cases first.unique first' htail (more.quiet (quiet_of_ends (ends_of_closes hq) _ _))
        (more'.quiet (quiet_of_ends (ends_of_closes hq') _ _))
      cases more.unique more' (List.append_cancel_left htail) hq hq'
      rfl
termination_by structural D

end

end VaultQuery.Expr
