import VaultQuery.Proofs.Expr.Grammar
import VaultQuery.Proofs.Expr.Lower
import VaultQuery.Query.Read

/-!
The reader of expressions reads exactly what the grammar derives.  A derivation with no more open
levels than are left is read, whatever follows it that does not continue it (`Derivation.read`), and
what is read has such a derivation (`rankReader_sound`).
-/

namespace VaultQuery.Expr

/-! ## Readers by rank -/

/-- The reader of a rank with `levels` levels of nesting left. -/
def rankReader (c : Clause) (levels : Nat) : (rank : Nat) → Reader Expr
  | 0 => access c (inner? c levels)
  | 1 => unary c (inner? c levels)
  | k + 2 => Reader.chain (operator? (k + 2)) .binary (rankReader c levels (k + 1))

theorem rankReader_loosest (c : Clause) (levels : Nat) :
    rankReader c levels loosest = logical c (inner? c levels) :=
  rfl

theorem inner?_succ (c : Clause) (levels : Nat) :
    inner? c (levels + 1) = some ⟨rankReader c levels loosest, rankReader c levels 1⟩ :=
  rfl

theorem expect_of_kind {c : Clause} {kind : Token.Kind} {complaint : Complaint} {t : Token}
    (h : t.kind = kind) (ts : List Token) :
    Reader.expect c kind complaint (t :: ts) = .ok (t, ts) :=
  if_pos h

/-! ## What the grammar derives is read -/

section Complete

variable {c : Clause}

theorem moreOperands_of_quiet {k : Nat} {rest : List Token} (h : Quiet k rest)
    (operand : Reader Expr) (fuel : Nat) (left : Expr) :
    Reader.moreOperands (operator? k) .binary operand fuel left rest = .ok (left, rest) := by
  match fuel, rest with
  | 0, _ => rfl
  | _ + 1, [] => rfl
  | fuel + 1, t :: rest =>
      rw [Reader.moreOperands, (h t rfl).2.2.2 k (Nat.le_refl k)]

theorem parts_of_quiet {rest : List Token} (h : Quiet 0 rest) (inner : Option Inner) (fuel : Nat)
    (e : Expr) : parts c inner fuel e rest = .ok (e, rest) := by
  match fuel, rest with
  | 0, _ => rfl
  | _ + 1, [] => rfl
  | fuel + 1, t :: rest =>
      rw [parts, if_neg (h t rfl).2.1, if_neg (h t rfl).2.2.1]

theorem moreItems_of_closes {q : Token} (hq : closes q.kind = true) {α : Type} (item : Reader α)
    (fuel : Nat) (rest : List Token) :
    Reader.moreItems item fuel (q :: rest) = .ok ([], q :: rest) := by
  have hcomma : q.kind ≠ .comma := by
    rintro hk
    simp [hk, closes] at hq
  cases fuel with
  | zero => rfl
  | succ fuel => rw [Reader.moreItems, if_neg hcomma]

theorem toOption_eq_some {ε α : Type} {x : Except ε α} {a : α} :
    x.toOption = some a ↔ x = .ok a := by
  cases x <;> simp [Except.toOption]

theorem primary_atom {t : Token} {e : Expr} (h : atom? t = some e) {rest : List Token}
    (hr : NoCall rest) (inner : Option Inner) :
    primary c inner (t :: rest) = .ok (e, rest) := by
  unfold atom? at h
  unfold primary
  split at h
  case h_2 hk =>
      obtain ⟨n, hn, rfl⟩ := Option.map_eq_some_iff.mp h
      simp only [hk, toOption_eq_some.mp hn]
      rfl
  case h_5 hk =>
      obtain ⟨m, hm, rfl⟩ := Option.map_eq_some_iff.mp h
      simp only [hk, toOption_eq_some.mp hm]
  case h_7 hk =>
      obtain rfl := Option.some.inj h
      simp only [hk]
      cases rest with
      | nil => rfl
      | cons p rest => exact if_neg (hr p rfl)
  case h_8 => cases h
  all_goals
    obtain rfl := Option.some.inj h
    simp_all

theorem atDuration_iff {ts : List Token} :
    atDuration ts = true ↔ ∃ xs u rest, ts = xs ++ u :: rest ∧ SignedNumeral xs ∧
      u.kind = .identifier ∧ (TimeUnit.ofSpelling? u.text).isSome = true := by
  constructor
  · intro h
    match ts, h with
    | a :: b :: ts, h =>
        simp only [atDuration] at h
        split at h
        case isTrue hm =>
            match ts, h with
            | u :: rest, h =>
                simp only [Bool.and_eq_true, beq_iff_eq] at h
                exact ⟨[a, b], u, rest, rfl, .minus (by simpa using hm) h.1.1, h.1.2, h.2⟩
        case isFalse hm =>
            simp only [Bool.and_eq_true, beq_iff_eq] at h
            exact ⟨[a], b, ts, rfl, .plain h.1.1, h.1.2, h.2⟩
  · rintro ⟨xs, u, rest, rfl, hx, hu, hs⟩
    cases hx with
    | plain hn => simp [atDuration, hn, hu, hs]
    | minus hm hn => simp [atDuration, hm, hn, hu, hs]

theorem amountAndUnit_cons (negative : Bool) {n u : Token} {amount : Number} {unit : TimeUnit}
    (ha : Numeral.read n.text = .ok amount) (hs : TimeUnit.ofSpelling? u.text = some unit)
    (rest : List Token) :
    amountAndUnit negative (n :: u :: rest) =
      .ok (⟨if negative then amount.neg else amount, unit⟩, rest) := by
  rw [amountAndUnit, ha, hs]
  rfl

theorem atDuration_of_amount? {ts : List Token} {d : Duration} (h : amount? ts = some d)
    (rest : List Token) :
    atDuration (ts ++ rest) = true ∧ duration (ts ++ rest) = .ok (d, rest) := by
  have hpair : ∀ {n u : Token} {d : Duration}, amount? [n, u] = some d →
      n.kind = .number ∧ u.kind = .identifier ∧
        Numeral.read n.text = .ok d.amount ∧ TimeUnit.ofSpelling? u.text = some d.unit := by
    intro n u d h
    rw [amount?] at h
    split at h
    case isTrue hk =>
        obtain ⟨amount, ha, h⟩ := Option.bind_eq_some_iff.mp h
        obtain ⟨unit, hu, h⟩ := Option.bind_eq_some_iff.mp h
        obtain rfl := Option.some.inj h
        exact ⟨hk.1, hk.2, toOption_eq_some.mp ha, hu⟩
    case isFalse => cases h
  have hshape := h
  unfold amount? at hshape
  split at hshape
  case h_1 n u =>
      obtain ⟨hn, hu, ha, hs⟩ := hpair h
      refine ⟨atDuration_iff.mpr ⟨[n], u, rest, rfl, .plain hn, hu, by simp [hs]⟩, ?_⟩
      have hnot : n.kind ≠ .minus := by simp [hn]
      exact (if_neg hnot).trans (amountAndUnit_cons false ha hs rest)
  case h_2 m n u =>
      split at hshape
      case isTrue hm =>
          obtain ⟨d', hd, rfl⟩ := Option.map_eq_some_iff.mp hshape
          obtain ⟨hn, hu, ha, hs⟩ := hpair hd
          refine ⟨atDuration_iff.mpr ⟨[m, n], u, rest, rfl, .minus hm hn, hu, by simp [hs]⟩, ?_⟩
          exact (if_pos hm).trans (amountAndUnit_cons true ha hs rest)
      case isFalse => cases hshape
  case h_3 => cases hshape

/-- A unary expression that opens with neither a negation nor a sign is a primary with parts. -/
theorem unary_of_head {t : Token} (hn : t.kind ≠ .not) (hm : t.kind ≠ .minus)
    (inner : Option Inner) (ts : List Token) :
    unary c inner (t :: ts) = access c inner (t :: ts) := by
  rw [unary, if_neg hn, if_neg hm]

/-- The arguments of a call are read if its items are. -/
theorem arguments_of_items {ts rest : List Token} {es : List Expr} {q : Token} (D : Items ts es)
    (hq : q.kind = .parenClose) (name : String) (i : Inner)
    (h : es ≠ [] → Reader.items i.expression (ts ++ q :: rest) = .ok (es, q :: rest)) :
    arguments name i (ts ++ q :: rest) = .ok (es, q :: rest) := by
  have hnumeral : atDuration (ts ++ q :: rest) = false := by
    cases hat : atDuration (ts ++ q :: rest) with
    | false => rfl
    | true =>
        obtain ⟨xs, u, rest', heq, hx, hu, -⟩ := atDuration_iff.mp hat
        exact absurd heq (D.ne_of_numeral hq hx hu)
  unfold arguments
  cases D with
  | empty => simp [hq]
  | filled first more =>
      obtain ⟨t, us, rfl, ho, -⟩ := first.head
      have hne : t.kind ≠ .parenClose := by
        rintro hk
        simp [hk, opens] at ho
      rw [hnumeral, Bool.and_false]
      simp only [List.cons_append, List.head?_cons, Option.any_some, beq_iff_eq, hne, if_false,
        Bool.false_eq_true]
      exact h (by simp)

/-- The items of a list are read if there are any and they are. -/
theorem listItems_of_items {ts rest : List Token} {es : List Expr} {q : Token} (D : Items ts es)
    (hq : q.kind = .bracketClose) (i : Inner)
    (h : es ≠ [] → Reader.items i.expression (ts ++ q :: rest) = .ok (es, q :: rest)) :
    listItems i (ts ++ q :: rest) = .ok (es, q :: rest) := by
  unfold listItems
  cases D with
  | empty => simp [hq]
  | filled first more =>
      obtain ⟨t, us, rfl, ho, -⟩ := first.head
      have hne : t.kind ≠ .bracketClose := by
        rintro hk
        simp [hk, opens] at ho
      simp only [List.cons_append, List.head?_cons, Option.any_some, beq_iff_eq, hne, if_false]
      exact h (by simp)

theorem arguments_of_amount? {ts rest : List Token} {d : Duration} {name : String}
    (hname : Text.lowerCase name = "dur") (hd : amount? ts = some d) (i : Inner) :
    arguments name i (ts ++ rest) = .ok ([.literal (.duration d)], rest) := by
  obtain ⟨hat, hread⟩ := atDuration_of_amount? hd rest
  have hhead : (ts ++ rest).head?.any (·.kind == .parenClose) = false := by
    obtain ⟨xs, u, rfl, hx, -⟩ := signedNumeral_of_amount? hd
    cases hx with
    | plain hn => simp [hn]
    | minus hm _ => simp [hm]
  unfold arguments
  rw [hhead, hname, hat, hread]
  rfl

theorem exists_level {n levels : Nat} (h : n + 1 ≤ levels) : ∃ l, levels = l + 1 ∧ n ≤ l :=
  ⟨levels - 1, by omega, by omega⟩

mutual

/-- An expression is read in front of what does not continue it, if enough levels are left. -/
theorem Derivation.read {k : Nat} {ts : List Token} {e : Expr} (D : Derivation k ts e)
    {levels : Nat} (hd : D.depth ≤ levels) {rest : List Token} (hr : Quiet k rest) :
    rankReader c levels k (ts ++ rest) = .ok (e, rest) := by
  match D with
  | .access primary parts =>
      simp only [Derivation.depth, Nat.max_le] at hd
      rw [List.append_assoc]
      exact bind_eq_ok.mpr ⟨_, primary.read hd.1 (parts.noCall hr),
        parts.read hd.2 (by simp) _ hr⟩
  | .unsigned child =>
      have hread := child.read hd (hr.mono (Nat.zero_le 1))
      obtain ⟨t, us, rfl, -, hs⟩ := child.head
      exact (unary_of_head (hs rfl).1 (hs rfl).2 _ _).trans hread
  | .not t ht child =>
      obtain ⟨l, rfl, hle⟩ := exists_level hd
      have hread := child.read hle hr
      refine (if_pos ht).trans ?_
      exact bind_eq_ok.mpr ⟨_, hread, rfl⟩
  | .minus t ht child =>
      obtain ⟨l, rfl, hle⟩ := exists_level hd
      have hread := child.read hle hr
      refine (if_neg (by simp [ht])).trans ((if_pos ht).trans ?_)
      exact bind_eq_ok.mpr ⟨_, hread, rfl⟩
  | .chain first steps =>
      simp only [Derivation.depth, Nat.max_le] at hd
      rw [List.append_assoc]
      exact bind_eq_ok.mpr ⟨_, first.read hd.1 (steps.quiet hr), steps.read hd.2 (by simp) _ hr⟩
termination_by structural D

theorem Steps.read {k : Nat} {us : List Token} {steps : List (BinOp × Expr)} (D : Steps k us steps)
    {levels : Nat} (hd : D.depth ≤ levels) {fuel : Nat} {rest : List Token}
    (hf : us.length ≤ fuel) (left : Expr) (hr : Quiet (k + 1) rest) :
    Reader.moreOperands (operator? (k + 1)) .binary (rankReader c levels k) fuel left
      (us ++ rest) = .ok (grouped left steps, rest) := by
  match D with
  | .done => exact moreOperands_of_quiet hr _ _ _
  | .step t hop operand more =>
      simp only [Steps.depth, Nat.max_le] at hd
      simp only [List.length_cons, List.length_append] at hf
      obtain ⟨n, rfl⟩ : ∃ n, fuel = n + 1 := Nat.exists_eq_add_one.mpr (by omega)
      rw [List.cons_append, List.append_assoc, Reader.moreOperands, hop]
      exact bind_eq_ok.mpr ⟨_, operand.read hd.1 (more.quiet hr),
        more.read hd.2 (by omega) _ hr⟩
termination_by structural D

theorem Primary.read {ts : List Token} {e : Expr} (D : Primary ts e) {levels : Nat}
    (hd : D.depth ≤ levels) {rest : List Token} (hr : NoCall rest) :
    primary c (inner? c levels) (ts ++ rest) = .ok (e, rest) := by
  match D with
  | .atom t ht => exact primary_atom ht hr _
  | .call name p q hn hp hq items =>
      obtain ⟨l, rfl, hle⟩ := exists_level hd
      have hcloses : closes q.kind = true := by simp [hq, closes]
      simp only [List.cons_append, List.append_assoc, List.nil_append, primary, hn, hp, if_true]
      exact bind_eq_ok.mpr ⟨_, arguments_of_items items hq name.text _ (items.read hle hcloses),
        bind_eq_ok.mpr ⟨_, expect_of_kind hq rest, rfl⟩⟩
  | .duration name p q hn hdur hp hq ha =>
      obtain ⟨l, rfl, -⟩ := exists_level hd
      simp only [List.cons_append, List.append_assoc, List.nil_append, primary, hn, hp, if_true]
      exact bind_eq_ok.mpr ⟨_, arguments_of_amount? hdur ha _,
        bind_eq_ok.mpr ⟨_, expect_of_kind hq rest, rfl⟩⟩
  | .paren p q hp hq inside =>
      obtain ⟨l, rfl, hle⟩ := exists_level hd
      have hends : ends q.kind = true := by simp [hq, ends]
      simp only [List.cons_append, List.append_assoc, List.nil_append, primary, hp]
      exact bind_eq_ok.mpr ⟨_, inside.read hle (quiet_of_ends hends _ _),
        bind_eq_ok.mpr ⟨_, expect_of_kind hq rest, rfl⟩⟩
  | .list p q hp hq items =>
      obtain ⟨l, rfl, hle⟩ := exists_level hd
      have hcloses : closes q.kind = true := by simp [hq, closes]
      simp only [List.cons_append, List.append_assoc, List.nil_append, primary, hp]
      exact bind_eq_ok.mpr ⟨_, listItems_of_items items hq _ (items.read hle hcloses),
        bind_eq_ok.mpr ⟨_, expect_of_kind hq rest, rfl⟩⟩
termination_by structural D

theorem Parts.read {us : List Token} {keys : List Expr} (D : Parts us keys) {levels : Nat}
    (hd : D.depth ≤ levels) {fuel : Nat} {rest : List Token} (hf : us.length ≤ fuel) (e : Expr)
    (hr : Quiet 0 rest) :
    parts c (inner? c levels) fuel e (us ++ rest) = .ok (keys.foldl .index e, rest) := by
  match D with
  | .done => exact parts_of_quiet hr _ _ _
  | .property t name ht hn more =>
      simp only [List.length_cons] at hf
      obtain ⟨n, rfl⟩ : ∃ n, fuel = n + 1 := Nat.exists_eq_add_one.mpr (by omega)
      refine (if_pos ht).trans ?_
      exact bind_eq_ok.mpr ⟨_, expect_of_kind hn _, more.read hd (by omega) _ hr⟩
  | .element p q hp hq key more =>
      simp only [Parts.depth, Nat.max_le] at hd
      simp only [List.length_cons, List.length_append] at hf
      obtain ⟨l, rfl, hkey⟩ := exists_level hd.1
      obtain ⟨n, rfl⟩ : ∃ n, fuel = n + 1 := Nat.exists_eq_add_one.mpr (by omega)
      have hends : ends q.kind = true := by simp [hq, ends]
      rw [List.cons_append, List.append_assoc, List.cons_append]
      refine (if_neg (by simp [hp])).trans ((if_pos hp).trans ?_)
      exact bind_eq_ok.mpr ⟨_, key.read hkey (quiet_of_ends hends _ _),
        bind_eq_ok.mpr ⟨_, expect_of_kind hq _, more.read hd.2 (by omega) _ hr⟩⟩
termination_by structural D

theorem Items.read {ts : List Token} {es : List Expr} (D : Items ts es) {levels : Nat}
    (hd : D.depth ≤ levels) {q : Token} {rest : List Token} (hq : closes q.kind = true)
    (hes : es ≠ []) :
    Reader.items (rankReader c levels loosest) (ts ++ q :: rest) = .ok (es, q :: rest) := by
  match D with
  | .empty => exact absurd rfl hes
  | .filled first more =>
      simp only [Items.depth, Nat.max_le] at hd
      have hquiet := more.quiet (quiet_of_ends (ends_of_closes hq) loosest rest)
      rw [List.append_assoc]
      exact bind_eq_ok.mpr ⟨_, first.read hd.1 hquiet,
        bind_eq_ok.mpr ⟨_, more.read hd.2 (by simp) hq, rfl⟩⟩
termination_by structural D

theorem More.read {us : List Token} {es : List Expr} (D : More us es) {levels : Nat}
    (hd : D.depth ≤ levels) {fuel : Nat} {q : Token} {rest : List Token} (hf : us.length ≤ fuel)
    (hq : closes q.kind = true) :
    Reader.moreItems (rankReader c levels loosest) fuel (us ++ q :: rest) =
      .ok (es, q :: rest) := by
  match D with
  | .done => exact moreItems_of_closes hq _ _ _
  | .item t ht first more =>
      simp only [More.depth, Nat.max_le] at hd
      simp only [List.length_cons, List.length_append] at hf
      obtain ⟨n, rfl⟩ : ∃ n, fuel = n + 1 := Nat.exists_eq_add_one.mpr (by omega)
      have hquiet := more.quiet (quiet_of_ends (ends_of_closes hq) loosest rest)
      rw [List.cons_append, List.append_assoc]
      refine (if_pos ht).trans ?_
      exact bind_eq_ok.mpr ⟨_, first.read hd.1 hquiet,
        bind_eq_ok.mpr ⟨_, more.read hd.2 (by omega) hq, rfl⟩⟩
termination_by structural D

end

end Complete

/-! ## What is read is derived -/

section Sound

/-- Whatever a reader reads has a derivation of rank `k` with at most `levels` open levels. -/
def Reads (levels k : Nat) (r : Reader Expr) : Prop :=
  ∀ ts e rest, r ts = .ok (e, rest) →
    ∃ us, ∃ D : Derivation k us e, ts = us ++ rest ∧ D.depth ≤ levels

/-- The readers one level further in read expressions and unary expressions. -/
def InnerReads (levels : Nat) (inner : Option Inner) : Prop :=
  ∀ i, inner = some i → ∃ l, levels = l + 1 ∧ Reads l loosest i.expression ∧ Reads l 1 i.unary

variable {c : Clause} {levels l : Nat} {inner : Option Inner} {i : Inner} {rest : List Token}

theorem enter_eq_ok {α : Type} {body : Inner → Reader α} {ts : List Token} {r : α × List Token} :
    enter c inner body ts = .ok r ↔ ∃ i, inner = some i ∧ body i ts = .ok r := by
  cases inner with
  | none => simp [enter]
  | some i => simp [enter]

theorem expect_eq_ok {kind : Token.Kind} {complaint : Complaint} {ts : List Token} {t : Token} :
    Reader.expect c kind complaint ts = .ok (t, rest) ↔ ts = t :: rest ∧ t.kind = kind := by
  cases ts with
  | nil => simp [Reader.expect]
  | cons t' ts =>
      rw [Reader.expect]
      split
      case isTrue hk =>
          simp only [Except.ok.injEq, Prod.mk.injEq, List.cons.injEq]
          constructor
          · rintro ⟨rfl, rfl⟩
            exact ⟨⟨rfl, rfl⟩, hk⟩
          · exact And.left
      case isFalse hk =>
          constructor
          · intro h
            cases h
          · rintro ⟨heq, ht⟩
            obtain ⟨rfl, -⟩ := List.cons_eq_cons.mp heq
            exact absurd ht hk

theorem moreItems_sound {item : Reader Expr} (hitem : Reads l loosest item) {fuel : Nat}
    {ts : List Token} {es : List Expr} (h : Reader.moreItems item fuel ts = .ok (es, rest)) :
    ∃ us, ∃ D : More us es, ts = us ++ rest ∧ D.depth ≤ l := by
  induction fuel generalizing ts es with
  | zero =>
      cases h
      exact ⟨[], .done, rfl, Nat.zero_le l⟩
  | succ fuel ih =>
      cases ts with
      | nil =>
          cases h
          exact ⟨[], .done, rfl, Nat.zero_le l⟩
      | cons t ts =>
          rw [Reader.moreItems] at h
          split at h
          case isTrue hcomma =>
              obtain ⟨⟨e, ts₁⟩, he, h⟩ := bind_eq_ok.mp h
              obtain ⟨⟨es₁, ts₂⟩, hes, h⟩ := bind_eq_ok.mp h
              cases h
              obtain ⟨us, D, rfl, hd⟩ := hitem _ _ _ he
              obtain ⟨vs, more, rfl, hm⟩ := ih hes
              exact ⟨_, .item t hcomma D more, by simp, Nat.max_le.mpr ⟨hd, hm⟩⟩
          case isFalse =>
              cases h
              exact ⟨[], .done, rfl, Nat.zero_le l⟩

theorem items_sound {item : Reader Expr} (hitem : Reads l loosest item) {ts : List Token}
    {es : List Expr} (h : Reader.items item ts = .ok (es, rest)) :
    ∃ us, ∃ D : Items us es, ts = us ++ rest ∧ D.depth ≤ l := by
  obtain ⟨⟨e, ts₁⟩, he, h⟩ := bind_eq_ok.mp h
  obtain ⟨⟨es₁, ts₂⟩, hes, h⟩ := bind_eq_ok.mp h
  cases h
  obtain ⟨us, D, rfl, hd⟩ := hitem _ _ _ he
  obtain ⟨vs, more, rfl, hm⟩ := moreItems_sound hitem hes
  exact ⟨_, .filled D more, by simp, Nat.max_le.mpr ⟨hd, hm⟩⟩

theorem amountAndUnit_sound {n u : Token} {ts : List Token} {negative : Bool} {d : Duration}
    (hn : n.kind = .number) (hu : u.kind = .identifier)
    (hs : (TimeUnit.ofSpelling? u.text).isSome = true)
    (h : amountAndUnit negative (n :: u :: ts) = .ok (d, rest)) :
    rest = ts ∧ ∃ d', amount? [n, u] = some d' ∧ d = if negative then d'.neg else d' := by
  obtain ⟨unit, hunit⟩ := Option.isSome_iff_exists.mp hs
  obtain ⟨amount, ha, h⟩ := bind_eq_ok.mp h
  rw [hunit] at h
  cases h
  refine ⟨rfl, ⟨amount, unit⟩, ?_, ?_⟩
  · simp [amount?, hn, hu, mapError_eq_ok.mp ha, hunit, Except.toOption]
  · cases negative <;> rfl

theorem duration_sound {ts : List Token} {d : Duration} (hat : atDuration ts = true)
    (h : duration ts = .ok (d, rest)) : ∃ us, amount? us = some d ∧ ts = us ++ rest := by
  obtain ⟨xs, u, ts', rfl, hx, hu, hs⟩ := atDuration_iff.mp hat
  cases hx with
  | @plain n hn =>
      have hm : n.kind ≠ .minus := by simp [hn]
      rw [List.cons_append, duration, if_neg hm] at h
      obtain ⟨rfl, d', hd, rfl⟩ := amountAndUnit_sound hn hu hs h
      exact ⟨[n, u], hd, rfl⟩
  | @minus m n hm hn =>
      rw [List.cons_append, duration, if_pos hm] at h
      obtain ⟨rfl, d', hd, rfl⟩ := amountAndUnit_sound hn hu hs h
      refine ⟨[m, n, u], ?_, rfl⟩
      rw [amount?, if_pos hm, hd]
      rfl

/-- The arguments of a call are items, or the amount of a duration. -/
theorem arguments_sound (hi : Reads l loosest i.expression) {name : String} {ts : List Token}
    {args : List Expr} (h : arguments name i ts = .ok (args, rest)) :
    (∃ us, ∃ D : Items us args, ts = us ++ rest ∧ D.depth ≤ l) ∨
      Text.lowerCase name = "dur" ∧ ∃ us d, amount? us = some d ∧ ts = us ++ rest ∧
        args = [.literal (.duration d)] := by
  unfold arguments at h
  split at h
  case isTrue =>
      cases h
      exact .inl ⟨[], .empty, rfl, Nat.zero_le l⟩
  case isFalse =>
      split at h
      case isTrue hdur =>
          simp only [Bool.and_eq_true, beq_iff_eq] at hdur
          obtain ⟨⟨d, ts₁⟩, hd, h⟩ := bind_eq_ok.mp h
          cases h
          obtain ⟨us, ha, heq⟩ := duration_sound hdur.2 hd
          exact .inr ⟨hdur.1, us, d, ha, heq, rfl⟩
      case isFalse => exact .inl (items_sound hi h)

theorem callTail_sound (hinner : InnerReads levels inner) {name p : Token}
    (hn : name.kind = .identifier) (hp : p.kind = .parenOpen) {ts : List Token} {e : Expr}
    (h : callTail c inner name.text ts = .ok (e, rest)) :
    ∃ us, ∃ D : Primary us e, name :: p :: ts = us ++ rest ∧ D.depth ≤ levels := by
  obtain ⟨⟨args, ts₁⟩, hargs, h⟩ := bind_eq_ok.mp h
  obtain ⟨⟨q, ts₂⟩, hq, h⟩ := bind_eq_ok.mp h
  cases h
  obtain ⟨i, hi, hargs⟩ := enter_eq_ok.mp hargs
  obtain ⟨l, rfl, hexpr, -⟩ := hinner i hi
  obtain ⟨rfl, hclose⟩ := expect_eq_ok.mp hq
  rcases arguments_sound hexpr hargs with ⟨us, D, rfl, hd⟩ | ⟨hdur, us, d, ha, rfl, rfl⟩
  · exact ⟨_, .call name p q hn hp hclose D, by simp, Nat.succ_le_succ hd⟩
  · exact ⟨_, .duration name p q hn hdur hp hclose ha, by simp, Nat.succ_le_succ (Nat.zero_le l)⟩

theorem listItems_sound (hi : Reads l loosest i.expression) {ts : List Token} {es : List Expr}
    (h : listItems i ts = .ok (es, rest)) :
    ∃ us, ∃ D : Items us es, ts = us ++ rest ∧ D.depth ≤ l := by
  unfold listItems at h
  split at h
  case isTrue =>
      cases h
      exact ⟨[], .empty, rfl, Nat.zero_le l⟩
  case isFalse => exact items_sound hi h

/-- An expression that stands alone in brackets. -/
theorem bracketed_sound (hinner : InnerReads levels inner) {kind : Token.Kind}
    {complaint : Complaint} {ts ts₁ : List Token} {e : Expr} {q : Token}
    (h : enter c inner (·.expression) ts = .ok (e, ts₁))
    (hq : Reader.expect c kind complaint ts₁ = .ok (q, rest)) :
    ∃ us, ∃ D : Derivation loosest us e, ts = us ++ q :: rest ∧ q.kind = kind ∧
      D.depth + 1 ≤ levels := by
  obtain ⟨i, hi, h⟩ := enter_eq_ok.mp h
  obtain ⟨l, rfl, hexpr, -⟩ := hinner i hi
  obtain ⟨rfl, hclose⟩ := expect_eq_ok.mp hq
  obtain ⟨us, D, rfl, hd⟩ := hexpr _ _ _ h
  exact ⟨us, D, rfl, hclose, Nat.succ_le_succ hd⟩

theorem atom_sound {t : Token} {e : Expr} (h : atom? t = some e) (ts : List Token) :
    ∃ us, ∃ D : Primary us e, t :: ts = us ++ ts ∧ D.depth ≤ levels :=
  ⟨[t], .atom t h, rfl, Nat.zero_le levels⟩

theorem primary_sound (hinner : InnerReads levels inner) {ts : List Token} {e : Expr}
    (h : primary c inner ts = .ok (e, rest)) :
    ∃ us, ∃ D : Primary us e, ts = us ++ rest ∧ D.depth ≤ levels := by
  match ts, h with
  | t :: ts, h =>
      dsimp only [primary] at h
      split at h
      -- a string, a Boolean, null and a link stand for themselves
      case h_1 hk | h_3 hk | h_4 hk | h_6 hk =>
          cases h
          exact atom_sound (by simp [atom?, hk]) rest
      case h_2 hk =>
          obtain ⟨n, hn, htail⟩ := bind_eq_ok.mp h
          cases htail
          exact atom_sound (by simp [atom?, hk, mapError_eq_ok.mp hn, Except.toOption]) rest
      case h_5 hk =>
          split at h
          case h_1 m hm =>
              cases h
              exact atom_sound (by simp [atom?, hk, hm, Except.toOption]) rest
          case h_2 => cases h
      case h_7 hk =>
          have hvar : atom? t = some (.var t.text) := by simp [atom?, hk]
          cases ts with
          | nil =>
              cases h
              exact atom_sound hvar []
          | cons p ts =>
              dsimp only at h
              split at h
              case isTrue hp => exact callTail_sound hinner hk hp h
              case isFalse =>
                  cases h
                  exact atom_sound hvar (p :: ts)
      case h_8 hk =>
          obtain ⟨⟨e₁, ts₁⟩, he, htail⟩ := bind_eq_ok.mp h
          obtain ⟨⟨q, ts₂⟩, hq, hdone⟩ := bind_eq_ok.mp htail
          cases hdone
          obtain ⟨us, D, rfl, hclose, hd⟩ := bracketed_sound hinner he hq
          exact ⟨_, .paren t q hk hclose D, by simp, hd⟩
      case h_9 hk =>
          obtain ⟨⟨es, ts₁⟩, hes, htail⟩ := bind_eq_ok.mp h
          obtain ⟨⟨q, ts₂⟩, hq, hdone⟩ := bind_eq_ok.mp htail
          cases hdone
          obtain ⟨i, hi, hitems⟩ := enter_eq_ok.mp hes
          obtain ⟨l, rfl, hexpr, -⟩ := hinner i hi
          obtain ⟨rfl, hclose⟩ := expect_eq_ok.mp hq
          obtain ⟨us, D, rfl, hd⟩ := listItems_sound hexpr hitems
          exact ⟨_, .list t q hk hclose D, by simp, Nat.succ_le_succ hd⟩
      case h_10 => cases h

theorem parts_sound (hinner : InnerReads levels inner) {fuel : Nat} {ts : List Token} {e e' : Expr}
    (h : parts c inner fuel e ts = .ok (e', rest)) :
    ∃ us keys, ∃ D : Parts us keys, ts = us ++ rest ∧ e' = keys.foldl .index e ∧
      D.depth ≤ levels := by
  induction fuel generalizing ts e with
  | zero =>
      cases h
      exact ⟨[], [], .done, rfl, rfl, Nat.zero_le levels⟩
  | succ fuel ih =>
      cases ts with
      | nil =>
          cases h
          exact ⟨[], [], .done, rfl, rfl, Nat.zero_le levels⟩
      | cons t ts =>
          rw [parts] at h
          split at h
          case isTrue hdot =>
              obtain ⟨⟨name, ts₁⟩, hname, htail⟩ := bind_eq_ok.mp h
              obtain ⟨rfl, hn⟩ := expect_eq_ok.mp hname
              obtain ⟨us, keys, D, rfl, rfl, hd⟩ := ih htail
              exact ⟨_, _, .property t name hdot hn D, rfl, rfl, hd⟩
          case isFalse =>
              split at h
              case isTrue hopen =>
                  obtain ⟨⟨key, ts₁⟩, hkey, htail⟩ := bind_eq_ok.mp h
                  obtain ⟨⟨q, ts₂⟩, hq, hrest⟩ := bind_eq_ok.mp htail
                  obtain ⟨us, D, rfl, hclose, hd⟩ := bracketed_sound hinner hkey hq
                  obtain ⟨vs, keys, more, rfl, rfl, hm⟩ := ih hrest
                  exact ⟨_, _, .element t q hopen hclose D more, by simp, rfl,
                    Nat.max_le.mpr ⟨hd, hm⟩⟩
              case isFalse =>
                  cases h
                  exact ⟨[], [], .done, rfl, rfl, Nat.zero_le levels⟩

theorem access_sound (hinner : InnerReads levels inner) : Reads levels 0 (access c inner) := by
  intro ts e rest h
  obtain ⟨⟨e₁, ts₁⟩, he, htail⟩ := bind_eq_ok.mp h
  obtain ⟨us, D, rfl, hd⟩ := primary_sound hinner he
  obtain ⟨vs, keys, more, rfl, rfl, hm⟩ := parts_sound hinner htail
  exact ⟨_, .access D more, by simp, Nat.max_le.mpr ⟨hd, hm⟩⟩

theorem unary_sound (hinner : InnerReads levels inner) : Reads levels 1 (unary c inner) := by
  intro ts e rest h
  have haccess : ∀ {ts}, access c inner ts = .ok (e, rest) →
      ∃ us, ∃ D : Derivation 1 us e, ts = us ++ rest ∧ D.depth ≤ levels := by
    intro ts h
    obtain ⟨us, D, heq, hd⟩ := access_sound hinner _ _ _ h
    exact ⟨us, .unsigned D, heq, hd⟩
  cases ts with
  | nil => exact haccess h
  | cons t ts =>
      rw [unary] at h
      split at h
      case isTrue hk =>
          obtain ⟨⟨e₁, ts₁⟩, he, h⟩ := bind_eq_ok.mp h
          cases h
          obtain ⟨i, hi, he⟩ := enter_eq_ok.mp he
          obtain ⟨l, rfl, -, hunary⟩ := hinner i hi
          obtain ⟨us, D, rfl, hd⟩ := hunary _ _ _ he
          exact ⟨_, .not t hk D, rfl, Nat.succ_le_succ hd⟩
      case isFalse =>
          split at h
          case isTrue hk =>
              obtain ⟨⟨e₁, ts₁⟩, he, h⟩ := bind_eq_ok.mp h
              cases h
              obtain ⟨i, hi, he⟩ := enter_eq_ok.mp he
              obtain ⟨l, rfl, -, hunary⟩ := hinner i hi
              obtain ⟨us, D, rfl, hd⟩ := hunary _ _ _ he
              exact ⟨_, .minus t hk D, rfl, Nat.succ_le_succ hd⟩
          case isFalse => exact haccess h

theorem moreOperands_sound {k : Nat} {operand : Reader Expr} (hoperand : Reads levels k operand)
    {fuel : Nat} {ts : List Token} {left e : Expr}
    (h : Reader.moreOperands (operator? (k + 1)) .binary operand fuel left ts = .ok (e, rest)) :
    ∃ us steps, ∃ D : Steps k us steps, ts = us ++ rest ∧ e = grouped left steps ∧
      D.depth ≤ levels := by
  induction fuel generalizing ts left with
  | zero =>
      cases h
      exact ⟨[], [], .done, rfl, rfl, Nat.zero_le levels⟩
  | succ fuel ih =>
      cases ts with
      | nil =>
          cases h
          exact ⟨[], [], .done, rfl, rfl, Nat.zero_le levels⟩
      | cons t ts =>
          rw [Reader.moreOperands] at h
          split at h
          case h_1 =>
              cases h
              exact ⟨[], [], .done, rfl, rfl, Nat.zero_le levels⟩
          case h_2 op hop =>
              obtain ⟨⟨right, ts₁⟩, hright, htail⟩ := bind_eq_ok.mp h
              obtain ⟨us, D, rfl, hd⟩ := hoperand _ _ _ hright
              obtain ⟨vs, steps, more, rfl, rfl, hm⟩ := ih htail
              exact ⟨_, _, .step t hop D more, by simp, rfl, Nat.max_le.mpr ⟨hd, hm⟩⟩

theorem chain_sound {k : Nat} {operand : Reader Expr} (hoperand : Reads levels (k + 1) operand) :
    Reads levels (k + 2) (Reader.chain (operator? (k + 2)) .binary operand) := by
  intro ts e rest h
  obtain ⟨⟨left, ts₁⟩, hleft, htail⟩ := bind_eq_ok.mp h
  obtain ⟨us, D, rfl, hd⟩ := hoperand _ _ _ hleft
  obtain ⟨vs, steps, more, rfl, rfl, hm⟩ := moreOperands_sound hoperand htail
  exact ⟨_, .chain D more, by simp, Nat.max_le.mpr ⟨hd, hm⟩⟩

theorem rankReader_reads (hinner : InnerReads levels (inner? c levels)) :
    ∀ k, Reads levels k (rankReader c levels k)
  | 0 => access_sound hinner
  | 1 => unary_sound hinner
  | k + 2 => chain_sound (rankReader_reads hinner (k + 1))

/-- Whatever is read at a rank has a derivation of that rank with no more open levels than were
left. -/
theorem rankReader_sound (c : Clause) (levels k : Nat) :
    Reads levels k (rankReader c levels k) := by
  -- what the readers one level further in read is known by the induction on the levels left
  induction levels generalizing k with
  | zero =>
      refine rankReader_reads (fun i hi => ?_) k
      cases hi
  | succ levels ih =>
      refine rankReader_reads (fun i hi => ⟨levels, rfl, ?_⟩) k
      rw [inner?_succ] at hi
      obtain rfl := Option.some.inj hi
      exact ⟨ih loosest, ih 1⟩

end Sound

/-! ## Whole clauses -/

theorem readAll_eq_ok {α : Type} {c : Clause} {name : String} {reader : Reader α} {x : α} :
    Segment.readAll c name reader = .ok x ↔ reader c.tokens = .ok (x, []) := by
  constructor
  · intro h
    obtain ⟨⟨x', ts⟩, hread, htail⟩ := bind_eq_ok.mp h
    obtain ⟨_, hfinish, hdone⟩ := bind_eq_ok.mp htail
    cases hdone
    cases ts with
    | nil => exact hread
    | cons t ts => cases hfinish
  · intro h
    exact bind_eq_ok.mpr ⟨_, h, rfl⟩

/-- A clause is an expression exactly if the grammar derives its tokens within its levels. -/
theorem readAll_expression_eq_ok {c : Clause} {name : String} {e : Expr} :
    Segment.readAll c name (expression c) = .ok e ↔
      ∃ D : Derivation loosest c.tokens e, D.depth ≤ c.budget := by
  rw [readAll_eq_ok, expression, ← rankReader_loosest]
  constructor
  · intro h
    obtain ⟨us, D, heq, hd⟩ := rankReader_sound c c.budget loosest _ _ _ h
    obtain rfl : us = c.tokens := by rw [heq, List.append_nil]
    exact ⟨D, hd⟩
  · rintro ⟨D, hd⟩
    have h : rankReader c c.budget loosest (c.tokens ++ []) = .ok (e, []) :=
      D.read hd (quiet_nil loosest)
    rwa [List.append_nil] at h

theorem tokens_ofTokens {body : List Token} {stop : Token}
    (hbody : ∀ t ∈ body, t.kind ≠ .endOfText) (hstop : stop.kind = .endOfText) (text : String)
    (limit : Int) : (Clause.ofTokens text limit (body ++ [stop])).tokens = body := by
  have hbody' : ∀ t ∈ body, (t.kind != .endOfText) = true := by simpa using hbody
  show (body ++ [stop]).takeWhile _ = body
  rw [List.takeWhile_append_of_pos hbody', List.takeWhile_cons_of_neg (by simp [hstop]),
    List.append_nil]

/-- A text is an expression exactly if the grammar derives it from the tokens of the text within the
levels that the limit allows. -/
theorem read_eq_ok_iff {text : String} {body : List Token} {stop : Token}
    (htokens : Token.tokenize text = .ok (body ++ [stop]))
    (hbody : ∀ t ∈ body, t.kind ≠ .endOfText) (hstop : stop.kind = .endOfText) {limit : Int}
    {e : Expr} :
    Expr.read text limit = .ok e ↔
      ∃ D : Derivation loosest body e, D.depth ≤ min limit.toNat Clause.followedDepth := by
  rw [Expr.read, htokens]
  show Segment.readAll (Clause.ofTokens text limit (body ++ [stop])) "expression" _ = .ok e ↔ _
  rw [readAll_expression_eq_ok, tokens_ofTokens hbody hstop]
  rfl

/-- A name in `n` pairs of parentheses. -/
def wrapped : (n : Nat) → List Token
  | 0 => [⟨.identifier, "a", 1, 1, 0, 1⟩]
  | n + 1 => ⟨.parenOpen, "(", 1, 1, 0, 1⟩ :: (wrapped n ++ [⟨.parenClose, ")", 1, 1, 0, 1⟩])

theorem Primary.derivation {ts : List Token} {e : Expr} (D : Primary ts e) :
    ∃ D' : Derivation loosest ts e, D'.depth = D.depth := by
  have h : ∃ D' : Derivation loosest (ts ++ [] ++ [] ++ [] ++ [] ++ []) e, D'.depth = D.depth :=
    ⟨.chain (.chain (.chain (.chain (.unsigned (.access D .done)) .done) .done) .done) .done,
      by simp [Derivation.depth, Steps.depth, Parts.depth]⟩
  rwa [List.append_nil, List.append_nil, List.append_nil, List.append_nil, List.append_nil] at h

end VaultQuery.Expr
