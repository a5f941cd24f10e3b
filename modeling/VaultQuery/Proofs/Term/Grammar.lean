import VaultQuery.Proofs.Term

/-!
The grammar of the expression language of a base, and a reader for it.  Binary operators have five
ranks, from products (rank 2, the tightest) to disjunctions (rank 6, the loosest), and every rank
groups to the left; negation stands between them and the primaries with their parts.  `Spelled` is
the grammar, `parse?` the reader, and `parse?_eq_some_iff` says that the reader gives exactly what
the grammar derives, so every text has at most one term.
-/

namespace VaultQuery.Term

/-! ## The grammar -/

/-- The ranks of the operators: `||` is looser than `&&`, then comparisons, sums and products. -/
def ranks : List (String × Nat) :=
  [("*", 2), ("/", 2), ("%", 2), ("+", 3), ("-", 3), ("==", 4), ("!=", 4), ("<", 4), (">", 4),
   ("<=", 4), (">=", 4), ("&&", 5), ("||", 6)]

/-- The rank of an operator. -/
def rank? (symbol : String) : Option Nat :=
  ranks.lookup symbol

/-- The rank of a term as a whole. -/
def loosest : Nat := 6

/-- The term that a word by itself stands for. -/
def ofWord (w : String) : Term :=
  if w = "true" then .bool true
  else if w = "false" then .bool false
  else if w = "null" then .null
  else .name w

mutual

/-- `Spelled k ss t`: the signs `ss` spell the term `t` at rank `k`.  Rank 0 are primaries with
their parts, rank 1 negations, and ranks 2 to 6 operations. -/
inductive Spelled : Nat → List Sign → Term → Prop
  | word (w : String) : Spelled 0 [.word w] (ofWord w)
  | numeral (n : Nat) : Spelled 0 [.numeral n] (.number n)
  | text (s : String) : Spelled 0 [.text s] (.text s)
  | paren {ss : List Sign} {t : Term} : Spelled loosest ss t →
      Spelled 0 (.parenOpen :: (ss ++ [.parenClose])) t
  | list {ss : List Sign} {ts : List Term} : Items ss ts →
      Spelled 0 (.bracketOpen :: (ss ++ [.bracketClose])) (.list ts)
  | call (w : String) {ss : List Sign} {ts : List Term} : Items ss ts →
      Spelled 0 (.word w :: .parenOpen :: (ss ++ [.parenClose])) (.call w ts)
  | member {ss : List Sign} {t : Term} (w : String) : Spelled 0 ss t →
      Spelled 0 (ss ++ [.dot, .word w]) (.member t w)
  | item {ss us : List Sign} {t u : Term} : Spelled 0 ss t → Spelled loosest us u →
      Spelled 0 (ss ++ .bracketOpen :: (us ++ [.bracketClose])) (.item t u)
  | not {ss : List Sign} {t : Term} : Spelled 1 ss t → Spelled 1 (.bang :: ss) (.not t)
  | binary {k : Nat} {symbol : String} {ss us : List Sign} {t u : Term} :
      rank? symbol = some (k + 1) → Spelled (k + 1) ss t → Spelled k us u →
      Spelled (k + 1) (ss ++ .operator symbol :: us) (.binary symbol t u)
  | looser {k : Nat} {ss : List Sign} {t : Term} : Spelled k ss t → Spelled (k + 1) ss t

/-- Terms with commas between them. -/
inductive Items : List Sign → List Term → Prop
  | none : Items [] []
  | one {ss : List Sign} {t : Term} : Spelled loosest ss t → Items ss [t]
  | more {ss us : List Sign} {t u : Term} {ts : List Term} : Spelled loosest ss t →
      Items us (u :: ts) → Items (ss ++ .comma :: us) (t :: u :: ts)

end

theorem Spelled.mono {j k : Nat} (h : j ≤ k) {ss : List Sign} {t : Term} (hs : Spelled j ss t) :
    Spelled k ss t := by
  induction h with
  | refl => exact hs
  | step _ ih => exact .looser ih

/-! ## The reader -/

/-- A reader of signs. -/
abbrev Parser : Type :=
  List Sign → Option (Term × List Sign)

/-- One or more terms with commas between them. -/
def someItems (inner : Parser) : (fuel : Nat) → List Sign → Option (List Term × List Sign)
  | 0, _ => none
  | fuel + 1, ss =>
    match inner ss with
    | some (t, .comma :: rest) =>
      (someItems inner fuel rest).map fun r => (t :: r.1, r.2)
    | some (t, rest) => some ([t], rest)
    | none => none

/-- Terms with commas between them, up to a closing sign. -/
def items (inner : Parser) (close : Sign) : List Sign → Option (List Term × List Sign)
  | [] => none
  | s :: ss =>
    if s = close then some ([], ss)
    else match someItems inner (ss.length + 1) (s :: ss) with
      | some (ts, r :: rest) => if r = close then some (ts, rest) else none
      | _ => none

/-- A term in brackets that are open already. -/
def closed (inner : Parser) (close : Sign) : Parser := fun ss =>
  match inner ss with
  | some (t, r :: rest) => if r = close then some (t, rest) else none
  | _ => none

/-- Words, numerals, texts, calls, terms in parentheses and lists. -/
def primary (inner : Parser) : Parser
  | .word w :: .parenOpen :: ss =>
    (items inner .parenClose ss).map fun r => (.call w r.1, r.2)
  | .word w :: ss => some (ofWord w, ss)
  | .numeral n :: ss => some (.number n, ss)
  | .text s :: ss => some (.text s, ss)
  | .parenOpen :: ss => closed inner .parenClose ss
  | .bracketOpen :: ss => (items inner .bracketClose ss).map fun r => (.list r.1, r.2)
  | _ => none

/-- The parts that follow a term. -/
def parts (inner : Parser) : (fuel : Nat) → Term → Parser
  | fuel + 1, t, .dot :: .word w :: ss => parts inner fuel (.member t w) ss
  | fuel + 1, t, .bracketOpen :: ss =>
    match closed inner .bracketClose ss with
    | some (u, rest) => parts inner fuel (.item t u) rest
    | none => none
  | _, t, ss => some (t, ss)

/-- A primary with the parts that follow it. -/
def access (inner : Parser) : Parser := fun ss =>
  match primary inner ss with
  | some (t, rest) => parts inner rest.length t rest
  | none => none

/-- Negations before a term. -/
def negations (inner : Parser) : Parser
  | .bang :: ss => (negations inner ss).map fun r => (.not r.1, r.2)
  | ss => access inner ss

/-- The operands after the first one of a chain of operators of one rank. -/
def moreOperands (rank : Nat) (operand : Parser) : (fuel : Nat) → Term → Parser
  | fuel + 1, t, .operator symbol :: ss =>
    if rank? symbol = some rank then
      match operand ss with
      | some (u, rest) => moreOperands rank operand fuel (.binary symbol t u) rest
      | none => none
    else some (t, .operator symbol :: ss)
  | _, t, ss => some (t, ss)

/-- A term of a rank. -/
def level (inner : Parser) : (rank : Nat) → Parser
  | 0 => access inner
  | 1 => negations inner
  | k + 2 => fun ss =>
    match level inner (k + 1) ss with
    | some (t, rest) => moreOperands (k + 2) (level inner (k + 1)) rest.length t rest
    | none => none

/-- A term in at most `depth` brackets. -/
def expression : (depth : Nat) → Parser
  | 0 => fun _ => none
  | depth + 1 => level (expression depth) loosest

/-- The term that signs spell. -/
def parse? (ss : List Sign) : Option Term :=
  match expression (ss.length + 1) ss with
  | some (t, []) => some t
  | _ => none

/-- The term that a text is read as. -/
def read? (s : String) : Option Term :=
  (Sign.all? s.toList).bind parse?

/-! ## What the grammar derives is read -/

theorem two_le_of_rank? {symbol : String} {k : Nat} (h : rank? symbol = some k) : 2 ≤ k := by
  have hall : ∀ p ∈ ranks, 2 ≤ p.2 := by decide
  obtain ⟨l₁, l₂, hl, -⟩ := List.lookup_eq_some_iff.mp h
  exact hall (symbol, k) (by rw [hl]; simp)

/-- Whether a sign can open a term. -/
def opens : Sign → Bool
  | .word _ | .numeral _ | .text _ | .bang | .parenOpen | .bracketOpen => true
  | _ => false

theorem Spelled.head {k : Nat} {ss : List Sign} {t : Term} (h : Spelled k ss t) :
    ∃ s us, ss = s :: us ∧ opens s = true ∧ (k = 0 → s ≠ .bang) := by
  match h with
  | .word w => exact ⟨_, _, rfl, rfl, fun _ => by simp⟩
  | .numeral n => exact ⟨_, _, rfl, rfl, fun _ => by simp⟩
  | .text s => exact ⟨_, _, rfl, rfl, fun _ => by simp⟩
  | .paren _ => exact ⟨_, _, rfl, rfl, fun _ => by simp⟩
  | .list _ => exact ⟨_, _, rfl, rfl, fun _ => by simp⟩
  | .call _ _ => exact ⟨_, _, rfl, rfl, fun _ => by simp⟩
  | .member _ h =>
      obtain ⟨s, us, rfl, hs, hb⟩ := h.head
      exact ⟨s, us ++ _, rfl, hs, hb⟩
  | .item h _ =>
      obtain ⟨s, us, rfl, hs, hb⟩ := h.head
      exact ⟨s, us ++ _, rfl, hs, hb⟩
  | .not _ => exact ⟨_, _, rfl, rfl, fun h => absurd h (by simp)⟩
  | .binary _ h _ =>
      obtain ⟨s, us, rfl, hs, -⟩ := h.head
      exact ⟨s, us ++ _, rfl, hs, fun h => absurd h (by simp)⟩
  | .looser h =>
      obtain ⟨s, us, rfl, hs, -⟩ := h.head
      exact ⟨s, us, rfl, hs, fun h => absurd h (by simp)⟩

/-- Signs that continue no term of a rank below `k`. -/
def Quiet (k : Nat) (ss : List Sign) : Prop :=
  ∀ s ∈ ss.head?, s ≠ .parenOpen ∧ (1 ≤ k → s ≠ .dot ∧ s ≠ .bracketOpen) ∧
    ∀ symbol j, s = .operator symbol → rank? symbol = some j → k ≤ j

theorem Quiet.mono {j k : Nat} {ss : List Sign} (h : Quiet k ss) (hle : j ≤ k) : Quiet j ss :=
  fun s hs => ⟨(h s hs).1, fun hj => (h s hs).2.1 (Nat.le_trans hj hle),
    fun symbol i he hi => Nat.le_trans hle ((h s hs).2.2 symbol i he hi)⟩

theorem quiet_nil (k : Nat) : Quiet k [] :=
  fun _ h => absurd h (by simp)

/-- A sign that ends a term of any rank. -/
def closes : Sign → Bool
  | .parenClose | .bracketClose | .comma => true
  | _ => false

theorem quiet_of_closes {s : Sign} (h : closes s = true) (k : Nat) (ss : List Sign) :
    Quiet k (s :: ss) := by
  intro s' hs
  obtain rfl : s = s' := by simpa using hs
  cases s <;> simp_all [closes]

theorem quiet_of_part {s : Sign} (h : s = .dot ∨ s = .bracketOpen) (ss : List Sign) :
    Quiet 0 (s :: ss) := by
  intro s' hs
  obtain rfl : s = s' := Option.some.inj hs
  rcases h with rfl | rfl <;> simp

/-- What a reader of rank `k` does after it has read `t`. -/
def resume (inner : Parser) : (rank fuel : Nat) → Term → Parser
  | 0, fuel => parts inner fuel
  | 1, _ => fun t ss => some (t, ss)
  | k + 2, fuel => moreOperands (k + 2) (level inner (k + 1)) fuel

theorem resume_of_quiet {k : Nat} {ss : List Sign} (h : Quiet (k + 1) ss) (inner : Parser)
    (fuel : Nat) (t : Term) : resume inner k fuel t ss = some (t, ss) := by
  match k, fuel, ss with
  | 0, 0, ss => rfl
  | 0, fuel + 1, [] => rfl
  | 0, fuel + 1, s :: ss =>
      have hs := (h s rfl).2.1 (Nat.le_refl 1)
      cases s <;> first | rfl | exact absurd rfl hs.1 | exact absurd rfl hs.2
  | 1, _, _ => rfl
  | k + 2, 0, ss => rfl
  | k + 2, fuel + 1, [] => rfl
  | k + 2, fuel + 1, s :: ss =>
      cases s with
      | operator symbol =>
          rw [resume, moreOperands, if_neg]
          intro hk
          exact absurd ((h _ rfl).2.2 symbol _ rfl hk) (by omega)
      | _ => rfl

theorem primary_word {w : String} {rest : List Sign} (hr : Quiet 0 rest) (inner : Parser) :
    primary inner (.word w :: rest) = some (ofWord w, rest) := by
  cases rest with
  | nil => rfl
  | cons s rest =>
      have hs := (hr s rfl).1
      cases s <;> first | rfl | exact absurd rfl hs

theorem access_of_primary {inner : Parser} {ss rest : List Sign} {t : Term}
    (h : primary inner ss = some (t, rest)) :
    ∃ m, rest.length ≤ m ∧ level inner 0 ss = resume inner 0 m t rest :=
  ⟨rest.length, Nat.le_refl _, by rw [level, access, h]; rfl⟩

theorem negations_of_head {s : Sign} (hs : s ≠ .bang) (inner : Parser) (ss : List Sign) :
    negations inner (s :: ss) = access inner (s :: ss) := by
  cases s <;> first | rfl | exact absurd rfl hs

theorem closed_of_inner {inner : Parser} {close : Sign} {ss rest : List Sign} {t : Term}
    (h : inner ss = some (t, close :: rest)) : closed inner close ss = some (t, rest) := by
  rw [closed, h]
  exact if_pos rfl

theorem Items.head {ss : List Sign} {ts : List Term} (h : Items ss ts) (hts : ts ≠ []) :
    ∃ s us, ss = s :: us ∧ opens s = true := by
  match h with
  | .none => exact absurd rfl hts
  | .one h =>
      obtain ⟨s, us, rfl, hs, -⟩ := h.head
      exact ⟨s, us, rfl, hs⟩
  | .more h _ =>
      obtain ⟨s, us, rfl, hs, -⟩ := h.head
      exact ⟨s, us ++ _, rfl, hs⟩

/-- Items are read up to a closing sign if the terms between the commas are. -/
theorem items_of_someItems {inner : Parser} {ss : List Sign} {ts : List Term} (h : Items ss ts)
    {close : Sign} (hc : closes close = true) {rest : List Sign}
    (hsome : ts ≠ [] → ∀ fuel, ss.length ≤ fuel →
      someItems inner fuel (ss ++ close :: rest) = some (ts, close :: rest)) :
    items inner close (ss ++ close :: rest) = some (ts, rest) := by
  by_cases hts : ts = []
  · subst hts
    cases h
    exact if_pos rfl
  · obtain ⟨s, us, rfl, hs⟩ := h.head hts
    have hne : s ≠ close := by
      rintro rfl
      cases s <;> simp_all [opens, closes]
    rw [List.cons_append, items, if_neg hne, ← List.cons_append, hsome hts _ (by simp)]
    exact if_pos rfl

/-- A whole term that is read at the loosest rank is read in brackets. -/
theorem expression_of_level {n : Nat} {ss rest : List Sign} {t : Term}
    (h : ∃ m, rest.length ≤ m ∧
      level (expression n) loosest ss = resume (expression n) loosest m t rest)
    (hr : Quiet (loosest + 1) rest) : expression (n + 1) ss = some (t, rest) := by
  obtain ⟨m, -, hm⟩ := h
  rw [expression, hm, resume_of_quiet hr]

/-- A reader of the next rank takes up what the reader of one rank leaves. -/
theorem level_looser {inner : Parser} {k : Nat} {s : Sign} {ss rest : List Sign} {t : Term}
    (hs : k = 0 → s ≠ .bang) (hr : Quiet (k + 1) rest)
    (h : ∃ m, rest.length ≤ m ∧ level inner k (s :: ss) = resume inner k m t rest) :
    ∃ m, rest.length ≤ m ∧ level inner (k + 1) (s :: ss) = resume inner (k + 1) m t rest := by
  obtain ⟨m, hm, h⟩ := h
  rw [resume_of_quiet hr] at h
  cases k with
  | zero =>
      refine ⟨m, hm, ?_⟩
      rw [level, negations_of_head (hs rfl)]
      exact h
  | succ k =>
      refine ⟨rest.length, Nat.le_refl _, ?_⟩
      simp only [level, h]
      rfl

/-- Signs are read as a term of rank `k`, and the reader goes on with what follows them.  The fuel
for what follows is never less than its length, so a chain is read to its end. -/
def Reads (k : Nat) (ss : List Sign) (t : Term) : Prop :=
  ∀ {n : Nat} {rest : List Sign}, ss.length ≤ n → Quiet k rest →
    ∃ m, rest.length ≤ m ∧
      level (expression n) k (ss ++ rest) = resume (expression n) k m t rest

/-- Signs in front of a closing sign are read as terms with commas between them. -/
def ReadsItems (ss : List Sign) (ts : List Term) : Prop :=
  ∀ {n fuel : Nat} {close : Sign} {rest : List Sign}, ss.length < n → closes close = true →
    close ≠ .comma → ts ≠ [] → ss.length ≤ fuel →
      someItems (expression n) fuel (ss ++ close :: rest) = some (ts, close :: rest)

/-- A whole term in front of a sign that ends it is read one bracket further in. -/
theorem Reads.expression {ss : List Sign} {t : Term} (h : Reads loosest ss t) {n : Nat}
    (hn : ss.length ≤ n) {s : Sign} (hs : closes s = true) (rest : List Sign) :
    expression (n + 1) (ss ++ s :: rest) = some (t, s :: rest) :=
  have hq := fun k => quiet_of_closes hs k rest
  expression_of_level (h hn (hq _)) (hq _)

/-- Items in brackets that are open already are read up to the closing sign. -/
theorem ReadsItems.items {ss : List Sign} {ts : List Term} (hspelled : Items ss ts)
    (h : ReadsItems ss ts) {n : Nat} (hn : ss.length < n) {close : Sign}
    (hc : closes close = true) (hcomma : close ≠ .comma) (rest : List Sign) :
    items (expression n) close (ss ++ close :: rest) = some (ts, rest) :=
  items_of_someItems hspelled hc fun hts _ => h hn hc hcomma hts

theorem reads_word (w : String) : Reads 0 [.word w] (ofWord w) :=
  fun _ hr => access_of_primary (primary_word hr _)

theorem reads_paren {ss : List Sign} {t : Term} (h : Reads loosest ss t) :
    Reads 0 (.parenOpen :: (ss ++ [.parenClose])) t := by
  intro n rest hn _
  rw [List.length_cons, List.length_append, List.length_singleton] at hn
  obtain ⟨n, rfl⟩ : ∃ j, n = j + 1 := Nat.exists_eq_add_one.mpr (by omega)
  refine access_of_primary ?_
  rw [List.cons_append, List.append_assoc, List.singleton_append, primary]
  exact closed_of_inner (h.expression (by omega) rfl rest)

theorem reads_list {ss : List Sign} {ts : List Term} (hspelled : Items ss ts)
    (h : ReadsItems ss ts) : Reads 0 (.bracketOpen :: (ss ++ [.bracketClose])) (.list ts) := by
  intro n rest hn _
  rw [List.length_cons, List.length_append, List.length_singleton] at hn
  refine access_of_primary (?_ : primary _ _ = some (.list ts, rest))
  rw [List.cons_append, List.append_assoc, List.singleton_append, primary,
    h.items hspelled (by omega) rfl (by decide)]
  rfl

theorem reads_call (w : String) {ss : List Sign} {ts : List Term} (hspelled : Items ss ts)
    (h : ReadsItems ss ts) :
    Reads 0 (.word w :: .parenOpen :: (ss ++ [.parenClose])) (.call w ts) := by
  intro n rest hn _
  rw [List.length_cons, List.length_cons, List.length_append, List.length_singleton] at hn
  refine access_of_primary (?_ : primary _ _ = some (.call w ts, rest))
  rw [List.cons_append, List.cons_append, List.append_assoc, List.singleton_append, primary,
    h.items hspelled (by omega) rfl (by decide)]
  rfl

theorem reads_member (w : String) {ss : List Sign} {t : Term} (h : Reads 0 ss t) :
    Reads 0 (ss ++ [.dot, .word w]) (.member t w) := by
  intro n rest hn _
  rw [List.length_append] at hn
  obtain ⟨m, hm, ih⟩ := h (n := n) (by omega) (quiet_of_part (.inl rfl) (.word w :: rest))
  rw [List.length_cons, List.length_cons] at hm
  obtain ⟨m, rfl⟩ : ∃ j, m = j + 1 := Nat.exists_eq_add_one.mpr (by omega)
  refine ⟨m, by omega, ?_⟩
  rw [List.append_assoc]
  exact ih

theorem reads_item {ss us : List Sign} {t u : Term} (h : Reads 0 ss t) (h' : Reads loosest us u) :
    Reads 0 (ss ++ .bracketOpen :: (us ++ [.bracketClose])) (.item t u) := by
  intro n rest hn _
  rw [List.length_append, List.length_cons, List.length_append, List.length_singleton] at hn
  obtain ⟨n, rfl⟩ : ∃ j, n = j + 1 := Nat.exists_eq_add_one.mpr (by omega)
  obtain ⟨m, hm, ih⟩ := h (n := n + 1) (by omega)
    (quiet_of_part (.inr rfl) (us ++ .bracketClose :: rest))
  rw [List.length_cons, List.length_append, List.length_cons] at hm
  obtain ⟨m, rfl⟩ : ∃ j, m = j + 1 := Nat.exists_eq_add_one.mpr (by omega)
  refine ⟨m, by omega, ?_⟩
  rw [List.append_assoc, List.cons_append, List.append_assoc, List.singleton_append, ih, resume,
    parts, closed_of_inner (h'.expression (by omega) rfl rest)]
  rfl

theorem reads_not {ss : List Sign} {t : Term} (h : Reads 1 ss t) :
    Reads 1 (.bang :: ss) (.not t) := by
  intro n rest hn hr
  rw [List.length_cons] at hn
  obtain ⟨m, hm, ih⟩ := h (n := n) (by omega) hr
  refine ⟨m, hm, ?_⟩
  have ih' : negations (expression n) (ss ++ rest) = some (t, rest) := ih
  rw [List.cons_append, level, negations, ih']
  rfl

theorem reads_binary {k : Nat} {symbol : String} {ss us : List Sign} {t u : Term}
    (hk : rank? symbol = some (k + 1)) (h : Reads (k + 1) ss t) (h' : Reads k us u) :
    Reads (k + 1) (ss ++ .operator symbol :: us) (.binary symbol t u) := by
  intro n rest hn hr
  rw [List.length_append, List.length_cons] at hn
  obtain ⟨k, rfl⟩ : ∃ j, k = j + 1 :=
    Nat.exists_eq_add_one.mpr (by have := two_le_of_rank? hk; omega)
  have hq : Quiet (k + 2) (.operator symbol :: (us ++ rest)) := by
    intro s hs
    obtain rfl : .operator symbol = s := Option.some.inj hs
    refine ⟨by simp, by simp, fun symbol' j he hj => ?_⟩
    obtain rfl : symbol = symbol' := Sign.operator.inj he
    exact Nat.le_of_eq (Option.some.inj (hk.symm.trans hj))
  obtain ⟨m, hm, ih⟩ := h (n := n) (by omega) hq
  rw [List.length_cons, List.length_append] at hm
  obtain ⟨m, rfl⟩ : ∃ j, m = j + 1 := Nat.exists_eq_add_one.mpr (by omega)
  obtain ⟨_, -, ih'⟩ := h' (n := n) (by omega) (hr.mono (by omega))
  rw [resume_of_quiet hr] at ih'
  refine ⟨m, by omega, ?_⟩
  rw [List.append_assoc, List.cons_append, ih, resume, moreOperands, if_pos hk, ih']
  rfl

theorem reads_looser {k : Nat} {ss : List Sign} {t : Term} (hspelled : Spelled k ss t)
    (h : Reads k ss t) : Reads (k + 1) ss t := by
  intro n rest hn hr
  obtain ⟨s, us, rfl, -, hb⟩ := hspelled.head
  exact level_looser hb hr (h hn (hr.mono (Nat.le_succ k)))

theorem readsItems_one {ss : List Sign} {t : Term} (hspelled : Spelled loosest ss t)
    (h : Reads loosest ss t) : ReadsItems ss [t] := by
  intro n fuel close rest hn hc hcomma _ hf
  obtain ⟨n, rfl⟩ : ∃ j, n = j + 1 := Nat.exists_eq_add_one.mpr (by omega)
  obtain ⟨s, us, rfl, -, -⟩ := hspelled.head
  rw [List.length_cons] at hf
  obtain ⟨fuel, rfl⟩ : ∃ j, fuel = j + 1 := Nat.exists_eq_add_one.mpr (by omega)
  rw [someItems, h.expression (by omega) hc]
  cases close <;> first | rfl | exact absurd rfl hcomma

theorem readsItems_more {ss us : List Sign} {t u : Term} {ts : List Term}
    (h : Reads loosest ss t) (h' : ReadsItems us (u :: ts)) :
    ReadsItems (ss ++ .comma :: us) (t :: u :: ts) := by
  intro n fuel close rest hn hc hcomma _ hf
  rw [List.length_append, List.length_cons] at hn hf
  obtain ⟨n, rfl⟩ : ∃ j, n = j + 1 := Nat.exists_eq_add_one.mpr (by omega)
  obtain ⟨fuel, rfl⟩ : ∃ j, fuel = j + 1 := Nat.exists_eq_add_one.mpr (by omega)
  have ih : someItems (expression (n + 1)) fuel (us ++ close :: rest) =
      some (u :: ts, close :: rest) :=
    h' (by omega) hc hcomma (List.cons_ne_nil u ts) (by omega)
  rw [List.append_assoc, List.cons_append, someItems, h.expression (by omega) rfl]
  simp only [ih]
  rfl

/-- A spelled term is read.  The induction is over the derivation, together with those of the lists
of terms in it. -/
theorem Spelled.reads {k : Nat} {ss : List Sign} {t : Term} (h : Spelled k ss t) :
    Reads k ss t := by
  refine @Spelled.rec (fun k ss t _ => Reads k ss t) (fun ss ts _ => ReadsItems ss ts)
    ?word ?numeral ?text ?paren ?list ?call ?member ?item ?not ?binary ?looser ?none ?one ?more
    k ss t h
  case word => exact reads_word
  case numeral => exact fun n _ _ _ _ => access_of_primary rfl
  case text => exact fun s _ _ _ _ => access_of_primary rfl
  case paren => exact fun _ => reads_paren
  case list => exact fun hspelled => reads_list hspelled
  case call => exact fun w _ _ hspelled => reads_call w hspelled
  case member => exact fun w _ => reads_member w
  case item => exact fun _ _ => reads_item
  case not => exact fun _ => reads_not
  case binary => exact fun hk _ _ => reads_binary hk
  case looser => exact fun hspelled => reads_looser hspelled
  case none => exact fun _ _ _ hts => absurd rfl hts
  case one => exact fun hspelled => readsItems_one hspelled
  case more => exact fun _ _ => readsItems_more

/-- Every term that signs spell is the one that is read. -/
theorem parse?_of_spelled {ss : List Sign} {t : Term} (h : Spelled loosest ss t) :
    parse? ss = some t := by
  have hi := expression_of_level (h.reads (Nat.le_refl ss.length) (quiet_nil _)) (quiet_nil _)
  rw [List.append_nil] at hi
  rw [parse?, hi]

/-! ## What is read is derived by the grammar -/

/-- A reader that gives only what the signs it takes spell at rank `k`. -/
def Sound (k : Nat) (reader : Parser) : Prop :=
  ∀ {ss rest : List Sign} {t : Term}, reader ss = some (t, rest) →
    ∃ us, ss = us ++ rest ∧ Spelled k us t

theorem closed_sound {inner : Parser} (hi : Sound loosest inner) {close : Sign}
    {ss rest : List Sign} {t : Term} (h : closed inner close ss = some (t, rest)) :
    ∃ us, ss = us ++ close :: rest ∧ Spelled loosest us t := by
  unfold closed at h
  split at h
  · next u r more hu =>
    split at h
    · next hr =>
      subst hr
      obtain ⟨rfl, rfl⟩ : u = t ∧ more = rest := by simpa using h
      exact hi hu
    · exact absurd h (by simp)
  · exact absurd h (by simp)

theorem someItems_sound {inner : Parser} (hi : Sound loosest inner) :
    ∀ {fuel : Nat} {ss rest : List Sign} {ts : List Term},
      someItems inner fuel ss = some (ts, rest) →
        ∃ us u us', ts = u :: us' ∧ ss = us ++ rest ∧ Items us ts
  | 0, _, _, _, h => absurd h (by simp [someItems])
  | fuel + 1, ss, rest, ts, h => by
      rw [someItems] at h
      split at h
      · next t more ht =>
        obtain ⟨⟨ts', rest'⟩, hs, heq⟩ := Option.map_eq_some_iff.mp h
        obtain ⟨rfl, rfl⟩ : t :: ts' = ts ∧ rest' = rest := by simpa using heq
        obtain ⟨vs, rfl, hv⟩ := hi ht
        obtain ⟨us, u, us', rfl, rfl, hu⟩ := someItems_sound hi hs
        exact ⟨vs ++ .comma :: us, t, u :: us', rfl, by simp, .more hv hu⟩
      · next t more _ ht =>
        obtain ⟨rfl, rfl⟩ : [t] = ts ∧ more = rest := by simpa using h
        obtain ⟨vs, rfl, hv⟩ := hi ht
        exact ⟨vs, t, [], rfl, rfl, .one hv⟩
      · exact absurd h (by simp)

theorem items_sound {inner : Parser} (hi : Sound loosest inner) {close : Sign}
    {ss rest : List Sign} {ts : List Term} (h : items inner close ss = some (ts, rest)) :
    ∃ us, ss = us ++ close :: rest ∧ Items us ts := by
  unfold items at h
  split at h
  · exact absurd h (by simp)
  · next s ss =>
    split at h
    · next hs =>
      subst hs
      obtain ⟨rfl, rfl⟩ : [] = ts ∧ ss = rest := by simpa using h
      exact ⟨[], rfl, .none⟩
    · split at h
      · next ts' r more hs =>
        split at h
        · next hr =>
          subst hr
          obtain ⟨rfl, rfl⟩ : ts' = ts ∧ more = rest := by simpa using h
          obtain ⟨us, _, _, -, hss, hu⟩ := someItems_sound hi hs
          exact ⟨us, hss, hu⟩
        · exact absurd h (by simp)
      · exact absurd h (by simp)

theorem primary_sound {inner : Parser} (hi : Sound loosest inner) : Sound 0 (primary inner) := by
  intro ss rest t h
  unfold primary at h
  split at h
  · next w ss =>
    obtain ⟨⟨ts, rest'⟩, hs, heq⟩ := Option.map_eq_some_iff.mp h
    obtain ⟨rfl, rfl⟩ : .call w ts = t ∧ rest' = rest := by simpa using heq
    obtain ⟨us, rfl, hu⟩ := items_sound hi hs
    exact ⟨_, by simp, .call w hu⟩
  · next w ss _ =>
    obtain ⟨rfl, rfl⟩ : ofWord w = t ∧ ss = rest := by simpa using h
    exact ⟨[.word w], rfl, .word w⟩
  · next n ss =>
    obtain ⟨rfl, rfl⟩ : .number n = t ∧ ss = rest := by simpa using h
    exact ⟨[.numeral n], rfl, .numeral n⟩
  · next s ss =>
    obtain ⟨rfl, rfl⟩ : .text s = t ∧ ss = rest := by simpa using h
    exact ⟨[.text s], rfl, .text s⟩
  · obtain ⟨us, rfl, hu⟩ := closed_sound hi h
    exact ⟨_, by simp, .paren hu⟩
  · obtain ⟨⟨ts, rest'⟩, hs, heq⟩ := Option.map_eq_some_iff.mp h
    obtain ⟨rfl, rfl⟩ : .list ts = t ∧ rest' = rest := by simpa using heq
    obtain ⟨us, rfl, hu⟩ := items_sound hi hs
    exact ⟨_, by simp, .list hu⟩
  · exact absurd h (by simp)

theorem parts_sound {inner : Parser} (hi : Sound loosest inner) {fuel : Nat}
    {ss rest vs : List Sign} {t u : Term} (ht : Spelled 0 vs t)
    (h : parts inner fuel t ss = some (u, rest)) :
    ∃ us, ss = us ++ rest ∧ Spelled 0 (vs ++ us) u := by
  fun_induction parts inner fuel t ss generalizing vs with
  | case1 fuel t w ss ih =>
      obtain ⟨us, rfl, hu⟩ := ih (.member w ht) h
      exact ⟨.dot :: .word w :: us, rfl, by simpa using hu⟩
  | case2 fuel t ss k more hk ih =>
      obtain ⟨ks, rfl, hks⟩ := closed_sound hi hk
      obtain ⟨us, rfl, hu⟩ := ih (.item ht hks) h
      exact ⟨.bracketOpen :: (ks ++ .bracketClose :: us), by simp, by simpa using hu⟩
  | case3 => exact absurd h (by simp)
  | case4 fuel t ss =>
      obtain ⟨rfl, rfl⟩ : t = u ∧ ss = rest := by simpa using h
      exact ⟨[], rfl, by simpa using ht⟩

theorem access_sound {inner : Parser} (hi : Sound loosest inner) : Sound 0 (access inner) := by
  intro ss rest t h
  unfold access at h
  split at h
  · next u more hu =>
    obtain ⟨vs, rfl, hv⟩ := primary_sound hi hu
    obtain ⟨us, rfl, hs⟩ := parts_sound hi hv h
    exact ⟨vs ++ us, by simp, hs⟩
  · exact absurd h (by simp)

theorem negations_sound {inner : Parser} (hi : Sound loosest inner) :
    Sound 1 (negations inner) := by
  intro ss rest t h
  fun_induction negations inner ss generalizing t with
  | case1 ss ih =>
      obtain ⟨⟨u, rest'⟩, hu, heq⟩ := Option.map_eq_some_iff.mp h
      obtain ⟨rfl, rfl⟩ : .not u = t ∧ rest' = rest := by simpa using heq
      obtain ⟨us, rfl, hs⟩ := ih hu
      exact ⟨.bang :: us, rfl, .not hs⟩
  | case2 ss =>
      obtain ⟨us, rfl, hs⟩ := access_sound hi h
      exact ⟨us, rfl, .looser hs⟩

theorem moreOperands_sound {k : Nat} {operand : Parser} (ho : Sound k operand) {fuel : Nat}
    {ss rest vs : List Sign} {t u : Term} (ht : Spelled (k + 1) vs t)
    (h : moreOperands (k + 1) operand fuel t ss = some (u, rest)) :
    ∃ us, ss = us ++ rest ∧ Spelled (k + 1) (vs ++ us) u := by
  fun_induction moreOperands (k + 1) operand fuel t ss generalizing vs with
  | case1 fuel t symbol ss hk r more hr ih =>
      obtain ⟨rs, rfl, hrs⟩ := ho hr
      obtain ⟨us, rfl, hu⟩ := ih (.binary hk ht hrs) h
      exact ⟨.operator symbol :: (rs ++ us), by simp, by simpa using hu⟩
  | case2 => exact absurd h (by simp)
  | case3 fuel t symbol ss hk =>
      obtain ⟨rfl, rfl⟩ : t = u ∧ .operator symbol :: ss = rest := by simpa using h
      exact ⟨[], rfl, by simpa using ht⟩
  | case4 fuel t ss =>
      obtain ⟨rfl, rfl⟩ : t = u ∧ ss = rest := by simpa using h
      exact ⟨[], rfl, by simpa using ht⟩

theorem level_sound {inner : Parser} (hi : Sound loosest inner) :
    ∀ k, Sound k (level inner k)
  | 0 => access_sound hi
  | 1 => negations_sound hi
  | k + 2 => by
      intro h
      unfold level at h
      split at h
      · next u more hu =>
        obtain ⟨vs, rfl, hv⟩ := level_sound hi (k + 1) hu
        obtain ⟨us, rfl, hs⟩ := moreOperands_sound (level_sound hi (k + 1)) (.looser hv) h
        exact ⟨vs ++ us, by simp, hs⟩
      · exact absurd h (by simp)

theorem expression_sound : ∀ n, Sound loosest (expression n)
  | 0 => fun h => absurd h (by simp [expression])
  | n + 1 => level_sound (expression_sound n) loosest

/-- Reading gives exactly what the grammar derives. -/
theorem parse?_eq_some_iff {ss : List Sign} {t : Term} :
    parse? ss = some t ↔ Spelled loosest ss t := by
  refine ⟨fun h => ?_, parse?_of_spelled⟩
  unfold parse? at h
  split at h
  · next u hu =>
    obtain rfl : u = t := by simpa using h
    obtain ⟨us, rfl, hs⟩ := expression_sound _ hu
    simpa using hs
  · exact absurd h (by simp)

end VaultQuery.Term
