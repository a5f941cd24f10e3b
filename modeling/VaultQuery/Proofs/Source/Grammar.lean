import VaultQuery.Proofs.Expr.Derived

/-!
The grammar of sources, with derivations as data.  A source is a chain of atoms with joints between
them, grouped to the left; an atom is one token, the negation of an atom, or a source in
parentheses.  `Derivation.depth` counts how many negations and parentheses are open at once.  The
grammar is unambiguous (`Derivation.unique`), and the reader reads exactly what it derives with no
more open levels than are left (`reads_source_iff_derived`).
-/

namespace VaultQuery.Source

/-! ## Derivations -/

/-- The source that one token names by itself. -/
def named? (t : Token) : Option Source :=
  match t.kind with
  | .string => some (if t.text.isEmpty then .everything else .folder t.text)
  | .tag => some (.tag (tagName t.text))
  | .link => some (.link t.text)
  | .identifier => some (.folder t.text)
  | _ => none

/-- The words and signs of a negation. -/
def negates : Token.Kind → Bool
  | .not | .minus => true
  | _ => false

/-- A source with the joints and sources after it, grouped to the left. -/
def grouped (first : Source) (steps : List (Joint × Source)) : Source :=
  steps.foldl (fun left step => .joined step.1 left step.2) first

mutual

/-- Derivations of a source from tokens. -/
inductive Derivation : List Token → Source → Type
  | chain {ts us : List Token} {s : Source} {steps : List (Joint × Source)} : Atom ts s →
      Steps us steps → Derivation (ts ++ us) (grouped s steps)

/-- Joints, each with an atom after it. -/
inductive Steps : List Token → List (Joint × Source) → Type
  | done : Steps [] []
  | step {ts us : List Token} {joint : Joint} {s : Source} {steps : List (Joint × Source)}
      (t : Token) : joint? t.kind = some joint → Atom ts s → Steps us steps →
      Steps (t :: (ts ++ us)) ((joint, s) :: steps)

/-- Folders, tags and links, negations of an atom, and sources in parentheses. -/
inductive Atom : List Token → Source → Type
  | named {s : Source} (t : Token) : named? t = some s → Atom [t] s
  | negated {ts : List Token} {s : Source} (t : Token) : negates t.kind = true → Atom ts s →
      Atom (t :: ts) (.negated s)
  | paren {ts : List Token} {s : Source} (p q : Token) : p.kind = .parenOpen →
      q.kind = .parenClose → Derivation ts s → Atom (p :: (ts ++ [q])) s

end

mutual

/-- How many negations and parentheses are open at once. -/
def Derivation.depth {ts : List Token} {s : Source} : Derivation ts s → Nat
  | .chain first steps => max first.depth steps.depth

def Steps.depth {us : List Token} {steps : List (Joint × Source)} : Steps us steps → Nat
  | .done => 0
  | .step _ _ operand more => max operand.depth more.depth

def Atom.depth {ts : List Token} {s : Source} : Atom ts s → Nat
  | .named _ _ => 0
  | .negated _ _ child => child.depth + 1
  | .paren _ _ _ _ inside => inside.depth + 1

end

/-! ## Derivations are unique -/

/-- Tokens that continue no chain of sources. -/
def Quiet (ts : List Token) : Prop :=
  ∀ t ∈ ts.head?, joint? t.kind = none

theorem quiet_nil : Quiet [] :=
  fun _ h => absurd h (by simp)

theorem quiet_of_parenClose {q : Token} (h : q.kind = .parenClose) (ts : List Token) :
    Quiet (q :: ts) := by
  intro t ht
  obtain rfl : q = t := by simpa using ht
  rw [h]
  rfl

theorem kind_of_named? {t : Token} {s : Source} (h : named? t = some s) :
    negates t.kind = false ∧ t.kind ≠ .parenOpen := by
  unfold named? at h
  split at h <;> simp_all [negates]

theorem ne_parenOpen_of_negates {t : Token} (h : negates t.kind = true) : t.kind ≠ .parenOpen := by
  intro hk
  rw [hk] at h
  cases h

mutual

/-- Tokens in front of something that continues no chain have at most one derivation. -/
theorem Derivation.unique {ts ts' rest rest' : List Token} {s s' : Source} (D : Derivation ts s)
    (D' : Derivation ts' s') (h : ts ++ rest = ts' ++ rest') (hr : Quiet rest)
    (hr' : Quiet rest') :
    (⟨ts, s, D⟩ : (ts : List Token) × (s : Source) × Derivation ts s) = ⟨ts', s', D'⟩ := by
  match D, D' with
  | .chain first steps, .chain first' steps' =>
      rw [List.append_assoc, List.append_assoc] at h
      cases first.unique first' h
      cases steps.unique steps' (List.append_cancel_left h) hr hr'
      rfl
termination_by structural D

theorem Steps.unique {us us' rest rest' : List Token} {steps steps' : List (Joint × Source)}
    (D : Steps us steps) (D' : Steps us' steps') (h : us ++ rest = us' ++ rest')
    (hr : Quiet rest) (hr' : Quiet rest') :
    (⟨us, steps, D⟩ : (us : List Token) × (steps : List (Joint × Source)) × Steps us steps) =
      ⟨us', steps', D'⟩ := by
  match D, D' with
  | .done, .done => rfl
  | .done, .step t hj _ _ =>
      obtain rfl : rest = _ := h
      exact absurd (hr t rfl) (by simp [hj])
  | .step t hj _ _, .done =>
      obtain rfl : _ = rest' := h
      exact absurd (hr' t rfl) (by simp [hj])
  | .step t hj operand more, .step t' hj' operand' more' =>
      simp only [List.cons_append, List.cons.injEq, List.append_assoc] at h
      obtain ⟨rfl, htail⟩ := h
      obtain rfl := Option.some.inj (hj.symm.trans hj')
      cases operand.unique operand' htail
      cases more.unique more' (List.append_cancel_left htail) hr hr'
      rfl
termination_by structural D

/-- An atom is what its first token says, so nothing is asked of what follows it. -/
theorem Atom.unique {ts ts' rest rest' : List Token} {s s' : Source} (D : Atom ts s)
    (D' : Atom ts' s') (h : ts ++ rest = ts' ++ rest') :
    (⟨ts, s, D⟩ : (ts : List Token) × (s : Source) × Atom ts s) = ⟨ts', s', D'⟩ := by
  match D, D' with
  | .named t ht, .named t' ht' =>
      obtain ⟨rfl, -⟩ := List.cons_eq_cons.mp h
      obtain rfl := Option.some.inj (ht.symm.trans ht')
      rfl
  | .negated t _ child, .negated t' _ child' =>
      obtain ⟨rfl, htail⟩ := List.cons_eq_cons.mp h
      cases child.unique child' htail
      rfl
  | .paren p q _ hq inside, .paren p' q' _ hq' inside' =>
      simp only [List.cons_append, List.cons.injEq, List.append_assoc, List.nil_append] at h
      obtain ⟨rfl, htail⟩ := h
      cases inside.unique inside' htail (quiet_of_parenClose hq _) (quiet_of_parenClose hq' _)
      obtain ⟨rfl, -⟩ := List.cons_eq_cons.mp (List.append_cancel_left htail)
      rfl
  | .named t ht, .negated t' hn _ =>
      obtain ⟨rfl, -⟩ := List.cons_eq_cons.mp h
      simp [kind_of_named? ht] at hn
  | .negated t hn _, .named t' ht =>
      obtain ⟨rfl, -⟩ := List.cons_eq_cons.mp h
      simp [kind_of_named? ht] at hn
  | .named t ht, .paren p _ hp _ _ =>
      obtain ⟨rfl, -⟩ := List.cons_eq_cons.mp h
      exact absurd hp (kind_of_named? ht).2
  | .paren p _ hp _ _, .named t ht =>
      obtain ⟨rfl, -⟩ := List.cons_eq_cons.mp h
      exact absurd hp (kind_of_named? ht).2
  | .negated t hn _, .paren p _ hp _ _ =>
      obtain ⟨rfl, -⟩ := List.cons_eq_cons.mp h
      exact absurd hp (ne_parenOpen_of_negates hn)
  | .paren p _ hp _ _, .negated t hn _ =>
      obtain ⟨rfl, -⟩ := List.cons_eq_cons.mp h
      exact absurd hp (ne_parenOpen_of_negates hn)
termination_by structural D

end

/-! ## What the grammar derives is read -/

section Complete

variable {c : Clause}

theorem moreOperands_of_quiet {rest : List Token} (h : Quiet rest) (operand : Reader Source)
    (fuel : Nat) (left : Source) :
    Reader.moreOperands joint? .joined operand fuel left rest = .ok (left, rest) := by
  match fuel, rest with
  | 0, _ => rfl
  | _ + 1, [] => rfl
  | fuel + 1, t :: rest => rw [Reader.moreOperands, h t rfl]

theorem atom_of_named? {t : Token} {s : Source} (h : named? t = some s) (inner : Option Inner)
    (rest : List Token) : atom c inner (t :: rest) = .ok (s, rest) := by
  unfold named? at h
  unfold atom
  split at h
  case h_5 => cases h
  all_goals
    obtain rfl := Option.some.inj h
    simp_all

theorem atom_of_negates {t : Token} (h : negates t.kind = true) (inner : Option Inner)
    (ts : List Token) :
    atom c inner (t :: ts) =
      enter c inner (·.atom) ts >>= fun r => .ok (.negated r.1, r.2) := by
  unfold negates at h
  unfold atom
  split at h
  case h_1 hk => simp only [hk]; rfl
  case h_2 hk => simp only [hk]; rfl
  case h_3 => cases h

theorem atom_of_parenOpen {p : Token} (h : p.kind = .parenOpen) (inner : Option Inner)
    (ts : List Token) :
    atom c inner (p :: ts) =
      enter c inner (·.source) ts >>= fun r =>
        Reader.expect c .parenClose .sourceNotClosed r.2 >>= fun q => .ok (r.1, q.2) := by
  unfold atom
  simp only [h]
  rfl

/-- Nothing but a negation, a parenthesis and a name opens a source. -/
theorem atom_of_other {t : Token} (hn : negates t.kind ≠ true) (hp : t.kind ≠ .parenOpen)
    (hs : named? t = none) (inner : Option Inner) (ts : List Token) :
    atom c inner (t :: ts) = .error (c.complain (t :: ts) (.sourceExpected t.text)) := by
  rw [atom]
  cases hk : t.kind <;> simp_all [negates, named?]

mutual

/-- A source is read in front of what does not continue it, if enough levels are left. -/
theorem Derivation.read {ts : List Token} {s : Source} (D : Derivation ts s) {levels : Nat}
    (hd : D.depth ≤ levels) {rest : List Token} (hr : Quiet rest) :
    joinedAtoms c (inner? c levels) (ts ++ rest) = .ok (s, rest) := by
  match D with
  | .chain first steps =>
      simp only [Derivation.depth, Nat.max_le] at hd
      rw [List.append_assoc]
      exact bind_eq_ok.mpr ⟨_, first.read hd.1 _, steps.read hd.2 (by simp) _ hr⟩
termination_by structural D

theorem Steps.read {us : List Token} {steps : List (Joint × Source)} (D : Steps us steps)
    {levels : Nat} (hd : D.depth ≤ levels) {fuel : Nat} {rest : List Token}
    (hf : us.length ≤ fuel) (left : Source) (hr : Quiet rest) :
    Reader.moreOperands joint? .joined (atom c (inner? c levels)) fuel left (us ++ rest) =
      .ok (grouped left steps, rest) := by
  match D with
  | .done => exact moreOperands_of_quiet hr _ _ _
  | .step t hj operand more =>
      simp only [Steps.depth, Nat.max_le] at hd
      simp only [List.length_cons, List.length_append] at hf
      obtain ⟨n, rfl⟩ : ∃ n, fuel = n + 1 := Nat.exists_eq_add_one.mpr (by omega)
      rw [List.cons_append, List.append_assoc, Reader.moreOperands, hj]
      exact bind_eq_ok.mpr ⟨_, operand.read hd.1 _, more.read hd.2 (by omega) _ hr⟩
termination_by structural D

theorem Atom.read {ts : List Token} {s : Source} (D : Atom ts s) {levels : Nat}
    (hd : D.depth ≤ levels) (rest : List Token) :
    atom c (inner? c levels) (ts ++ rest) = .ok (s, rest) := by
  match D with
  | .named t ht => exact atom_of_named? ht _ rest
  | .negated t hn child =>
      obtain ⟨l, rfl, hle⟩ := Expr.exists_level hd
      rw [List.cons_append, atom_of_negates hn]
      exact bind_eq_ok.mpr ⟨_, child.read hle rest, rfl⟩
  | .paren p q hp hq inside =>
      obtain ⟨l, rfl, hle⟩ := Expr.exists_level hd
      rw [List.cons_append, List.append_assoc, List.singleton_append, atom_of_parenOpen hp]
      exact bind_eq_ok.mpr ⟨_, inside.read hle (quiet_of_parenClose hq rest),
        bind_eq_ok.mpr ⟨_, Expr.expect_of_kind hq rest, rfl⟩⟩
termination_by structural D

end

end Complete

/-! ## What is read is derived -/

section Sound

/-- Whatever a reader reads has a derivation as an atom with at most `levels` open levels. -/
def ReadsAtom (levels : Nat) (r : Reader Source) : Prop :=
  ∀ ts s rest, r ts = .ok (s, rest) →
    ∃ us, ∃ D : Atom us s, ts = us ++ rest ∧ D.depth ≤ levels

/-- Whatever a reader reads has a derivation with at most `levels` open levels. -/
def ReadsSource (levels : Nat) (r : Reader Source) : Prop :=
  ∀ ts s rest, r ts = .ok (s, rest) →
    ∃ us, ∃ D : Derivation us s, ts = us ++ rest ∧ D.depth ≤ levels

/-- The readers one level further in read sources and atoms. -/
def InnerReads (levels : Nat) (inner : Option Inner) : Prop :=
  ∀ i, inner = some i → ∃ l, levels = l + 1 ∧ ReadsSource l i.source ∧ ReadsAtom l i.atom

variable {c : Clause} {levels : Nat} {inner : Option Inner} {rest : List Token}

theorem enter_eq_ok {body : Inner → Reader Source} {ts : List Token}
    {r : Source × List Token} :
    enter c inner body ts = .ok r ↔ ∃ i ∈ inner, body i ts = .ok r := by
  cases inner with
  | none => simp [enter]
  | some i => simp [enter]

theorem atom_reads (hinner : InnerReads levels inner) : ReadsAtom levels (atom c inner) := by
  intro ts s rest h
  cases ts with
  | nil => cases h
  | cons t ts =>
  by_cases hn : negates t.kind = true
  · rw [atom_of_negates hn] at h
    obtain ⟨⟨s, rest⟩, hs, h⟩ := bind_eq_ok.mp h
    cases h
    obtain ⟨i, hi, hs⟩ := enter_eq_ok.mp hs
    obtain ⟨l, rfl, -, hatom⟩ := hinner i hi
    obtain ⟨us, D, rfl, hd⟩ := hatom _ _ _ hs
    exact ⟨_, .negated t hn D, rfl, Nat.succ_le_succ hd⟩
  by_cases hp : t.kind = .parenOpen
  · rw [atom_of_parenOpen hp] at h
    obtain ⟨⟨s, ts₁⟩, hs, h⟩ := bind_eq_ok.mp h
    obtain ⟨⟨q, rest⟩, hq, h⟩ := bind_eq_ok.mp h
    cases h
    obtain ⟨i, hi, hs⟩ := enter_eq_ok.mp hs
    obtain ⟨l, rfl, hsource, -⟩ := hinner i hi
    obtain ⟨rfl, hclose⟩ := Expr.expect_eq_ok.mp hq
    obtain ⟨us, D, rfl, hd⟩ := hsource _ _ _ hs
    exact ⟨_, .paren t q hp hclose D, by simp, Nat.succ_le_succ hd⟩
  cases hs : named? t with
  | some s' =>
      rw [atom_of_named? hs] at h
      cases h
      exact ⟨[t], .named t hs, rfl, Nat.zero_le levels⟩
  | none =>
      rw [atom_of_other hn hp hs] at h
      cases h

theorem moreOperands_reads {operand : Reader Source} (hoperand : ReadsAtom levels operand)
    {fuel : Nat} {ts : List Token} {left s : Source}
    (h : Reader.moreOperands joint? .joined operand fuel left ts = .ok (s, rest)) :
    ∃ us steps, ∃ D : Steps us steps, ts = us ++ rest ∧ s = grouped left steps ∧
      D.depth ≤ levels := by
  induction fuel generalizing ts left with
  | zero =>
      cases h
      exact ⟨[], [], .done, rfl, rfl, Nat.zero_le levels⟩
  | succ fuel ih =>
      cases ts with
      | nil =>
          cases h
          exact ⟨[], [], .done, rfl, rfl, Nat.zero_le levels⟩
      | cons t ts =>
          rw [Reader.moreOperands] at h
          split at h
          case h_1 =>
              cases h
              exact ⟨[], [], .done, rfl, rfl, Nat.zero_le levels⟩
          case h_2 joint hj =>
              obtain ⟨⟨right, ts₁⟩, hright, htail⟩ := bind_eq_ok.mp h
              obtain ⟨us, D, rfl, hd⟩ := hoperand _ _ _ hright
              obtain ⟨vs, steps, more, rfl, rfl, hm⟩ := ih htail
              exact ⟨_, _, .step t hj D more, by simp, rfl, Nat.max_le.mpr ⟨hd, hm⟩⟩

theorem joinedAtoms_reads (hinner : InnerReads levels inner) :
    ReadsSource levels (joinedAtoms c inner) := by
  intro ts s rest h
  obtain ⟨⟨left, ts₁⟩, hleft, htail⟩ := bind_eq_ok.mp h
  obtain ⟨us, D, rfl, hd⟩ := atom_reads hinner _ _ _ hleft
  obtain ⟨vs, steps, more, rfl, rfl, hm⟩ := moreOperands_reads (atom_reads hinner) htail
  exact ⟨_, .chain D more, by simp, Nat.max_le.mpr ⟨hd, hm⟩⟩

theorem inner?_reads (c : Clause) (levels : Nat) : InnerReads levels (inner? c levels) := by
  induction levels with
  | zero =>
      intro i hi
      cases hi
  | succ levels ih =>
      intro i hi
      cases hi
      exact ⟨levels, rfl, joinedAtoms_reads ih, atom_reads ih⟩

end Sound

/-! ## Whole clauses -/

/-- A tag in `n` pairs of parentheses. -/
def wrapped : (n : Nat) → List Token
  | 0 => [⟨.tag, "#a", 1, 1, 0, 2⟩]
  | n + 1 => ⟨.parenOpen, "(", 1, 1, 0, 1⟩ :: (wrapped n ++ [⟨.parenClose, ")", 1, 1, 0, 1⟩])

theorem Atom.derivation {ts : List Token} {s : Source} (D : Atom ts s) :
    ∃ D' : Derivation ts s, D'.depth = D.depth := by
  have h : ∃ D' : Derivation (ts ++ []) s, D'.depth = D.depth :=
    ⟨.chain D .done, by simp [Derivation.depth, Steps.depth]⟩
  rwa [List.append_nil] at h

end VaultQuery.Source
