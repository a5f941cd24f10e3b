import VaultQuery.Proofs.Base.Fault
import VaultQuery.Proofs.Expr.Shallow
import VaultQuery.Proofs.Query.Given
import VaultQuery.Proofs.Source.Grammar

/-!
How deep a query is that was read.  Its nesting limit bounds the depth at which the walk works on
any expression or source of it: an open level of the text hides at most six levels of the tree, and
seven stand outside the first (`Query.visits_le_of_read`).  The work on a query fails for its depth
only at a visit that is too deep (`Work.accounts_of_fails_base`); so no step down is refused under a
tree limit of `6 * n + 7`, and only a chain that changes its operator too often is said to be nested
deeper.
-/

namespace VaultQuery

open Reader

/-! ## Sources -/

namespace Source

variable {n m : Nat} {s left right : Source} {joint : Joint} {c : Clause}

/-- The walk over a source takes at most `n` levels. -/
def Shallow (n : Nat) (s : Source) : Prop :=
  TakesLevels n (visits · s)

namespace Shallow

theorem mono (h : s.Shallow n) (hle : n ≤ m) : s.Shallow m :=
  TakesLevels.mono h hle

theorem negated (h : s.Shallow n) : (Source.negated s).Shallow (n + 1) := by
  intro d v hv
  rcases List.mem_cons.mp hv with rfl | hv
  · exact Nat.lt_add_of_pos_right (Nat.succ_pos n)
  · exact h.below hv

theorem joined (hleft : left.Shallow n ∨ continues true left = true ∧ left.Shallow (n + 1))
    (hright : right.Shallow n) : (Source.joined joint left right).Shallow (n + 1) := by
  intro d v hv
  rcases List.mem_cons.mp hv with rfl | hv
  · exact Nat.lt_add_of_pos_right (Nat.succ_pos n)
  rcases List.mem_append.mp hv with hv | hv
  · exact TakesLevels.left hleft hv
  · exact hright.below hv

end Shallow

/-- A chain of sources is one level deeper than the sources in it, however long it is. -/
theorem gives_joinedAtoms {inner : Option Inner} (h : Gives (Shallow n) (atom c inner)) :
    Gives (Shallow (n + 1)) (joinedAtoms c inner) := by
  have hchain : Gives (fun s => s.Shallow n ∨ continues true s = true ∧ s.Shallow (n + 1))
      (joinedAtoms c inner) := by
    refine gives_chain h (fun s hs => .inl hs) ?_
    intro kind joint left right hjoint hleft hright
    exact .inr ⟨connective?_of_joint? hjoint, .joined hleft hright⟩
  intro ts s rest hread
  rcases hchain ts s rest hread with hs | ⟨-, hs⟩
  · exact hs.mono (Nat.le_succ n)
  · exact hs

/-- A source without joints is a leaf, or one level deeper than what it negates, or what stands in
its brackets. -/
theorem gives_atom {inner : Option Inner} (hatom : ∀ i ∈ inner, Gives (Shallow n) i.atom)
    (hsource : ∀ i ∈ inner, Gives (Shallow (n + 1)) i.source) :
    Gives (Shallow (n + 1)) (atom c inner) := by
  have hnegated : ∀ ts s rest, (do
      let child ← enter c inner (·.atom) ts
      return (Source.negated child.1, child.2) : Except Fault _) = .ok (s, rest) →
        s.Shallow (n + 1) := by
    intro ts s rest hread
    obtain ⟨⟨child, ts₁⟩, hchild, hread⟩ := bind_eq_ok.mp hread
    obtain ⟨i, hi, hchild⟩ := enter_eq_ok.mp hchild
    cases hread
    exact .negated (hatom i hi _ _ _ hchild)
  intro ts s rest hread
  cases ts with
  | nil => cases hread
  | cons t ts =>
      unfold atom at hread
      dsimp only at hread
      split at hread
      case h_1 => exact hnegated _ _ _ hread
      case h_2 => exact hnegated _ _ _ hread
      case h_3 =>
          cases hread
          split <;> exact TakesLevels.leaf fun _ => rfl
      case h_4 =>
          cases hread
          exact TakesLevels.leaf fun _ => rfl
      case h_5 =>
          cases hread
          exact TakesLevels.leaf fun _ => rfl
      case h_6 =>
          cases hread
          exact TakesLevels.leaf fun _ => rfl
      case h_7 =>
          obtain ⟨⟨inside, ts₁⟩, hinside, hread⟩ := bind_eq_ok.mp hread
          obtain ⟨i, hi, hinside⟩ := enter_eq_ok.mp hinside
          obtain ⟨_, -, hread⟩ := bind_eq_ok.mp hread
          cases hread
          exact hsource i hi _ _ _ hinside
      case h_8 => cases hread

theorem gives_atom_inner (c : Clause) (levels : Nat) :
    Gives (Shallow (levels + 1)) (atom c (inner? c levels)) := by
  induction levels with
  | zero => exact gives_atom nofun nofun
  | succ levels ih =>
      refine gives_atom ?_ ?_
      · rintro i ⟨⟩
        exact ih
      · rintro i ⟨⟩
        exact gives_joinedAtoms ih

/-- What is read as a source is at most one level deeper for each level that its clause may nest. -/
theorem gives_source (c : Clause) : Gives (Shallow (c.limit.toNat + 2)) (source c) := by
  intro ts s rest hread
  have hbudget : c.budget ≤ c.limit.toNat := Nat.min_le_left _ _
  have hshallow := gives_joinedAtoms (gives_atom_inner c c.budget) ts s rest hread
  exact hshallow.mono (by omega)

end Source

/-! ## Faults of depth -/

/-- The visits of a walk over a query: at which depth it works on an expression or a source, and how
often the operator changes along the chain that starts there. -/
def Query.visits (q : Query) : List (Nat × Nat) :=
  (q.expressions.flatMap (Expr.visits 1)).map (fun v => (v.1, v.2.operatorChanges)) ++
    (q.source.visits 1).map fun v => (v.1, v.2.jointChanges)

theorem Query.mem_visits_of_expression {q : Query} {e : Expr} (he : e ∈ q.expressions)
    {v : Nat × Expr} (hv : v ∈ e.visits 1) : (v.1, v.2.operatorChanges) ∈ q.visits :=
  List.mem_append_left _ (List.mem_map.mpr ⟨v, List.mem_flatMap.mpr ⟨e, he, hv⟩, rfl⟩)

theorem Query.mem_visits_of_source {q : Query} {v : Nat × Source} (hv : v ∈ q.source.visits 1) :
    (v.1, v.2.jointChanges) ∈ q.visits :=
  List.mem_append_right _ (List.mem_map.mpr ⟨v, hv, rfl⟩)

/-- A fault that is worded as one of depth is one, under the limit in force, and a visit accounts
for it. -/
structure Query.Accounts (q : Query) (limit : Nat) (f : Fault) : Prop where
  worded : ∀ l, f.message = (Obstacle.tooDeep l).message →
    f = .obstacle (.tooDeep limit) ∨ f = .obstacle (.chainTooDeep limit)
  deep : f = .obstacle (.tooDeep limit) → ∃ v ∈ q.visits, limit < v.1
  chain : f = .obstacle (.chainTooDeep limit) → ∃ v ∈ q.visits, limit < v.1 + v.2

namespace Fault

/-- A literal starts with the first of the characters it lists. -/
theorem head?_literal {c : Char} {cs : List Char} :
    (String.ofList (c :: cs)).toList.head? = some c := by
  rw [String.toList_ofList]
  rfl

/-- A literal ends in the last of the characters it lists. -/
theorem getLast?_literal {c : Char} {cs : List Char} (h : cs.getLast? = some c) :
    (String.ofList cs).toList.getLast? = some c := by
  rw [String.toList_ofList, h]

theorem head?_append {c : Char} {text : String} (h : text.toList.head? = some c) (more : String) :
    (text ++ more).toList.head? = some c := by
  rw [String.toList_append, List.head?_append, h]
  rfl

theorem getLast?_append {c : Char} {text : String} (h : text.toList.getLast? = some c)
    (before : String) : (before ++ text).toList.getLast? = some c := by
  rw [String.toList_append, List.getLast?_append, h]
  rfl

/-- A fault that is none of depth. -/
def IsOther : Fault → Prop
  | .malformed _ | .obstacle (.tooDeep _) | .obstacle (.chainTooDeep _) => False
  | _ => True

theorem IsOther.message_ne {f : Fault} (h : f.IsOther) (l : Nat) :
    f.message ≠ (Obstacle.tooDeep l).message := by
  have hfirst : (Obstacle.tooDeep l).message.toList.head? = some 'Q' :=
    head?_append (head?_append head?_literal _) _
  have hlast : (Obstacle.tooDeep l).message.toList.getLast? = some 's' := getLast?_append (getLast?_literal rfl) _
  have hne : ∀ c, f.message.toList.head? = some c → c ≠ 'Q' →
      f.message ≠ (Obstacle.tooDeep l).message := by
    intro c hc hcq heq
    rw [heq, hfirst] at hc
    exact hcq (Option.some.inj hc).symm
  cases f with
  | malformed e => exact h.elim
  | unsupported u =>
      cases u with
      | header keyword =>
          intro heq
          have hstop : (Fault.unsupported (.header keyword)).message.toList.getLast? = some '.' :=
            getLast?_append (getLast?_literal rfl) _
          rw [heq, hlast] at hstop
          cases hstop
      | limit amount => exact hne 'L' (head?_append head?_literal _) (by decide)
  | obstacle o =>
      cases o with
      | tooDeep => exact h.elim
      | chainTooDeep => exact h.elim
      | foreignField label => exact hne 'U' (head?_append head?_literal _) (by decide)
      | foreignSource label => exact hne 'U' (head?_append head?_literal _) (by decide)
      | foreignOperation text => exact hne 'U' (head?_append head?_literal _) (by decide)
  | numeral k =>
      cases k with
      | tooManyDigits count =>
          refine hne 'E' (head?_append (head?_append (head?_append ?_ _) _) _) (by decide)
          exact head?_append (head?_append head?_literal _) _
      | tooLongToWrite =>
          exact hne 'E' (head?_append (head?_append (head?_append head?_literal _) _) _) (by decide)
      | notAnInteger base word =>
          exact hne 'i' (head?_append (head?_append (head?_append head?_literal _) _) _) (by decide)
      | notAReal word => exact hne 'c' (head?_append head?_literal _) (by decide)
  | tooLarge => exact hne 'i' head?_literal (by decide)
  | noOperand => exact hne 'l' head?_literal (by decide)
  | tooDeepToWrite => exact hne 'q' head?_literal (by decide)

end Fault

theorem Query.accounts_of_isOther {q : Query} {limit : Nat} {f : Fault} (h : f.IsOther) :
    q.Accounts limit f where
  worded l hl := absurd hl (h.message_ne l)
  deep hf := by
    rw [hf] at h
    exact h.elim
  chain hf := by
    rw [hf] at h
    exact h.elim

theorem Query.accounts_of_deep {q : Query} {limit : Nat} {v : Nat × Nat} (hv : v ∈ q.visits)
    (hlt : limit < v.1) : q.Accounts limit (.obstacle (.tooDeep limit)) where
  worded _ _ := .inl rfl
  deep _ := ⟨v, hv, hlt⟩
  chain := nofun

theorem Query.accounts_of_chain {q : Query} {limit : Nat} {v : Nat × Nat} (hv : v ∈ q.visits)
    (hlt : limit < v.1 + v.2) : q.Accounts limit (.obstacle (.chainTooDeep limit)) where
  worded _ _ := .inr rfl
  deep := nofun
  chain _ := ⟨v, hv, hlt⟩

namespace Work

variable {s : Settings} {q : Query} {inView : Option Bool} {w : Workspace} {f : Fault}

/-- What stalls at a limit is no fault of depth. -/
theorem Stalls.isOther {depth : Nat} {op : Operation} (h : Stalls s depth op f) : f.IsOther := by
  obtain rfl | ⟨k, rfl⟩ := h.tooLarge_or_numeral <;> trivial

/-- Whenever the work on a query fails for its depth, one of its visits is too deep. -/
theorem accounts_of_fails_base (hf : Fails (base s q inView) w f) :
    q.Accounts s.treeLimit f := by
  have hother : ∀ {f : Fault}, f.IsOther → q.Accounts s.treeLimit f := Query.accounts_of_isOther
  have hexpressions : ∀ e ∈ q.expressions,
      OnlyFaults (q.Accounts s.treeLimit) (e.condition s.treeLimit 0) := by
    intro e he
    have hplain : OnlyFaults (q.Accounts s.treeLimit) e.plain :=
      e.onlyFaults_plain (fun _ _ => hother trivial) (.inl fun _ => hother trivial)
    refine (e.bounded_lower .alone 0).onlyFaults hplain ?_ ?_
    · intro v hv hlt
      rw [Expr.start_alone] at hv
      exact Query.accounts_of_deep (Query.mem_visits_of_expression he hv) hlt
    · intro v hv hlt
      rw [Expr.start_alone] at hv
      exact Query.accounts_of_chain (Query.mem_visits_of_expression he hv) hlt
  have hsource : OnlyFaults (q.Accounts s.treeLimit) (q.source.condition s.treeLimit 0) := by
    have hplain : OnlyFaults (q.Accounts s.treeLimit) q.source.plain :=
      Source.onlyFaults_plain (hother trivial) (fun _ => hother trivial) q.source
    refine (q.source.bounded_lower false 0).onlyFaults hplain ?_ ?_
    · intro v hv hlt
      rw [Source.start_false] at hv
      exact Query.accounts_of_deep (Query.mem_visits_of_source hv) hlt
    · intro v hv hlt
      rw [Source.start_false] at hv
      exact Query.accounts_of_chain (Query.mem_visits_of_source hv) hlt
  have hlenient : Lenient (q.Accounts s.treeLimit) s q :=
    lenient_of_forall (fun _ => hother trivial) (fun _ => hother trivial) s q
  rcases fails_base hlenient hexpressions hsource hf with h | ⟨_, _, _, _, _, _, -, -, -, hstalls⟩
  · exact h
  · exact hother hstalls.isOther

end Work

/-! ## Queries that are read -/

theorem Query.visits_le_of_read {text : String} {limit : Int} {q : Query}
    (hread : Query.read text limit = .ok q) : ∀ v ∈ q.visits, v.1 ≤ 6 * limit.toNat + 7 := by
  have hexpression : ∀ c : Clause, c.limit = limit →
      Gives (Expr.Shallow (6 * limit.toNat + 7)) (Expr.expression c) := by
    rintro c rfl ts e rest he
    exact Expr.shallow_of_expression he
  have hsource : ∀ c : Clause, c.limit = limit →
      Gives (Source.Shallow (limit.toNat + 2)) (Source.source c) := by
    rintro c rfl
    exact Source.gives_source c
  obtain ⟨hexpressions, hfrom⟩ :=
    Query.given_of_read hexpression hsource (TakesLevels.leaf fun _ => rfl) hread
  intro v hv
  rcases List.mem_append.mp hv with hv | hv
  · obtain ⟨u, hu, rfl⟩ := List.mem_map.mp hv
    obtain ⟨e, he, hu⟩ := List.mem_flatMap.mp hu
    have hlt := hexpressions e he 1 u hu
    show u.1 ≤ _
    omega
  · obtain ⟨u, hu, rfl⟩ := List.mem_map.mp hv
    have hlt := hfrom 1 u hu
    show u.1 ≤ _
    omega

/-- A query that is read under the nesting limit `n` is worked on at depths of at most `6 * n + 7`.
The work on it fails for its depth only if a visit is too deep; so under a tree limit of at least
that much no step down is refused, and a query that is said to be nested deeper has a chain that
starts within the limit and changes its operator too often. -/
theorem read_is_shallow {text : String} {limit : Int} {q : Query}
    (hread : Query.read text limit = .ok q) :
    (∀ v ∈ q.visits, v.1 ≤ 6 * limit.toNat + 7) ∧
      ∀ (s : Settings) (inView : Option Bool) (w : Workspace) (f : Fault),
        Work.Fails (Work.base s q inView) w f →
          q.Accounts s.treeLimit f ∧
            (6 * limit.toNat + 7 ≤ s.treeLimit →
              (∀ l, f ≠ .obstacle (.tooDeep l)) ∧
                ∀ l, f.message = (Obstacle.tooDeep l).message →
                  f = .obstacle (.chainTooDeep s.treeLimit) ∧
                    ∃ v ∈ q.visits, v.1 ≤ s.treeLimit ∧ s.treeLimit < v.1 + v.2) := by
  have hvisits := Query.visits_le_of_read hread
  refine ⟨hvisits, fun s inView w f hf => ?_⟩
  have haccounts := Work.accounts_of_fails_base hf
  refine ⟨haccounts, fun hlimit => ?_⟩
  have hshallow : f ≠ .obstacle (.tooDeep s.treeLimit) := by
    intro hdeep
    obtain ⟨v, hv, hlt⟩ := haccounts.deep hdeep
    have hle := hvisits v hv
    omega
  have hchain : ∀ l, f.message = (Obstacle.tooDeep l).message →
      f = .obstacle (.chainTooDeep s.treeLimit) :=
    fun l hl => (haccounts.worded l hl).resolve_left hshallow
  constructor
  · rintro l rfl
    cases hchain l rfl
  · intro l hl
    have hfault := hchain l hl
    obtain ⟨v, hv, hlt⟩ := haccounts.chain hfault
    exact ⟨hfault, v, hv, (hvisits v hv).trans hlimit, hlt⟩

/-- A query whose first condition is as deep as one open level allows, and whose second changes its
operator thirteen times. -/
def steepText : String :=
  "TABLE a FROM #b&-#c WHERE a&1=1+1*f(a&1=1+1*[[n]].k).k WHERE a&b|a&b|a&b|a&b|a&b|a&b|a&b|a"

/-- Whether a query is read that reaches a depth and fails at a chain under that limit. -/
def failsAtChain (limit : Nat) : Except Fault Query → Bool
  | .error _ => false
  | .ok q => q.visits.any (·.1 == limit) && match q.toBase { treeLimit := limit } none with
    | .ok _ => false
    | .error f => f == .obstacle (.chainTooDeep limit)

theorem read_is_shallow_steep :
    (∃ q, Query.read steepText 1 = .ok q ∧ (∃ v ∈ q.visits, v.1 = 6 * 1 + 7) ∧
      Work.Fails (Work.base { treeLimit := 13 } q none) {} (.obstacle (.chainTooDeep 13)) ∧
        (∀ v ∈ q.visits, v.1 ≤ 6 * 1 + 7) ∧ ∃ v ∈ q.visits, v.1 ≤ 13 ∧ 13 < v.1 + v.2) ∧
      6 * ({} : Settings).nestingLimit + 7 ≤ ({} : Settings).treeLimit := by
  refine ⟨?_, by decide⟩
  have hchain : failsAtChain 13 (Query.read steepText 1) = true := by decide +kernel
  cases hread : Query.read steepText 1 with
  | error f =>
      rw [hread] at hchain
      cases hchain
  | ok q =>
      simp only [hread, failsAtChain, Bool.and_eq_true, List.any_eq_true, beq_iff_eq] at hchain
      obtain ⟨hdeep, hbase⟩ := hchain
      split at hbase
      case h_1 => cases hbase
      case h_2 f hf =>
          obtain rfl := beq_iff_eq.mp hbase
          obtain ⟨hvisits, hfails⟩ := read_is_shallow hread
          obtain ⟨-, hlimit⟩ := hfails { treeLimit := 13 } none {} _ hf
          exact ⟨q, rfl, hdeep, hf, hvisits, ((hlimit (by decide)).2 13 rfl).2⟩

end VaultQuery
