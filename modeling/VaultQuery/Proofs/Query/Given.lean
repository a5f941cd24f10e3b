import VaultQuery.Proofs.Expr.Derived
import VaultQuery.Proofs.Query.Agree

/-!
What the readers of a query give.  The expressions and the source of a query come from the readers
of expressions and of sources, whose clauses all have the limit of the query; so what these give in
every such clause, every part of a query that is read has (`Query.given_of_read`).
-/

namespace VaultQuery

namespace Reader

variable {α β : Type} {Q : α → Prop}

/-- Whatever a reader reads has a property. -/
def Gives (Q : α → Prop) (r : Reader α) : Prop :=
  ∀ ts x rest, r ts = .ok (x, rest) → Q x

theorem gives_moreItems {item : Reader α} (h : Gives Q item) (fuel : Nat) :
    Gives (fun xs => ∀ x ∈ xs, Q x) (moreItems item fuel) := by
  induction fuel with
  | zero =>
      intro ts xs rest hread
      cases hread
      nofun
  | succ fuel ih =>
      intro ts xs rest hread
      cases ts with
      | nil =>
          cases hread
          nofun
      | cons t ts =>
          rw [moreItems] at hread
          split at hread
          case isFalse =>
              cases hread
              nofun
          case isTrue =>
              obtain ⟨⟨y, ts₁⟩, hy, hread⟩ := bind_eq_ok.mp hread
              obtain ⟨⟨ys, ts₂⟩, hys, hread⟩ := bind_eq_ok.mp hread
              cases hread
              exact List.forall_mem_cons.mpr ⟨h _ _ _ hy, ih _ _ _ hys⟩

theorem gives_items {item : Reader α} (h : Gives Q item) :
    Gives (fun xs => ∀ x ∈ xs, Q x) (items item) := by
  intro ts xs rest hread
  obtain ⟨⟨y, ts₁⟩, hy, hread⟩ := bind_eq_ok.mp hread
  obtain ⟨⟨ys, ts₂⟩, hys, hread⟩ := bind_eq_ok.mp hread
  cases hread
  exact List.forall_mem_cons.mpr ⟨h _ _ _ hy, gives_moreItems h _ _ _ _ hys⟩

/-- A chain has a property that its first operand has and that every further operand keeps. -/
theorem gives_chain {operator? : Token.Kind → Option β} {join : β → α → α → α} {operand : Reader α}
    {P : α → Prop} (hoperand : Gives Q operand) (hfirst : ∀ x, Q x → P x)
    (hjoin : ∀ kind op left right, operator? kind = some op → P left → Q right →
      P (join op left right)) : Gives P (chain operator? join operand) := by
  have hmore : ∀ fuel left, P left → Gives P (moreOperands operator? join operand fuel left) := by
    intro fuel
    induction fuel with
    | zero =>
        intro left hleft ts x rest hread
        cases hread
        exact hleft
    | succ fuel ih =>
        intro left hleft ts x rest hread
        cases ts with
        | nil =>
            cases hread
            exact hleft
        | cons t ts =>
            rw [moreOperands] at hread
            split at hread
            case h_1 =>
                cases hread
                exact hleft
            case h_2 op hop =>
                obtain ⟨⟨right, ts₁⟩, hright, hread⟩ := bind_eq_ok.mp hread
                have hjoined := hjoin _ op left right hop hleft (hoperand _ _ _ hright)
                exact ih _ hjoined _ _ _ hread
  intro ts x rest hread
  obtain ⟨⟨first, ts₁⟩, hleft, hread⟩ := bind_eq_ok.mp hread
  exact hmore _ first (hfirst first (hoperand _ _ _ hleft)) _ _ _ hread

end Reader

open Reader

/-! ## Segments -/

namespace Segment

variable {Q : Expr → Prop} {c : Clause} {limit : Int} {text : String} {s : Segment}

theorem given_of_readAll {α : Type} {P : α → Prop} {name : String} {r : Reader α} {x : α}
    (h : Gives P r) (hread : readAll c name r = .ok x) : P x :=
  h _ _ _ (Expr.readAll_eq_ok.mp hread)

theorem gives_namedField (h : Gives Q (Expr.expression c)) :
    Gives (fun field => Q field.field) (Expr.namedField c) := by
  intro ts field rest hread
  obtain ⟨⟨e, rest₁⟩, he, hread⟩ := bind_eq_ok.mp hread
  have hgiven := h _ _ _ he
  dsimp only at hread
  split at hread
  case h_1 =>
      cases hread
      exact hgiven
  case h_2 =>
      split at hread
      case isFalse =>
          cases hread
          exact hgiven
      case isTrue =>
          split at hread
          case h_1 => cases hread
          case h_2 =>
              split at hread
              case isTrue =>
                  cases hread
                  exact hgiven
              case isFalse => cases hread

theorem gives_sortField (h : Gives Q (Expr.expression c)) :
    Gives (fun field => Q field.field) (sortField c) := by
  intro ts field rest hread
  obtain ⟨⟨e, rest₁⟩, he, hread⟩ := bind_eq_ok.mp hread
  have hgiven := h _ _ _ he
  dsimp only at hread
  split at hread
  case h_1 =>
      cases hread
      exact hgiven
  case h_2 =>
      split at hread
      case h_1 =>
          cases hread
          exact hgiven
      case h_2 =>
          cases hread
          exact hgiven

theorem gives_tableFields (h : Gives Q (Expr.expression c)) :
    Gives (fun header => ∀ e ∈ header.expressions, Q e) (tableFields c) := by
  intro ts header rest hread
  unfold tableFields at hread
  dsimp only at hread
  split at hread
  case isTrue =>
      cases hread
      nofun
  case isFalse =>
      obtain ⟨⟨fields, ts₁⟩, hfields, hread⟩ := bind_eq_ok.mp hread
      cases hread
      exact List.forall_mem_map.mpr (gives_items (gives_namedField h) _ _ _ hfields)

theorem gives_listFormat (h : Gives Q (Expr.expression c)) :
    Gives (fun header => ∀ e ∈ header.expressions, Q e) (listFormat c) := by
  intro ts header rest hread
  unfold listFormat at hread
  dsimp only at hread
  split at hread
  case isTrue =>
      cases hread
      nofun
  case isFalse =>
      obtain ⟨⟨format, ts₁⟩, hformat, hread⟩ := bind_eq_ok.mp hread
      cases hread
      exact List.forall_mem_singleton.mpr (h _ _ _ hformat)

theorem eq_clause_of_filledClause (h : s.filledClause text limit = .ok c) :
    c = s.clause text limit := by
  rw [filledClause] at h
  split at h
  case isTrue => cases h
  case isFalse => exact (Except.ok.inj h).symm

theorem given_of_header (h : ∀ c : Clause, c.limit = limit → Gives Q (Expr.expression c))
    {header : Header} (hread : s.header text limit = .ok header) :
    ∀ e ∈ header.expressions, Q e := by
  have hclause := h (s.clause text limit) rfl
  unfold Segment.header at hread
  split at hread
  case h_1 =>
      obtain ⟨_, -, hread⟩ := bind_eq_ok.mp hread
      cases hread
      nofun
  case h_2 =>
      obtain ⟨c, hc, hread⟩ := bind_eq_ok.mp hread
      obtain ⟨field, hfield, hread⟩ := bind_eq_ok.mp hread
      cases hread
      rw [eq_clause_of_filledClause hc] at hfield
      have hgiven : Q field.field :=
        given_of_readAll (P := (Q ·.field)) (gives_namedField hclause) hfield
      exact List.forall_mem_singleton.mpr hgiven
  case h_3 => exact given_of_readAll (gives_listFormat hclause) hread
  case h_4 => exact given_of_readAll (gives_tableFields hclause) hread

theorem given_of_operation (h : ∀ c : Clause, c.limit = limit → Gives Q (Expr.expression c))
    {op : Operation} (hread : s.operation text limit = .ok op) : ∀ e ∈ op.expressions, Q e := by
  have hclause := h (s.clause text limit) rfl
  have hnamed : ∀ field, readAll (s.clause text limit) s.keyword.text
      (Expr.namedField (s.clause text limit)) = .ok field → Q field.field :=
    fun _ hfield => given_of_readAll (P := (Q ·.field)) (gives_namedField hclause) hfield
  obtain ⟨c, hc, hread⟩ := bind_eq_ok.mp hread
  obtain rfl := eq_clause_of_filledClause hc
  split at hread
  case h_1 =>
      obtain ⟨e, he, hread⟩ := bind_eq_ok.mp hread
      cases hread
      exact List.forall_mem_singleton.mpr (given_of_readAll hclause he)
  case h_2 =>
      obtain ⟨fields, hfields, hread⟩ := bind_eq_ok.mp hread
      cases hread
      exact List.forall_mem_map.mpr
        (given_of_readAll (gives_items (gives_sortField hclause)) hfields)
  case h_3 =>
      obtain ⟨e, he, hread⟩ := bind_eq_ok.mp hread
      cases hread
      exact List.forall_mem_singleton.mpr (given_of_readAll hclause he)
  case h_4 =>
      obtain ⟨field, hfield, hread⟩ := bind_eq_ok.mp hread
      cases hread
      exact List.forall_mem_singleton.mpr (hnamed field hfield)
  case h_5 =>
      obtain ⟨field, hfield, hread⟩ := bind_eq_ok.mp hread
      cases hread
      exact List.forall_mem_singleton.mpr (hnamed field hfield)

theorem given_of_clauses {P : Source → Prop}
    (h : ∀ c : Clause, c.limit = limit → Gives Q (Expr.expression c))
    (hsource : ∀ c : Clause, c.limit = limit → Gives P (Source.source c)) (ss : List Segment)
    {found found' : Option Source} {ops : List Operation} (hfound : ∀ src ∈ found, P src)
    (hread : clauses text limit found ss = .ok (found', ops)) :
    (∀ src ∈ found', P src) ∧ ∀ op ∈ ops, ∀ e ∈ op.expressions, Q e := by
  induction ss generalizing found ops with
  | nil =>
      cases hread
      exact ⟨hfound, nofun⟩
  | cons s ss ih =>
      unfold clauses at hread
      split at hread
      case isTrue =>
          split at hread
          case h_1 => cases hread
          case h_2 =>
              obtain ⟨src, hsrc, hread⟩ := bind_eq_ok.mp hread
              obtain ⟨c, hc, hsrc⟩ := bind_eq_ok.mp hsrc
              obtain rfl := eq_clause_of_filledClause hc
              refine ih ?_ hread
              rintro _ ⟨⟩
              exact given_of_readAll (hsource _ rfl) hsrc
      case isFalse =>
          obtain ⟨op, hop, hread⟩ := bind_eq_ok.mp hread
          obtain ⟨⟨found₁, ops₁⟩, hrest, hread⟩ := bind_eq_ok.mp hread
          cases hread
          obtain ⟨hsources, hops⟩ := ih hfound hrest
          exact ⟨hsources, List.forall_mem_cons.mpr ⟨given_of_operation h hop, hops⟩⟩

end Segment

/-! ## Queries -/

/-- What the readers of expressions and sources give, the expressions and the source of a query
have. -/
theorem Query.given_of_read {Q : Expr → Prop} {P : Source → Prop} {text : String} {limit : Int}
    {q : Query} (h : ∀ c : Clause, c.limit = limit → Gives Q (Expr.expression c))
    (hsource : ∀ c : Clause, c.limit = limit → Gives P (Source.source c)) (hbare : P .everything)
    (hread : Query.read text limit = .ok q) : (∀ e ∈ q.expressions, Q e) ∧ P q.source := by
  obtain ⟨tokens, -, hread⟩ := bind_eq_ok.mp hread
  unfold Query.ofTokens at hread
  dsimp only at hread
  split at hread
  case h_1 => cases hread
  case h_2 =>
  split at hread
  case isFalse => cases hread
  case isTrue =>
  obtain ⟨segments, -, hread⟩ := bind_eq_ok.mp hread
  split at hread
  case h_1 =>
      cases hread
      exact ⟨by simp [Query.expressions, Header.expressions], hbare⟩
  case h_2 head tail =>
      obtain ⟨header, hheader, hread⟩ := bind_eq_ok.mp hread
      obtain ⟨⟨found, ops⟩, hclauses, hread⟩ := bind_eq_ok.mp hread
      cases hread
      obtain ⟨hfound, hops⟩ := Segment.given_of_clauses h hsource tail (by simp) hclauses
      refine ⟨List.forall_mem_append.mpr ⟨Segment.given_of_header h hheader, ?_⟩, ?_⟩
      · intro e he
        obtain ⟨op, hop, he⟩ := List.mem_flatMap.mp he
        exact hops op hop e he
      · cases found with
        | none => exact hbare
        | some src => exact hfound src rfl

end VaultQuery
