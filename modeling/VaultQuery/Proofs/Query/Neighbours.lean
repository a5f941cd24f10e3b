import Mathlib.Data.List.Chain
import Mathlib.Data.List.TakeWhile
import VaultQuery.Proofs.Query.Given
import VaultQuery.Proofs.Query.Reorder
import VaultQuery.Proofs.Source.Grammar

/-!
Which tokens of a query stand side by side.  Between two names there is always something else: in
the grammars of expressions and of sources everything is put together around tokens that are none
(`Expr.Derivation.namesApart`, `Source.Derivation.namesApart`), and the readers of the clauses add
nothing but commas, aliases and the directions of sort keys (`Query.namesApart_of_ofTokens`).
-/

namespace VaultQuery

/-! ## Names side by side -/

/-- Of two neighbours one is no name, or the second one is a direction. -/
def Apart (t u : Token) : Prop :=
  t.kind = .identifier → u.kind = .identifier → (Segment.direction? u.text).isSome = true

/-- No name stands right after another one, directions excepted. -/
def NamesApart (ts : List Token) : Prop :=
  ts.IsChain Apart

section NamesApart

variable {t : Token} {ts us : List Token} {kind : Token.Kind}

theorem namesApart_nil : NamesApart [] :=
  .nil

theorem namesApart_singleton (t : Token) : NamesApart [t] :=
  .singleton t

/-- Tokens with one between them that is no name. -/
theorem NamesApart.append_cons (hts : NamesApart ts) (ht : t.kind = kind)
    (hkind : kind ≠ .identifier) (hus : NamesApart us) : NamesApart (ts ++ t :: us) := by
  subst ht
  refine List.isChain_append.mpr ⟨hts, List.isChain_cons.mpr ⟨?_, hus⟩, ?_⟩
  · intro u _ hname
    exact absurd hname hkind
  · intro u _ t' hmem _ hname
    obtain rfl : t = t' := by simpa using hmem
    exact absurd hname hkind

theorem NamesApart.cons (ht : t.kind = kind) (hkind : kind ≠ .identifier)
    (hts : NamesApart ts) : NamesApart (t :: ts) :=
  namesApart_nil.append_cons ht hkind hts

theorem NamesApart.concat (hts : NamesApart ts) (ht : t.kind = kind)
    (hkind : kind ≠ .identifier) : NamesApart (ts ++ [t]) :=
  hts.append_cons ht hkind namesApart_nil

/-- A direction may stand after a name. -/
theorem NamesApart.concat_direction (hts : NamesApart ts)
    (ht : (Segment.direction? t.text).isSome = true) : NamesApart (ts ++ [t]) := by
  refine List.isChain_append.mpr ⟨hts, namesApart_singleton t, ?_⟩
  intro u _ t' hmem _ _
  obtain rfl : t = t' := by simpa using hmem
  exact ht

end NamesApart

theorem ne_identifier_of_isHeader {kind : Token.Kind} (h : kind.isHeader = true) :
    kind ≠ .identifier := by
  rintro rfl
  cases h

theorem ne_identifier_of_isClause {kind : Token.Kind} (h : kind.isClause = true) :
    kind ≠ .identifier := by
  rintro rfl
  cases h

/-! ## Expressions -/

namespace Expr

theorem ne_identifier_of_operator? {k : Nat} {kind : Token.Kind} {op : BinOp}
    (h : operator? k kind = some op) : kind ≠ .identifier := by
  rintro rfl
  unfold operator? at h
  split at h <;> cases h

theorem namesApart_of_amount? {ts : List Token} {d : Duration} (h : amount? ts = some d) :
    NamesApart ts := by
  have hpair : ∀ {n u : Token} {d : Duration}, amount? [n, u] = some d → NamesApart [n, u] := by
    intro n u d h
    rw [amount?] at h
    split at h
    case isTrue hk => exact .cons hk.1 (by decide) (namesApart_singleton u)
    case isFalse => cases h
  unfold amount? at h
  split at h
  case h_1 n u => exact hpair h
  case h_2 m n u =>
      split at h
      case isTrue hm =>
          obtain ⟨d, hd, -⟩ := Option.map_eq_some_iff.mp h
          exact .cons hm (by decide) (hpair hd)
      case isFalse => cases h
  case h_3 => cases h

mutual

/-- No two names stand side by side in an expression. -/
theorem Derivation.namesApart {k : Nat} {ts : List Token} {e : Expr} (D : Derivation k ts e) :
    NamesApart ts := by
  match D with
  | .access primary parts => exact parts.namesApart primary.namesApart
  | .unsigned child => exact child.namesApart
  | .not t ht child => exact .cons ht (by decide) child.namesApart
  | .minus t ht child => exact .cons ht (by decide) child.namesApart
  | .chain first steps => exact steps.namesApart first.namesApart
termination_by structural D

theorem Steps.namesApart {k : Nat} {us : List Token} {steps : List (BinOp × Expr)}
    (D : Steps k us steps) {ts : List Token} (h : NamesApart ts) : NamesApart (ts ++ us) := by
  match D with
  | .done => rwa [List.append_nil]
  | .step t ht operand more =>
      have hmore := more.namesApart
        (h.append_cons rfl (ne_identifier_of_operator? ht) operand.namesApart)
      rwa [List.append_assoc] at hmore
termination_by structural D

theorem Primary.namesApart {ts : List Token} {e : Expr} (D : Primary ts e) : NamesApart ts := by
  match D with
  | .atom t _ => exact namesApart_singleton t
  | .call name p q _ hp hq items =>
      exact (namesApart_singleton name).append_cons hp (by decide)
        (items.namesApart.concat hq (by decide))
  | .duration name p q _ _ hp hq hd =>
      exact (namesApart_singleton name).append_cons hp (by decide)
        ((namesApart_of_amount? hd).concat hq (by decide))
  | .paren p q hp hq inside =>
      exact .cons hp (by decide) (inside.namesApart.concat hq (by decide))
  | .list p q hp hq items =>
      exact .cons hp (by decide) (items.namesApart.concat hq (by decide))
termination_by structural D

theorem Parts.namesApart {us : List Token} {keys : List Expr} (D : Parts us keys)
    {ts : List Token} (h : NamesApart ts) : NamesApart (ts ++ us) := by
  match D with
  | .done => rwa [List.append_nil]
  | .property t name ht _ rest =>
      have hrest := rest.namesApart (h.append_cons ht (by decide) (namesApart_singleton name))
      rwa [List.append_assoc] at hrest
  | .element p q hp hq key rest =>
      have hrest := rest.namesApart
        (h.append_cons hp (by decide) (key.namesApart.concat hq (by decide)))
      simpa using hrest
termination_by structural D

theorem Items.namesApart {ts : List Token} {es : List Expr} (D : Items ts es) :
    NamesApart ts := by
  match D with
  | .empty => exact namesApart_nil
  | .filled first more => exact more.namesApart first.namesApart
termination_by structural D

theorem More.namesApart {us : List Token} {es : List Expr} (D : More us es) {ts : List Token}
    (h : NamesApart ts) : NamesApart (ts ++ us) := by
  match D with
  | .done => rwa [List.append_nil]
  | .item t ht first more =>
      have hmore := more.namesApart (h.append_cons ht (by decide) first.namesApart)
      rwa [List.append_assoc] at hmore
termination_by structural D

end

end Expr

/-! ## Sources -/

namespace Source

theorem ne_identifier_of_joint? {kind : Token.Kind} {joint : Joint} (h : joint? kind = some joint) :
    kind ≠ .identifier := by
  rintro rfl
  cases h

theorem ne_identifier_of_negates {kind : Token.Kind} (h : negates kind = true) :
    kind ≠ .identifier := by
  rintro rfl
  cases h

mutual

/-- No two names stand side by side in a source. -/
theorem Derivation.namesApart {ts : List Token} {s : Source} (D : Derivation ts s) :
    NamesApart ts := by
  match D with
  | .chain first steps => exact steps.namesApart first.namesApart
termination_by structural D

theorem Steps.namesApart {us : List Token} {steps : List (Joint × Source)} (D : Steps us steps)
    {ts : List Token} (h : NamesApart ts) : NamesApart (ts ++ us) := by
  match D with
  | .done => rwa [List.append_nil]
  | .step t ht operand more =>
      have hmore := more.namesApart
        (h.append_cons rfl (ne_identifier_of_joint? ht) operand.namesApart)
      rwa [List.append_assoc] at hmore
termination_by structural D

theorem Atom.namesApart {ts : List Token} {s : Source} (D : Atom ts s) : NamesApart ts := by
  match D with
  | .named t _ => exact namesApart_singleton t
  | .negated t ht child => exact .cons rfl (ne_identifier_of_negates ht) child.namesApart
  | .paren p q hp hq inside =>
      exact .cons hp (by decide) (inside.namesApart.concat hq (by decide))
termination_by structural D

end

end Source

/-! ## Readers -/

namespace Reader

variable {α : Type}

/-- The names among the tokens that a reader uses up are apart. -/
def ReadsApart (r : Reader α) : Prop :=
  ∀ ts x rest, r ts = .ok (x, rest) → ∃ us, ts = us ++ rest ∧ NamesApart us

theorem readsApart_moreItems {item : Reader α} (h : ReadsApart item) {fuel : Nat}
    {ts rest : List Token} {xs : List α} (hread : moreItems item fuel ts = .ok (xs, rest))
    {vs : List Token} (hvs : NamesApart vs) : ∃ us, ts = us ++ rest ∧ NamesApart (vs ++ us) := by
  have hnone : ∃ us, ts = us ++ ts ∧ NamesApart (vs ++ us) := ⟨[], rfl, by rwa [List.append_nil]⟩
  induction fuel generalizing ts xs vs with
  | zero =>
      cases hread
      exact hnone
  | succ fuel ih =>
      cases ts with
      | nil =>
          cases hread
          exact hnone
      | cons t ts =>
          rw [moreItems] at hread
          split at hread
          case isFalse =>
              cases hread
              exact hnone
          case isTrue hk =>
              obtain ⟨⟨x, ts₁⟩, hx, hread⟩ := bind_eq_ok.mp hread
              obtain ⟨⟨xs, ts₂⟩, hxs, hread⟩ := bind_eq_ok.mp hread
              cases hread
              obtain ⟨us, rfl, hus⟩ := h _ _ _ hx
              have hitem := hvs.append_cons hk (by decide) hus
              obtain ⟨ws, rfl, hws⟩ := ih hxs hitem ⟨[], rfl, by rwa [List.append_nil]⟩
              exact ⟨t :: (us ++ ws), by simp, by simpa using hws⟩

theorem readsApart_items {item : Reader α} (h : ReadsApart item) : ReadsApart (items item) := by
  intro ts xs rest hread
  obtain ⟨⟨x, ts₁⟩, hx, hread⟩ := bind_eq_ok.mp hread
  obtain ⟨⟨xs, ts₂⟩, hxs, hread⟩ := bind_eq_ok.mp hread
  cases hread
  obtain ⟨us, rfl, hus⟩ := h _ _ _ hx
  obtain ⟨ws, rfl, hws⟩ := readsApart_moreItems h hxs hus
  exact ⟨us ++ ws, by rw [List.append_assoc], hws⟩

theorem readsApart_expression (c : Clause) : ReadsApart (Expr.expression c) := by
  intro ts e rest hread
  rw [Expr.expression, ← Expr.rankReader_loosest] at hread
  obtain ⟨us, D, heq, -⟩ := Expr.rankReader_sound c c.budget Expr.loosest _ _ _ hread
  exact ⟨us, heq, D.namesApart⟩

theorem readsApart_source (c : Clause) : ReadsApart (Source.source c) := by
  intro ts s rest hread
  rw [Source.source] at hread
  obtain ⟨us, D, heq, -⟩ :=
    Source.joinedAtoms_reads (Source.inner?_reads c c.budget) _ _ _ hread
  exact ⟨us, heq, D.namesApart⟩

theorem readsApart_namedField (c : Clause) : ReadsApart (Expr.namedField c) := by
  intro ts f rest hread
  obtain ⟨⟨e, ts₁⟩, he, htail⟩ := bind_eq_ok.mp hread
  obtain ⟨us, rfl, hus⟩ := readsApart_expression c _ _ _ he
  cases ts₁ with
  | nil =>
      cases htail
      exact ⟨us, rfl, hus⟩
  | cons t more =>
      dsimp only at htail
      split at htail
      case isFalse =>
          cases htail
          exact ⟨us, rfl, hus⟩
      case isTrue hk =>
          cases more with
          | nil => cases htail
          | cons a after =>
              dsimp only at htail
              split at htail
              case isFalse => cases htail
              case isTrue =>
                  cases htail
                  exact ⟨us ++ [t, a], by simp,
                    hus.append_cons hk (by decide) (namesApart_singleton a)⟩

theorem readsApart_sortField (c : Clause) : ReadsApart (Segment.sortField c) := by
  intro ts f rest hread
  obtain ⟨⟨e, ts₁⟩, he, htail⟩ := bind_eq_ok.mp hread
  obtain ⟨us, rfl, hus⟩ := readsApart_expression c _ _ _ he
  cases ts₁ with
  | nil =>
      cases htail
      exact ⟨us, rfl, hus⟩
  | cons t more =>
      dsimp only at htail
      split at htail
      case h_1 d hd =>
          cases htail
          split at hd
          case isTrue => exact ⟨us ++ [t], by simp, hus.concat_direction (by rw [hd]; rfl)⟩
          case isFalse => cases hd
      case h_2 =>
          cases htail
          exact ⟨us, rfl, hus⟩

/-- What may stand after the word `WITHOUT ID`. -/
theorem readsApart_withoutId {r : Reader α} (h : ReadsApart r) {β : Type} (bare : Bool → β)
    (make : α → Bool → β) :
    ReadsApart fun ts =>
      if (Segment.withoutId ts).2.isEmpty then pure (bare (Segment.withoutId ts).1, [])
      else r (Segment.withoutId ts).2 >>= fun x =>
        pure (make x.1 (Segment.withoutId ts).1, x.2) := by
  have hplain : ∀ {ts : List Token} {showId : Bool} {x : β} {rest : List Token},
      (if ts.isEmpty then pure (bare showId, [])
        else r ts >>= fun x => pure (make x.1 showId, x.2) : Except Fault _) = .ok (x, rest) →
      ∃ us, ts = us ++ rest ∧ NamesApart us := by
    intro ts showId x rest hread
    split at hread
    case isTrue hempty =>
        cases hread
        exact ⟨[], by simpa using hempty, namesApart_nil⟩
    case isFalse =>
        obtain ⟨⟨a, ts₁⟩, ha, htail⟩ := bind_eq_ok.mp hread
        cases htail
        exact h _ _ _ ha
  intro ts x rest hread
  obtain ⟨us, heq, hus⟩ := hplain hread
  cases ts with
  | nil => exact ⟨us, heq, hus⟩
  | cons t ts =>
      rw [Segment.withoutId] at heq
      split at heq
      case isTrue hk => exact ⟨t :: us, congrArg (t :: ·) heq, hus.cons hk (by decide)⟩
      case isFalse => exact ⟨us, heq, hus⟩

theorem readsApart_tableFields (c : Clause) : ReadsApart (Segment.tableFields c) :=
  readsApart_withoutId (readsApart_items (readsApart_namedField c)) (Header.table []) Header.table

theorem readsApart_listFormat (c : Clause) : ReadsApart (Segment.listFormat c) :=
  readsApart_withoutId (readsApart_expression c) (Header.list none)
    fun format => Header.list (some format)

end Reader

/-! ## Segments -/

namespace Segment

variable {text : String} {limit : Int} {s : Segment}

theorem namesApart_of_readAll {α : Type} {c : Clause} {name : String} {r : Reader α} {x : α}
    (h : r.ReadsApart) (hread : readAll c name r = .ok x) : NamesApart c.tokens := by
  obtain ⟨us, heq, hus⟩ := h _ _ _ (Expr.readAll_eq_ok.mp hread)
  rw [heq, List.append_nil]
  exact hus

theorem namesApart_of_header {header : Header} (hread : s.header text limit = .ok header) :
    NamesApart (s.clause text limit).tokens := by
  unfold Segment.header at hread
  split at hread
  case h_1 =>
      obtain ⟨_, hfinish, -⟩ := bind_eq_ok.mp hread
      cases htokens : (s.clause text limit).tokens with
      | nil => exact namesApart_nil
      | cons t ts =>
          rw [htokens] at hfinish
          cases hfinish
  case h_2 =>
      obtain ⟨c, hc, htail⟩ := bind_eq_ok.mp hread
      obtain ⟨field, hfield, -⟩ := bind_eq_ok.mp htail
      obtain rfl := eq_clause_of_filledClause hc
      exact namesApart_of_readAll (Reader.readsApart_namedField _) hfield
  case h_3 => exact namesApart_of_readAll (Reader.readsApart_listFormat _) hread
  case h_4 => exact namesApart_of_readAll (Reader.readsApart_tableFields _) hread

theorem namesApart_of_source {source : Source} (hread : s.source text limit = .ok source) :
    NamesApart (s.clause text limit).tokens := by
  obtain ⟨c, hc, htail⟩ := bind_eq_ok.mp hread
  obtain rfl := eq_clause_of_filledClause hc
  exact namesApart_of_readAll (Reader.readsApart_source _) htail

theorem namesApart_of_operation {op : Operation} (hread : s.operation text limit = .ok op) :
    NamesApart (s.clause text limit).tokens := by
  obtain ⟨c, hc, htail⟩ := bind_eq_ok.mp hread
  obtain rfl := eq_clause_of_filledClause hc
  split at htail
  all_goals
    obtain ⟨x, hx, -⟩ := bind_eq_ok.mp htail
  case h_1 => exact namesApart_of_readAll (Reader.readsApart_expression _) hx
  case h_2 =>
      exact namesApart_of_readAll (Reader.readsApart_items (Reader.readsApart_sortField _)) hx
  case h_3 => exact namesApart_of_readAll (Reader.readsApart_expression _) hx
  case h_4 => exact namesApart_of_readAll (Reader.readsApart_namedField _) hx
  case h_5 => exact namesApart_of_readAll (Reader.readsApart_namedField _) hx

theorem namesApart_of_clauses {ss : List Segment} {found source : Option Source}
    {ops : List Operation} (hread : clauses text limit found ss = .ok (source, ops)) :
    ∀ s ∈ ss, NamesApart (s.clause text limit).tokens := by
  induction ss generalizing found ops with
  | nil => exact List.forall_mem_nil _
  | cons s ss ih =>
      rcases clauses_cons_eq_ok.mp hread with
        ⟨-, -, x, hx, hrest⟩ | ⟨-, op, rest, hop, hrest, -⟩
      · exact List.forall_mem_cons.mpr ⟨namesApart_of_source hx, ih hrest⟩
      · exact List.forall_mem_cons.mpr ⟨namesApart_of_operation hop, ih hrest⟩

/-- Names are apart in segments one after another if they are in each of them. -/
theorem namesApart_flatMap {ss : List Segment}
    (h : ∀ s ∈ ss, s.keyword.kind ≠ .identifier ∧ NamesApart s.body) {ts : List Token}
    (hts : NamesApart ts) : NamesApart (ts ++ ss.flatMap tokens) := by
  induction ss generalizing ts with
  | nil => rwa [List.flatMap_nil, List.append_nil]
  | cons s ss ih =>
      obtain ⟨⟨hkeyword, hbody⟩, hss⟩ := List.forall_mem_cons.mp h
      have hrest := ih hss (hts.append_cons rfl hkeyword hbody)
      rwa [List.append_assoc] at hrest

end Segment

/-- Names are apart in the tokens of a query that is read. -/
theorem Query.namesApart_of_ofTokens {text : String} {limit : Int} {tokens : List Token}
    {stop : Token} {q : Query} (htokens : ∀ t ∈ tokens, t.kind ≠ .endOfText)
    (hstop : stop.kind = .endOfText)
    (hread : Query.ofTokens text limit (tokens ++ [stop]) = .ok q) : NamesApart tokens := by
  rw [ofTokens, Expr.tokens_ofTokens htokens hstop] at hread
  cases tokens with
  | nil => exact namesApart_nil
  | cons first rest =>
  dsimp only at hread
  split at hread
  case isFalse => cases hread
  case isTrue hfirst =>
  obtain ⟨ss, hcut, htail⟩ := bind_eq_ok.mp hread
  obtain ⟨own, others, rfl, -⟩ := Segment.parts_of_cut hcut
  obtain ⟨hall, -, hothers⟩ := Segment.cut_eq_ok_iff.mp hcut
  obtain ⟨header, hheader, hclauses⟩ := bind_eq_ok.mp htail
  obtain ⟨⟨found, ops⟩, hops, -⟩ := bind_eq_ok.mp hclauses
  have hbody : ∀ s ∈ (⟨first, [].reverse ++ own⟩ :: others : List Segment),
      (s.clause text limit).tokens = s.body := by
    intro s hs
    refine List.takeWhile_eq_self_iff.mpr fun t ht => ?_
    have hmem : t ∈ first :: rest := by
      rw [hall]
      exact List.mem_flatMap.mpr ⟨s, hs, List.mem_cons_of_mem _ ht⟩
    simpa using htokens t hmem
  rw [hall, ← List.nil_append (List.flatMap _ _)]
  refine Segment.namesApart_flatMap (List.forall_mem_cons.mpr ⟨?_, fun s hs => ?_⟩) namesApart_nil
  · rw [← hbody _ List.mem_cons_self]
    exact ⟨ne_identifier_of_isHeader hfirst, Segment.namesApart_of_header hheader⟩
  · rw [← hbody s (List.mem_cons_of_mem _ hs)]
    exact ⟨ne_identifier_of_isClause (hothers s hs).2, Segment.namesApart_of_clauses hops s hs⟩

end VaultQuery
