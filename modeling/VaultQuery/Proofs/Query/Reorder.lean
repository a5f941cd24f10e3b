import VaultQuery.Proofs.Base.Entry
import VaultQuery.Proofs.Expr.Lower
import VaultQuery.Query.Read

/-!
The order of the clauses of a query.  The tokens of a query are cut into segments that are read one
by one, so segments can be put together in any order and are cut again in that order
(`Segment.cut_eq_ok_iff`).  Clauses of different kinds can trade places: the query is read before
exactly if it is read afterwards, and its base is the same (`clauses_commute`).
-/

namespace VaultQuery

namespace Segment

/-- The tokens of a segment, its word first. -/
def tokens (s : Segment) : List Token :=
  s.keyword :: s.body

/-- A segment whose tokens are cut into nothing but the segment. -/
def IsWhole (text : String) (s : Segment) : Prop :=
  cut text [] s.keyword [] s.body = .ok [s]

/-! ## Cutting tokens that were put together -/

section Cut

variable {text : String} {opened : List Token} {keyword : Token} {body : List Token}

theorem noBracket_of_isClause {kind : Token.Kind} (h : kind.isClause = true) :
    kind.isOpener = false ∧ kind.opener? = none := by
  cases kind <;> first | exact ⟨rfl, rfl⟩ | cases h

theorem cut_clause {t : Token} (h : t.kind.isClause = true) (ts : List Token) :
    cut text [] keyword body (t :: ts) =
      (cut text [] t [] ts).map (⟨keyword, body.reverse⟩ :: ·) := by
  obtain ⟨hopener, hcloser⟩ := noBracket_of_isClause h
  simp [cut, hopener, hcloser, h]

/-- What a token that begins no segment does to the open brackets, the last one first: it is put on
them, it takes the last one off, or it leaves them alone. -/
inductive Turn : List Token → Token → List Token → Prop
  | opens {opened : List Token} {t : Token} : t.kind.isOpener = true → Turn opened t (t :: opened)
  | closes {o t : Token} {os : List Token} : t.kind.opener? = some o.kind → Turn (o :: os) t os
  | stays {opened : List Token} {t : Token} : t.kind.isOpener = false → t.kind.opener? = none →
      Turn opened t opened

/-- A token that is refused closes a bracket, but not the last one that is open. -/
theorem cut_turn (text : String) (opened : List Token) (t : Token) :
    (t.kind.opener?.isSome = true ∧ (∀ o ∈ opened.head?, t.kind.opener? ≠ some o.kind) ∧
        ∀ keyword body ts, cut text opened keyword body (t :: ts) =
          .error (Clause.complaintAt text t (.unmatched t.text))) ∨
      (∃ opened', Turn opened t opened' ∧ ∀ keyword body ts,
        cut text opened keyword body (t :: ts) = cut text opened' keyword (t :: body) ts) ∨
      opened = [] ∧ t.kind.isClause = true := by
  cases hopener : t.kind.isOpener with
  | true =>
      refine .inr (.inl ⟨t :: opened, .opens hopener, fun keyword body ts => ?_⟩)
      simp [cut, hopener]
  | false =>
      cases hcloser : t.kind.opener? with
      | some kind =>
          cases opened with
          | nil =>
              refine .inl ⟨rfl, by simp, fun keyword body ts => ?_⟩
              simp [cut, hopener, hcloser]
          | cons o os =>
              by_cases hkind : o.kind = kind
              · refine .inr (.inl ⟨os, .closes (by rw [hcloser, hkind]), fun keyword body ts => ?_⟩)
                simp [cut, hopener, hcloser, hkind]
              · refine .inl ⟨rfl, by simpa using Ne.symm hkind, fun keyword body ts => ?_⟩
                simp [cut, hopener, hcloser, hkind]
      | none =>
          cases opened with
          | nil =>
              cases hclause : t.kind.isClause with
              | true => exact .inr (.inr ⟨rfl, rfl⟩)
              | false =>
                  refine .inr (.inl ⟨[], .stays hopener hcloser, fun keyword body ts => ?_⟩)
                  simp [cut, hopener, hcloser, hclause]
          | cons o os =>
              refine .inr (.inl ⟨o :: os, .stays hopener hcloser, fun keyword body ts => ?_⟩)
              simp [cut, hopener, hcloser]

/-- What a token does to the cut: it is refused, it goes to the body and may open or close a
bracket, or it begins a segment. -/
theorem cut_cons (text : String) (opened : List Token) (t : Token) :
    (∃ f, ∀ keyword body ts, cut text opened keyword body (t :: ts) = .error f) ∨
      (∃ opened', ∀ keyword body ts,
        cut text opened keyword body (t :: ts) = cut text opened' keyword (t :: body) ts) ∨
      opened = [] ∧ t.kind.isClause = true := by
  rcases cut_turn text opened t with ⟨-, -, hcut⟩ | ⟨opened', -, hcut⟩ | hclause
  · exact .inl ⟨_, hcut⟩
  · exact .inr (.inl ⟨opened', hcut⟩)
  · exact .inr (.inr hclause)

/-- Tokens that are cut are those of the first segment, and then those of the other segments. -/
theorem parts_of_cut {ts : List Token} {ss : List Segment}
    (h : cut text opened keyword body ts = .ok ss) :
    ∃ own others, ss = ⟨keyword, body.reverse ++ own⟩ :: others ∧
      ts = own ++ others.flatMap tokens ∧
      cut text opened keyword body own = .ok [⟨keyword, body.reverse ++ own⟩] ∧
      ∀ s ∈ others, s.IsWhole text ∧ s.keyword.kind.isClause = true := by
  induction ts generalizing opened keyword body ss with
  | nil =>
      cases opened with
      | nil =>
          cases h
          exact ⟨[], [], by rw [List.append_nil], rfl, by rw [List.append_nil]; rfl, nofun⟩
      | cons o os => cases h
  | cons t ts ih =>
      rcases cut_cons text opened t with ⟨f, hcut⟩ | ⟨opened', hcut⟩ | ⟨rfl, hclause⟩
      · rw [hcut] at h
        cases h
      · rw [hcut] at h
        obtain ⟨own, others, rfl, rfl, hown, hothers⟩ := ih h
        rw [List.reverse_cons, List.append_assoc] at hown
        refine ⟨t :: own, others, ?_, rfl, (hcut keyword body own).trans hown, hothers⟩
        rw [List.reverse_cons, List.append_assoc]
        rfl
      · rw [cut_clause hclause] at h
        obtain ⟨rest, hrest, rfl⟩ := map_eq_ok.mp h
        obtain ⟨own, others, rfl, rfl, hown, hothers⟩ := ih hrest
        refine ⟨[], ⟨t, own⟩ :: others, ?_, rfl, ?_, ?_⟩
        · rw [List.append_nil]
          rfl
        · rw [List.append_nil]
          rfl
        · exact List.forall_mem_cons.mpr ⟨⟨hown, hclause⟩, hothers⟩

/-- The tokens of one segment leave no bracket open and begin no other segment. -/
theorem cut_append {own : List Token} {s : Segment}
    (h : cut text opened keyword body own = .ok [s]) (more : List Token) :
    cut text opened keyword body (own ++ more) =
      cut text [] keyword (own.reverse ++ body) more := by
  induction own generalizing opened body with
  | nil =>
      cases opened with
      | nil => rfl
      | cons o os => cases h
  | cons t own ih =>
      rcases cut_cons text opened t with ⟨f, hcut⟩ | ⟨opened', hcut⟩ | ⟨rfl, hclause⟩
      · rw [hcut] at h
        cases h
      · rw [hcut] at h
        rw [List.cons_append, hcut, ih h, List.reverse_cons, List.append_assoc]
        rfl
      · rw [cut_clause hclause] at h
        obtain ⟨rest, hrest, heq⟩ := map_eq_ok.mp h
        obtain ⟨own', others, rfl, -⟩ := parts_of_cut hrest
        cases heq

theorem cut_flatMap {ss : List Segment}
    (h : ∀ s ∈ ss, s.IsWhole text ∧ s.keyword.kind.isClause = true) :
    cut text [] keyword body (ss.flatMap tokens) = .ok (⟨keyword, body.reverse⟩ :: ss) := by
  induction ss generalizing keyword body with
  | nil => rfl
  | cons s ss ih =>
      obtain ⟨⟨hwhole, hclause⟩, hrest⟩ := List.forall_mem_cons.mp h
      have hs : cut text [] s.keyword [] (s.body ++ ss.flatMap tokens) = .ok (s :: ss) := by
        rw [cut_append hwhole, ih hrest, List.append_nil, List.reverse_reverse]
      show cut text [] keyword body (s.keyword :: (s.body ++ ss.flatMap tokens)) = _
      rw [cut_clause hclause, hs]
      rfl

/-- Tokens are cut into segments exactly if they are those of the segments, one after another, each
of the segments is cut into nothing but itself, and all but the first begin with a clause word. -/
theorem cut_eq_ok_iff {first : Token} {ts : List Token} {head : Segment} {ss : List Segment} :
    cut text [] first [] ts = .ok (head :: ss) ↔
      first :: ts = (head :: ss).flatMap tokens ∧ head.IsWhole text ∧
        ∀ s ∈ ss, s.IsWhole text ∧ s.keyword.kind.isClause = true := by
  constructor
  · intro h
    obtain ⟨own, others, heq, rfl, hown, hothers⟩ := parts_of_cut h
    cases heq
    exact ⟨rfl, hown, hothers⟩
  · rintro ⟨htokens, hhead, hss⟩
    obtain ⟨rfl, rfl⟩ := List.cons.inj htokens
    show cut text [] head.keyword [] (head.body ++ ss.flatMap tokens) = _
    rw [cut_append hhead, cut_flatMap hss, List.append_nil, List.reverse_reverse]

end Cut

/-! ## Reading clauses in another order -/

section Clauses

variable {text : String} {limit : Int}

theorem clauses_cons_eq_ok {found source : Option Source} {s : Segment} {ss : List Segment}
    {ops : List Operation} :
    clauses text limit found (s :: ss) = .ok (source, ops) ↔
      s.keyword.kind = .fromClause ∧ found = none ∧
          (∃ x, s.source text limit = .ok x ∧
            clauses text limit (some x) ss = .ok (source, ops)) ∨
        s.keyword.kind ≠ .fromClause ∧
          ∃ op rest, s.operation text limit = .ok op ∧
            clauses text limit found ss = .ok (source, rest) ∧ ops = op :: rest := by
  by_cases hfrom : s.keyword.kind = .fromClause
  · cases found with
    | some x => simp [clauses, hfrom]
    | none => simp [clauses, hfrom, bind_eq_ok]
  · simp only [clauses, hfrom, if_false, false_and, false_or, ne_eq, not_false_eq_true, true_and,
      bind_eq_ok]
    constructor
    · rintro ⟨op, hop, ⟨found', rest⟩, hrest, h⟩
      cases h
      exact ⟨op, rest, hop, hrest, rfl⟩
    · rintro ⟨op, rest, hop, hrest, rfl⟩
      exact ⟨op, hop, (source, rest), hrest, rfl⟩

/-- The clause word of the operations that fill a slot. -/
def word : Work.Slot → Token.Kind
  | .kept => .whereClause
  | .sort => .sortClause
  | .limit => .limitClause
  | .groupBy => .groupBy

theorem kind_of_slot? {s : Segment} {op : Operation} {slot : Work.Slot}
    (h : s.operation text limit = .ok op) (hslot : op.slot? = some slot) :
    s.keyword.kind = word slot := by
  obtain ⟨c, -, hread⟩ := bind_eq_ok.mp h
  split at hread
  case h_5 =>
      obtain ⟨x, -, hread⟩ := bind_eq_ok.mp hread
      cases hread
      cases hslot
  all_goals
    rename_i hkind
    obtain ⟨x, -, hread⟩ := bind_eq_ok.mp hread
    cases hread
    cases hslot
    exact hkind

/-- The same clauses, those of each kind in the same order. -/
def Rearranged (ss ss' : List Segment) : Prop :=
  ∀ kind, ss.filter (·.keyword.kind = kind) = ss'.filter (·.keyword.kind = kind)

theorem Rearranged.symm {ss ss' : List Segment} (h : Rearranged ss ss') : Rearranged ss' ss :=
  fun kind => (h kind).symm

theorem Rearranged.mem {ss ss' : List Segment} (h : Rearranged ss ss') {s : Segment}
    (hs : s ∈ ss) : s ∈ ss' := by
  have hfilter : s ∈ ss.filter (·.keyword.kind = s.keyword.kind) :=
    List.mem_filter.mpr ⟨hs, decide_eq_true rfl⟩
  rw [h s.keyword.kind] at hfilter
  exact (List.mem_filter.mp hfilter).1

end Clauses

end Segment

namespace Work

/-! ## Operations in another order -/

/-- Entries into different slots can trade places. -/
theorem Slots.put_comm (slots : Slots) {x y : Entry}
    (h : ∀ slot, x.slot? = some slot → y.slot? ≠ some slot) :
    (slots.put x).put y = (slots.put y).put x := by
  cases x <;> cases y <;> first | rfl | exact absurd rfl (h _ rfl)

/-- Operations that leave the same from every state, or fail from the same states. -/
def Alike (ops ops' : List Operation) : Prop :=
  ∀ s slots w slots', Yields (operations s slots ops) w slots' ↔
    Yields (operations s slots ops') w slots'

theorem Alike.cons {ops ops' : List Operation} (h : Alike ops ops') (op : Operation) :
    Alike (op :: ops) (op :: ops') := by
  intro s slots w slots'
  show Yields (operation s slots op >>= fun middle => operations s middle ops) w slots' ↔
    Yields (operation s slots op >>= fun middle => operations s middle ops') w slots'
  rw [yields_bind, yields_bind]
  simp only [h s]

theorem alike_swap {op op' : Operation} (ops : List Operation)
    (h : ∀ slot, op.slot? = some slot → op'.slot? ≠ some slot) :
    Alike (op :: op' :: ops) (op' :: op :: ops) := by
  -- the other direction is the same with the two operations exchanged
  have hswap : ∀ (a a' : Operation), (∀ slot, a.slot? = some slot → a'.slot? ≠ some slot) →
      ∀ s slots w slots', Yields (operations s slots (a :: a' :: ops)) w slots' →
        Yields (operations s slots (a' :: a :: ops)) w slots' := by
    intro a a' ha s slots w slots' hyields
    obtain ⟨_, hentries, rfl⟩ := (yields_operations_iff _).mp hyields
    cases hentries with
    | @cons _ x _ _ hx hentries =>
        cases hentries with
        | @cons _ y _ zs hy hzs =>
            refine (yields_operations_iff _).mpr ⟨y :: x :: zs, .cons hy (.cons hx hzs), ?_⟩
            have hput := slots.put_comm (x := x) (y := y) fun slot hslot =>
              hy.slot?_eq ▸ ha slot (hx.slot?_eq ▸ hslot)
            rw [List.foldl_cons, List.foldl_cons, hput]
            rfl
  intro s slots w slots'
  exact ⟨hswap op op' h s slots w slots',
    hswap op' op (fun slot h' hop => h slot hop h') s slots w slots'⟩

/-- Queries that differ in operations which are alike have the same base, or none. -/
theorem yields_base_iff_of_alike {s : Settings} {header : Header} {source : Source}
    {ops ops' : List Operation} (h : Alike ops ops') {inView : Option Bool} {w : Workspace}
    {b : Base Condition} :
    Yields (base s { header, source, operations := ops } inView) w b ↔
      Yields (base s { header, source, operations := ops' } inView) w b := by
  -- one direction, for any two lists of operations
  have hone : ∀ l l' : List Operation, Alike l l' →
      Yields (base s { header, source, operations := l } inView) w b →
        Yields (base s { header, source, operations := l' } inView) w b := by
    intro l l' hl hyields
    obtain ⟨display, condition, table, hheader, hsource, xs, hxs, rfl⟩ :=
      yields_base_iff.mp hyields
    have hslots : Yields (operations s {} l) table _ :=
      (yields_operations_iff l).mpr ⟨xs, hxs, rfl⟩
    obtain ⟨ys, hys, heq⟩ := (yields_operations_iff l').mp ((hl s {} table _).mp hslots)
    exact yields_base_iff.mpr ⟨display, condition, table, hheader, hsource, ys, hys, by rw [heq]⟩
  exact ⟨hone ops ops' h, hone ops' ops fun s slots w slots' => (h s slots w slots').symm⟩

end Work

namespace Segment

section Carried

variable {text : String} {limit : Int} {ss ss' : List Segment}

/-- If clauses are read, so are others, with the same source and operations that are alike. -/
def Carried (text : String) (limit : Int) (ss ss' : List Segment) : Prop :=
  ∀ found source ops, clauses text limit found ss = .ok (source, ops) →
    ∃ ops', clauses text limit found ss' = .ok (source, ops') ∧ Work.Alike ops ops'

theorem Carried.refl (ss : List Segment) : Carried text limit ss ss :=
  fun _ _ ops h => ⟨ops, h, fun _ _ _ _ => Iff.rfl⟩

theorem Carried.trans {ss'' : List Segment} (h : Carried text limit ss ss')
    (h' : Carried text limit ss' ss'') : Carried text limit ss ss'' := by
  intro found source ops hread
  obtain ⟨ops', hread', halike⟩ := h found source ops hread
  obtain ⟨ops'', hread'', halike'⟩ := h' found source ops' hread'
  exact ⟨ops'', hread'', fun s slots w slots' =>
    (halike s slots w slots').trans (halike' s slots w slots')⟩

theorem Carried.cons (h : Carried text limit ss ss') (s : Segment) :
    Carried text limit (s :: ss) (s :: ss') := by
  intro found source ops hread
  rcases clauses_cons_eq_ok.mp hread with ⟨hfrom, hfound, x, hx, hrest⟩ |
    ⟨hfrom, op, rest, hop, hrest, rfl⟩
  · obtain ⟨ops', hread', halike⟩ := h _ source ops hrest
    exact ⟨ops', clauses_cons_eq_ok.mpr (.inl ⟨hfrom, hfound, x, hx, hread'⟩), halike⟩
  · obtain ⟨rest', hread', halike⟩ := h found source rest hrest
    exact ⟨op :: rest', clauses_cons_eq_ok.mpr (.inr ⟨hfrom, op, rest', hop, hread', rfl⟩),
      halike.cons op⟩

/-- Neighbours of different kinds can trade places. -/
theorem carried_swap {s s' : Segment} (h : s.keyword.kind ≠ s'.keyword.kind)
    (ss : List Segment) : Carried text limit (s :: s' :: ss) (s' :: s :: ss) := by
  intro found source ops hread
  rcases clauses_cons_eq_ok.mp hread with ⟨hfrom, hfound, x, hx, hrest⟩ |
    ⟨hfrom, op, rest, hop, hrest, rfl⟩
  · rcases clauses_cons_eq_ok.mp hrest with ⟨hfrom', -⟩ | ⟨hfrom', op', rest', hop', hrest', rfl⟩
    · exact absurd (hfrom.trans hfrom'.symm) h
    · have hs := clauses_cons_eq_ok.mpr (.inl ⟨hfrom, hfound, x, hx, hrest'⟩)
      exact ⟨_, clauses_cons_eq_ok.mpr (.inr ⟨hfrom', op', rest', hop', hs, rfl⟩),
        fun _ _ _ _ => Iff.rfl⟩
  · rcases clauses_cons_eq_ok.mp hrest with ⟨hfrom', hfound', x', hx', hrest'⟩ |
      ⟨hfrom', op', rest', hop', hrest', rfl⟩
    · have hs := clauses_cons_eq_ok.mpr (.inr ⟨hfrom, op, rest, hop, hrest', rfl⟩)
      exact ⟨_, clauses_cons_eq_ok.mpr (.inl ⟨hfrom', hfound', x', hx', hs⟩),
        fun _ _ _ _ => Iff.rfl⟩
    · have hs := clauses_cons_eq_ok.mpr (.inr ⟨hfrom, op, rest', hop, hrest', rfl⟩)
      refine ⟨_, clauses_cons_eq_ok.mpr (.inr ⟨hfrom', op', _, hop', hs, rfl⟩), ?_⟩
      refine Work.alike_swap rest' fun slot hslot hslot' => ?_
      exact h ((kind_of_slot? hop hslot).trans (kind_of_slot? hop' hslot').symm)

/-- The first clause can move behind clauses of other kinds. -/
theorem carried_bubble {s : Segment} {before : List Segment}
    (h : ∀ s' ∈ before, s.keyword.kind ≠ s'.keyword.kind) (after : List Segment) :
    Carried text limit (s :: (before ++ after)) (before ++ s :: after) := by
  induction before with
  | nil => exact .refl _
  | cons s' before ih =>
      obtain ⟨hs', hbefore⟩ := List.forall_mem_cons.mp h
      exact (carried_swap hs' _).trans ((ih hbefore).cons s')

/-- The first clause is also the first one of its kind in the other order, and both lists are
rearrangements without it. -/
theorem Rearranged.cons_inv {s : Segment} (h : Rearranged (s :: ss) ss') :
    ∃ before after, ss' = before ++ s :: after ∧
      (∀ s' ∈ before, s.keyword.kind ≠ s'.keyword.kind) ∧ Rearranged ss (before ++ after) := by
  have hkind := h s.keyword.kind
  rw [List.filter_cons_of_pos (by simp)] at hkind
  obtain ⟨before, after, rfl, hbefore, -, -⟩ := List.filter_eq_cons_iff.mp hkind.symm
  refine ⟨before, after, rfl, fun s' hs' heq => hbefore s' hs' (by simp [heq]), fun kind => ?_⟩
  have hfilter := h kind
  rw [List.filter_append, List.filter_cons, List.filter_cons] at hfilter
  rw [List.filter_append]
  by_cases hs : s.keyword.kind = kind
  · have hnone : before.filter (·.keyword.kind = kind) = [] := by
      rw [List.filter_eq_nil_iff]
      intro s' hs' heq
      exact hbefore s' hs' (by simpa [hs] using heq)
    simp only [hs, decide_true, if_true, hnone, List.nil_append, List.cons.injEq,
      true_and] at hfilter
    rw [hnone, hfilter, List.nil_append]
  · simpa only [hs, decide_false, Bool.false_eq_true, if_false] using hfilter

theorem carried_of_rearranged (h : Rearranged ss ss') : Carried text limit ss ss' := by
  induction ss generalizing ss' with
  | nil =>
      cases ss' with
      | nil => exact .refl _
      | cons s' ss' => cases h.symm.mem List.mem_cons_self
  | cons s ss ih =>
      obtain ⟨before, after, rfl, hbefore, hrest⟩ := h.cons_inv
      exact ((ih hrest).cons s).trans (carried_bubble hbefore after)

end Carried

end Segment

/-! ## Queries -/

namespace Query

section Segmented

variable {text : String} {tokens : List Token} {head : Segment} {ss ss' : List Segment}

/-- The tokens up to the first end of text begin with a header word and are cut into the segment of
the header and the segments of the clauses. -/
def Segmented (text : String) (tokens : List Token) (head : Segment) (ss : List Segment) : Prop :=
  ∃ first rest, tokens.takeWhile (·.kind != .endOfText) = first :: rest ∧
    first.kind.isHeader = true ∧ Segment.cut text [] first [] rest = .ok (head :: ss)

/-- The tokens of a header and of clauses, followed by what follows the tokens of a query. -/
def withClauses (tokens : List Token) (head : Segment) (ss : List Segment) : List Token :=
  (head :: ss).flatMap Segment.tokens ++ tokens.dropWhile (·.kind != .endOfText)

theorem Segmented.rearranged (h : Segmented text tokens head ss)
    (hss : Segment.Rearranged ss ss') : Segmented text (withClauses tokens head ss') head ss' := by
  obtain ⟨first, rest, htokens, hheader, hcut⟩ := h
  obtain ⟨hall, hwhole, hclauses⟩ := Segment.cut_eq_ok_iff.mp hcut
  have hbody : ∀ t ∈ (head :: ss').flatMap Segment.tokens, (t.kind != .endOfText) = true := by
    intro t ht
    obtain ⟨s, hs, ht⟩ := List.mem_flatMap.mp ht
    have hs : s ∈ head :: ss := by
      rcases List.mem_cons.mp hs with rfl | hs
      · exact List.mem_cons_self
      · exact List.mem_cons_of_mem head (hss.symm.mem hs)
    have htoken : t ∈ tokens.takeWhile (·.kind != .endOfText) := by
      rw [htokens, hall]
      exact List.mem_flatMap.mpr ⟨s, hs, ht⟩
    exact List.all_eq_true.mp List.all_takeWhile t htoken
  have hfirst : first = head.keyword := (List.cons.inj hall).1
  refine ⟨first, head.body ++ ss'.flatMap Segment.tokens, ?_, hheader, ?_⟩
  · rw [hfirst]
    show _ = (head :: ss').flatMap Segment.tokens
    rw [withClauses, List.takeWhile_append_of_pos hbody]
    have hnone :
        (tokens.dropWhile (·.kind != .endOfText)).takeWhile (·.kind != .endOfText) = [] := by
      have hhead := tokens.head?_dropWhile_not (·.kind != .endOfText)
      cases hdrop : tokens.dropWhile (·.kind != .endOfText) with
      | nil => rfl
      | cons t ts =>
          rw [hdrop] at hhead
          exact List.takeWhile_cons_of_neg (by rw [hhead]; exact Bool.false_ne_true)
    rw [hnone, List.append_nil]
  · refine Segment.cut_eq_ok_iff.mpr ⟨by rw [hfirst]; rfl, hwhole, fun s hs => ?_⟩
    exact hclauses s (hss.symm.mem hs)

/-- Tokens that are cut are read segment by segment. -/
theorem ofTokens_eq_ok_iff {limit : Int} (h : Segmented text tokens head ss) {q : Query} :
    ofTokens text limit tokens = .ok q ↔
      head.header text limit = .ok q.header ∧
        ∃ source, Segment.clauses text limit none ss = .ok (source, q.operations) ∧
          q.source = source.getD .everything := by
  obtain ⟨first, rest, htokens, hheader, hcut⟩ := h
  have hwhole : (Clause.ofTokens text limit tokens).tokens = first :: rest := htokens
  have hread : ofTokens text limit tokens = (do
      let header ← head.header text limit
      let clauses ← Segment.clauses text limit none ss
      return { header, source := clauses.1.getD .everything, operations := clauses.2 }) := by
    simp only [ofTokens, hwhole, hheader, if_true, hcut]
    rfl
  rw [hread, bind_eq_ok]
  constructor
  · rintro ⟨header, hhead, h⟩
    obtain ⟨⟨source, ops⟩, hclauses, h⟩ := bind_eq_ok.mp h
    cases h
    exact ⟨hhead, source, hclauses, rfl⟩
  · rintro ⟨hhead, source, hclauses, hsource⟩
    refine ⟨q.header, hhead, bind_eq_ok.mpr ⟨_, hclauses, ?_⟩⟩
    rw [← hsource]
    rfl

end Segmented

end Query

/-- Clauses of different kinds commute: the query of the rearranged tokens is read exactly if that
of the tokens is, and then the two have the same base under all settings, or none. -/
theorem clauses_commute {text : String} {tokens : List Token} {head : Segment}
    {ss ss' : List Segment} (limit : Int) (h : Query.Segmented text tokens head ss)
    (hss : Segment.Rearranged ss ss') :
    (∃ f f', Query.ofTokens text limit tokens = .error f ∧
        Query.ofTokens text limit (Query.withClauses tokens head ss') = .error f') ∨
      ∃ q q', Query.ofTokens text limit tokens = .ok q ∧
        Query.ofTokens text limit (Query.withClauses tokens head ss') = .ok q' ∧
        ∀ s inView w b, Work.Yields (Work.base s q inView) w b ↔
          Work.Yields (Work.base s q' inView) w b := by
  have h' := h.rearranged hss
  cases hread : Query.ofTokens text limit tokens with
  | ok q =>
      obtain ⟨hheader, source, hclauses, hsource⟩ := (Query.ofTokens_eq_ok_iff h).mp hread
      obtain ⟨ops', hclauses', halike⟩ := Segment.carried_of_rearranged hss _ _ _ hclauses
      refine .inr ⟨q, { q with operations := ops' }, rfl, ?_, fun s inView w b => ?_⟩
      · exact (Query.ofTokens_eq_ok_iff h').mpr ⟨hheader, source, hclauses', hsource⟩
      · exact Work.yields_base_iff_of_alike halike
  | error f =>
      cases hread' : Query.ofTokens text limit (Query.withClauses tokens head ss') with
      | error f' => exact .inl ⟨f, f', rfl, rfl⟩
      | ok q' =>
          -- what the rearranged clauses read, the clauses as they stand would read too
          obtain ⟨hheader, source, hclauses, hsource⟩ := (Query.ofTokens_eq_ok_iff h').mp hread'
          obtain ⟨ops, hclauses', -⟩ := Segment.carried_of_rearranged hss.symm _ _ _ hclauses
          have hok : Query.ofTokens text limit tokens = .ok { q' with operations := ops } :=
            (Query.ofTokens_eq_ok_iff h).mpr ⟨hheader, source, hclauses', hsource⟩
          rw [hread] at hok
          cases hok

/-- A segment of a word and one token, at unknown places. -/
def pairSegment (word : Token.Kind) (name : String) (kind : Token.Kind) (value : String) :
    Segment :=
  ⟨⟨word, name, 0, 0, 0, 0⟩, [⟨kind, value, 0, 0, 0, 0⟩]⟩

/-- The header of a table of one column. -/
def oneColumn : Segment :=
  pairSegment .table "TABLE" .identifier "a"

/-- Clauses in no usual order, two of them of one kind. -/
def mixedClauses : List Segment :=
  [pairSegment .whereClause "WHERE" .identifier "b", pairSegment .limitClause "LIMIT" .number "1",
    pairSegment .whereClause "WHERE" .identifier "c", pairSegment .fromClause "FROM" .tag "t"]

/-- The same clauses in the usual order. -/
def sortedClauses : List Segment :=
  [pairSegment .fromClause "FROM" .tag "t", pairSegment .whereClause "WHERE" .identifier "b",
    pairSegment .whereClause "WHERE" .identifier "c", pairSegment .limitClause "LIMIT" .number "1"]

theorem clauses_commute_mixed :
    ∃ q q', Query.ofTokens "" 100 (Query.withClauses [] oneColumn mixedClauses) = .ok q ∧
      Query.ofTokens "" 100 (Query.withClauses [] oneColumn sortedClauses) = .ok q' ∧
      ∀ s inView w b, Work.Yields (Work.base s q inView) w b ↔
        Work.Yields (Work.base s q' inView) w b := by
  have hcut : Query.Segmented "" (Query.withClauses [] oneColumn mixedClauses) oneColumn
      mixedClauses := ⟨_, _, rfl, rfl, rfl⟩
  have hss : Segment.Rearranged mixedClauses sortedClauses := by
    intro kind
    cases kind <;> rfl
  rcases clauses_commute 100 hcut hss with ⟨f, f', hread, -⟩ | hsame
  · cases hread
  · exact hsame

end VaultQuery
