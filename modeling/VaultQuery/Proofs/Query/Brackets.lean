import VaultQuery.Proofs.Expr.Derived
import VaultQuery.Proofs.Query.Reorder

/-!
Brackets among the tokens of a query.  Tokens are balanced if every bracket has its partner; the
brackets that a cut into segments holds open are those that still wait for theirs (`Waits`).  So the
tokens of a query are cut exactly if they are balanced, into balanced segments that begin at the
clause words outside of all brackets; and a cut that fails points to the first bracket that closes
none, or else to the last one that is left open (`segments_partition`).
-/

namespace VaultQuery

namespace Token

/-! ## Balanced tokens -/

/-- Tokens in which each bracket has its partner, and those between two partners as well. -/
inductive Balanced : List Token → Prop
  | nil : Balanced []
  | token {t : Token} {ts : List Token} : t.kind.isOpener = false → t.kind.opener? = none →
      Balanced ts → Balanced (t :: ts)
  | pair {o c : Token} {inside ts : List Token} : o.kind.isOpener = true →
      c.kind.opener? = some o.kind → Balanced inside → Balanced ts →
      Balanced (o :: (inside ++ c :: ts))

/-- How many more brackets tokens open than they close. -/
def bracketDepth (ts : List Token) : Int :=
  ts.countP (·.kind.isOpener) - ts.countP (·.kind.opener?.isSome)

/-- The last bracket that tokens open and do not close. -/
def IsInnermost (ts : List Token) (o : Token) : Prop :=
  ∃ before inside, ts = before ++ o :: inside ∧ o.kind.isOpener = true ∧ Balanced inside

/-- A token that closes the last bracket that the tokens before it leave open. -/
def Closes (before : List Token) (t : Token) : Prop :=
  ∃ o, IsInnermost before o ∧ t.kind.opener? = some o.kind

/-- Every closing bracket closes the last one that is open before it. -/
def AllClose (ts : List Token) : Prop :=
  ∀ before t after, ts = before ++ t :: after → t.kind.opener?.isSome = true → Closes before t

/-- The bracket that is at fault: the first closing one that does not close the last open one or,
if each of them does, the last one that is left open. -/
inductive AtFault (ts : List Token) (t : Token) : Prop
  | closing {before after : List Token} : ts = before ++ t :: after →
      t.kind.opener?.isSome = true → AllClose before → ¬ Closes before t → AtFault ts t
  | opening : AllClose ts → IsInnermost ts t → AtFault ts t

theorem isOpener_of_opener? {k kind : Kind} (h : k.opener? = some kind) : k.isOpener = false := by
  cases k <;> first | rfl | cases h

theorem opener?_of_isOpener {k : Kind} (h : k.isOpener = true) : k.opener? = none := by
  cases k <;> first | rfl | cases h

section Depth

theorem bracketDepth_append (ts us : List Token) :
    bracketDepth (ts ++ us) = bracketDepth ts + bracketDepth us := by
  simp only [bracketDepth, List.countP_append]
  omega

theorem bracketDepth_opener {o : Token} (h : o.kind.isOpener = true) (ts : List Token) :
    bracketDepth (o :: ts) = bracketDepth ts + 1 := by
  simp only [bracketDepth, List.countP_cons, h, opener?_of_isOpener h]
  simp
  omega

theorem bracketDepth_closer {c : Token} {kind : Kind} (h : c.kind.opener? = some kind)
    (ts : List Token) : bracketDepth (c :: ts) = bracketDepth ts - 1 := by
  simp only [bracketDepth, List.countP_cons, h, isOpener_of_opener? h]
  simp
  omega

theorem bracketDepth_other {t : Token} (hopener : t.kind.isOpener = false)
    (hcloser : t.kind.opener? = none) (ts : List Token) :
    bracketDepth (t :: ts) = bracketDepth ts := by
  simp [bracketDepth, hopener, hcloser]

end Depth

namespace Balanced

theorem append {ts us : List Token} (hts : Balanced ts) (hus : Balanced us) :
    Balanced (ts ++ us) := by
  induction hts with
  | nil => exact hus
  | token hopener hcloser _ ih => exact .token hopener hcloser ih
  | pair hopener hcloser hinside _ _ ih =>
      rw [List.cons_append, List.append_assoc, List.cons_append]
      exact .pair hopener hcloser hinside ih

theorem depth_eq {ts : List Token} (h : Balanced ts) : bracketDepth ts = 0 := by
  induction h with
  | nil => rfl
  | token hopener hcloser _ ih => rw [bracketDepth_other hopener hcloser, ih]
  | pair hopener hcloser _ _ ihinside ih =>
      rw [bracketDepth_opener hopener, bracketDepth_append, bracketDepth_closer hcloser, ihinside,
        ih]
      rfl

/-- Balanced tokens close at their end what they open. -/
theorem depth_suffix_le {ts : List Token} (h : Balanced ts) {us : List Token} (hus : us <:+ ts) :
    bracketDepth us ≤ 0 := by
  induction h generalizing us with
  | nil =>
      obtain rfl := List.suffix_nil.mp hus
      exact Int.le_refl 0
  | @token t ts hopener hcloser hts ih =>
      rcases List.suffix_cons_iff.mp hus with rfl | hus
      · exact Int.le_of_eq (token hopener hcloser hts).depth_eq
      · exact ih hus
  | @pair o c inside ts hopener hcloser hinside hts ihinside ih =>
      rcases List.suffix_cons_iff.mp hus with rfl | hus
      · exact Int.le_of_eq (pair hopener hcloser hinside hts).depth_eq
      · obtain ⟨vs, hvs⟩ := hus
        rcases List.append_eq_append_iff.mp hvs with ⟨ws, rfl, rfl⟩ | ⟨ws, rfl, htail⟩
        · have hws := ihinside (List.suffix_append vs ws)
          rw [bracketDepth_append, bracketDepth_closer hcloser, hts.depth_eq]
          omega
        · rcases List.suffix_cons_iff.mp ⟨ws, htail.symm⟩ with rfl | hus
          · rw [bracketDepth_closer hcloser, hts.depth_eq]
            decide
          · exact ih hus

theorem not_isInnermost {ts : List Token} (h : Balanced ts) (o : Token) : ¬ IsInnermost ts o := by
  rintro ⟨before, inside, rfl, hopener, hinside⟩
  have hle := h.depth_suffix_le (List.suffix_append before (o :: inside))
  rw [bracketDepth_opener hopener, hinside.depth_eq] at hle
  omega

end Balanced

theorem IsInnermost.prepend {ts : List Token} {o : Token} (h : IsInnermost ts o)
    (more : List Token) : IsInnermost (more ++ ts) o := by
  obtain ⟨before, inside, rfl, hopener, hinside⟩ := h
  exact ⟨more ++ before, inside, (List.append_assoc _ _ _).symm, hopener, hinside⟩

theorem Closes.prepend {before : List Token} {t : Token} (h : Closes before t)
    (more : List Token) : Closes (more ++ before) t := by
  obtain ⟨o, ho, hkind⟩ := h
  exact ⟨o, ho.prepend more, hkind⟩

theorem Balanced.allClose {ts : List Token} (h : Balanced ts) : AllClose ts := by
  induction h with
  | nil =>
      intro before t after heq
      simp at heq
  | @token t ts hopener hcloser _ ih =>
      intro before u after heq hu
      rcases List.cons_eq_append_iff.mp heq with ⟨rfl, hhead⟩ | ⟨before', rfl, htail⟩
      · obtain ⟨rfl, rfl⟩ := List.cons.inj hhead
        rw [hcloser] at hu
        cases hu
      · exact (ih before' u after htail hu).prepend [t]
  | @pair o c inside ts hopener hcloser hinside _ ihinside ih =>
      intro before u after heq hu
      rcases List.cons_eq_append_iff.mp heq with ⟨rfl, hhead⟩ | ⟨before', rfl, htail⟩
      · obtain ⟨rfl, rfl⟩ := List.cons.inj hhead
        rw [opener?_of_isOpener hopener] at hu
        cases hu
      · rcases List.append_eq_append_iff.mp htail with ⟨ws, rfl, hrest⟩ | ⟨ws, rfl, hrest⟩
        · rcases List.cons_eq_append_iff.mp hrest with ⟨rfl, hhead⟩ | ⟨ws', rfl, htail'⟩
          · obtain ⟨rfl, rfl⟩ := List.cons.inj hhead
            rw [List.append_nil]
            exact ⟨o, ⟨[], inside, rfl, hopener, hinside⟩, hcloser⟩
          · simpa using (ih ws' u after htail' hu).prepend (o :: (inside ++ [c]))
        · rcases List.cons_eq_append_iff.mp hrest with ⟨rfl, hhead⟩ | ⟨ws', rfl, htail'⟩
          · obtain ⟨rfl, rfl⟩ := List.cons.inj hhead
            rw [List.append_nil] at hinside
            exact ⟨o, ⟨[], before', rfl, hopener, hinside⟩, hcloser⟩
          · exact (ihinside before' u ws' rfl hu).prepend [o]

theorem Balanced.not_atFault {ts : List Token} (h : Balanced ts) (t : Token) : ¬ AtFault ts t := by
  intro hfault
  cases hfault with
  | closing heq hcloser _ hnot => exact hnot (h.allClose _ _ _ heq hcloser)
  | opening _ hinnermost => exact h.not_isInnermost t hinnermost

theorem IsInnermost.unique {ts : List Token} {o o' : Token} (h : IsInnermost ts o)
    (h' : IsInnermost ts o') : o = o' := by
  obtain ⟨before, inside, rfl, hopener, hinside⟩ := h
  obtain ⟨before', inside', heq, hopener', hinside'⟩ := h'
  -- of two brackets that are left open, the earlier one has the later one after it
  rcases List.append_eq_append_iff.mp heq with ⟨ws, rfl, hrest⟩ | ⟨ws, rfl, hrest⟩
  · cases ws with
    | nil => exact (List.cons.inj hrest).1
    | cons w ws =>
        obtain ⟨rfl, rfl⟩ := List.cons.inj hrest
        exact absurd ⟨ws, inside', rfl, hopener', hinside'⟩ (hinside.not_isInnermost o')
  · cases ws with
    | nil => exact (List.cons.inj hrest).1.symm
    | cons w ws =>
        obtain ⟨rfl, rfl⟩ := List.cons.inj hrest
        exact absurd ⟨ws, inside, rfl, hopener, hinside⟩ (hinside'.not_isInnermost o)

/-! ## Brackets that wait -/

/-- `Waits ts os`: after the tokens `ts` the brackets `os` wait for their partners, the last one
first. -/
inductive Waits : List Token → List Token → Prop
  | none {ts : List Token} : Balanced ts → Waits ts []
  | more {before inside os : List Token} {o : Token} : Waits before os →
      o.kind.isOpener = true → Balanced inside → Waits (before ++ o :: inside) (o :: os)

namespace Waits

variable {ts os : List Token}

theorem depth_eq (h : Waits ts os) : bracketDepth ts = os.length := by
  induction h with
  | none hts => exact hts.depth_eq
  | more _ hopener hinside ih =>
      rw [bracketDepth_append, bracketDepth_opener hopener, hinside.depth_eq, ih, List.length_cons]
      omega

theorem balanced (h : Waits ts []) : Balanced ts := by
  cases h with
  | none hts => exact hts

theorem isInnermost {o : Token} (h : Waits ts (o :: os)) : IsInnermost ts o := by
  cases h with
  | more _ hopener hinside => exact ⟨_, _, rfl, hopener, hinside⟩

theorem append {us : List Token} (h : Waits ts os) (hus : Balanced us) : Waits (ts ++ us) os := by
  cases h with
  | none hts => exact .none (hts.append hus)
  | more hbefore hopener hinside =>
      rw [List.append_assoc, List.cons_append]
      exact .more hbefore hopener (hinside.append hus)

/-- A closing bracket closes the last one that is open, if there is one of its kind. -/
theorem closes_iff (h : Waits ts os) {t : Token} :
    Closes ts t ↔ ∃ o ∈ os.head?, t.kind.opener? = some o.kind := by
  cases os with
  | nil =>
      constructor
      · intro hcloses
        obtain ⟨o, ho, -⟩ := hcloses
        exact absurd ho (h.balanced.not_isInnermost o)
      · intro hcloses
        obtain ⟨o, ho, -⟩ := hcloses
        cases ho
  | cons o os =>
      constructor
      · intro hcloses
        obtain ⟨o', ho', hkind⟩ := hcloses
        exact ⟨o, rfl, h.isInnermost.unique ho' ▸ hkind⟩
      · intro hcloses
        obtain ⟨o', ho', hkind⟩ := hcloses
        obtain rfl := Option.some.inj ho'
        exact ⟨o, h.isInnermost, hkind⟩

end Waits

/-- The tokens that a cut has passed: its open brackets wait, and every closing one has its
partner. -/
structure Passed (seen opened : List Token) : Prop where
  waits : Waits seen opened
  allClose : AllClose seen

theorem AllClose.concat {ts : List Token} {t : Token} (h : AllClose ts)
    (ht : t.kind.opener?.isSome = true → Closes ts t) : AllClose (ts ++ [t]) := by
  intro before u after heq hu
  rcases List.eq_nil_or_concat after with rfl | ⟨after, v, rfl⟩
  · obtain ⟨rfl, hlast⟩ := List.append_inj' heq rfl
    obtain rfl := (List.cons.inj hlast).1
    exact ht hu
  · rw [List.concat_eq_append, ← List.cons_append, ← List.append_assoc] at heq
    obtain ⟨rfl, -⟩ := List.append_inj' heq rfl
    exact h before u after rfl hu

theorem passed_nil : Passed [] [] :=
  ⟨.none .nil, fun before t after heq => by simp at heq⟩

/-- A token that turns the open brackets is passed. -/
theorem Passed.turn {seen opened opened' : List Token} {t : Token} (h : Passed seen opened)
    (ht : Segment.Turn opened t opened') : Passed (seen ++ [t]) opened' := by
  cases ht with
  | opens hopener =>
      refine ⟨.more h.waits hopener .nil, h.allClose.concat fun hcloser => ?_⟩
      rw [opener?_of_isOpener hopener] at hcloser
      cases hcloser
  | @closes o _ os hcloser =>
      refine ⟨?_, h.allClose.concat fun _ => h.waits.closes_iff.mpr ⟨o, rfl, hcloser⟩⟩
      obtain ⟨hwaits, -⟩ := h
      cases hwaits with
      | more hbefore hopener hinside =>
          rw [List.append_assoc, List.cons_append]
          exact hbefore.append (.pair hopener hcloser hinside .nil)
  | stays hopener hcloser =>
      refine ⟨h.waits.append (.token hopener hcloser .nil), h.allClose.concat fun hsome => ?_⟩
      rw [hcloser] at hsome
      cases hsome

theorem noBracket_of_isHeader {kind : Kind} (h : kind.isHeader = true) :
    kind.isOpener = false ∧ kind.opener? = none := by
  cases kind <;> first | exact ⟨rfl, rfl⟩ | cases h

end Token

open Token

namespace Segment

/-! ## Cutting balanced tokens -/

section Cut

variable {text : String} {opened seen : List Token} {keyword : Token} {body : List Token}

/-- Tokens are cut and balanced together with those before them, or one of them is at fault. -/
theorem cut_cases (text : String) (h : Passed seen opened) (keyword : Token)
    (body ts : List Token) :
    (Balanced (seen ++ ts) ∧ ∃ ss, cut text opened keyword body ts = .ok ss) ∨
      ∃ t, AtFault (seen ++ ts) t ∧ cut text opened keyword body ts =
        .error (Clause.complaintAt text t (.unmatched t.text)) := by
  induction ts generalizing seen opened keyword body with
  | nil =>
      rw [List.append_nil]
      cases opened with
      | nil => exact .inl ⟨h.waits.balanced, _, rfl⟩
      | cons o os => exact .inr ⟨o, .opening h.allClose h.waits.isInnermost, rfl⟩
  | cons t ts ih =>
      have hsplit : seen ++ t :: ts = (seen ++ [t]) ++ ts := by simp
      rcases cut_turn text opened t with ⟨hcloser, hother, hcut⟩ | ⟨opened', hturn, hcut⟩ |
        ⟨rfl, hclause⟩
      · refine .inr ⟨t, .closing rfl hcloser h.allClose fun hcloses => ?_, hcut _ _ _⟩
        obtain ⟨o, ho, hkind⟩ := h.waits.closes_iff.mp hcloses
        exact hother o ho hkind
      · rw [hsplit, hcut]
        exact ih (h.turn hturn) keyword (t :: body)
      · obtain ⟨hopener, hcloser⟩ := noBracket_of_isClause hclause
        rw [hsplit, cut_clause hclause]
        rcases ih (h.turn (.stays hopener hcloser)) t [] with
          ⟨hbalanced, ss, hss⟩ | ⟨u, hfault, hss⟩
        · exact .inl ⟨hbalanced, _, by rw [hss]; rfl⟩
        · exact .inr ⟨u, hfault, by rw [hss]; rfl⟩

theorem cut_eq_ok_iff_balanced {ts : List Token} :
    (∃ ss, cut text [] keyword body ts = .ok ss) ↔ Balanced ts := by
  rcases cut_cases text passed_nil keyword body ts with
    ⟨hbalanced, hss⟩ | ⟨t, hfault, hcut⟩
  · exact ⟨fun _ => hbalanced, fun _ => hss⟩
  · constructor
    · intro hss
      obtain ⟨ss, hss⟩ := hss
      rw [hcut] at hss
      cases hss
    · intro hbalanced
      exact absurd hfault (hbalanced.not_atFault t)

/-- What begins with a clause word is not cut into one segment. -/
theorem cut_clause_ne {t : Token} (h : t.kind.isClause = true) (ts : List Token) (s : Segment) :
    cut text [] keyword body (t :: ts) ≠ .ok [s] := by
  intro hcut
  rw [cut_clause h] at hcut
  obtain ⟨rest, hrest, heq⟩ := map_eq_ok.mp hcut
  obtain ⟨own, others, rfl, -⟩ := parts_of_cut hrest
  cases heq

/-- A cut into one segment passes all of its tokens. -/
theorem passed_of_cut (h : Passed seen opened) {before rest : List Token} {s : Segment}
    (hcut : cut text opened keyword body (before ++ rest) = .ok [s]) :
    ∃ opened', Passed (seen ++ before) opened' ∧
      cut text opened' keyword (before.reverse ++ body) rest = .ok [s] := by
  induction before generalizing seen opened body with
  | nil => exact ⟨opened, by rwa [List.append_nil], hcut⟩
  | cons t before ih =>
      rw [List.cons_append] at hcut
      rcases cut_turn text opened t with ⟨-, -, herror⟩ | ⟨opened', hturn, hnext⟩ | ⟨rfl, hclause⟩
      · rw [herror] at hcut
        cases hcut
      · rw [hnext] at hcut
        obtain ⟨opened'', hpassed, hrest⟩ := ih (h.turn hturn) hcut
        refine ⟨opened'', by simpa using hpassed, ?_⟩
        rwa [List.reverse_cons, List.append_assoc]
      · exact absurd hcut (cut_clause_ne hclause _ s)

/-- No clause word stands outside of the brackets. -/
def IsUndivided (ts : List Token) : Prop :=
  ∀ before t after, ts = before ++ t :: after → t.kind.isClause = true → bracketDepth before ≠ 0

/-- A segment is cut into nothing but itself if its body is balanced and not divided. -/
theorem isWhole_iff {s : Segment} :
    s.IsWhole text ↔ Balanced s.body ∧ IsUndivided s.body := by
  constructor
  · intro h
    refine ⟨cut_eq_ok_iff_balanced.mp ⟨_, h⟩, fun before t after hbody hclause hdepth => ?_⟩
    rw [IsWhole, hbody] at h
    obtain ⟨opened, hpassed, hrest⟩ := passed_of_cut passed_nil h
    have hlength : (opened.length : Int) = 0 := hpassed.waits.depth_eq.symm.trans hdepth
    obtain rfl := List.eq_nil_of_length_eq_zero (Int.ofNat_eq_zero.mp hlength)
    exact cut_clause_ne hclause _ s hrest
  · intro h
    obtain ⟨hbalanced, hundivided⟩ := h
    obtain ⟨ss, hss⟩ : ∃ ss, cut text [] s.keyword [] s.body = .ok ss :=
      cut_eq_ok_iff_balanced.mpr hbalanced
    obtain ⟨own, others, rfl, hbody, hown, hothers⟩ := parts_of_cut hss
    cases others with
    | nil =>
        rw [List.flatMap_nil, List.append_nil] at hbody
        rw [IsWhole, hss, ← hbody]
        rfl
    | cons other others =>
        have hclause := (hothers other List.mem_cons_self).2
        have hdepth := (cut_eq_ok_iff_balanced.mp ⟨_, hown⟩).depth_eq
        exact absurd hdepth (hundivided own _ _ hbody hclause)

theorem balanced_tokens {s : Segment} (hopener : s.keyword.kind.isOpener = false)
    (hcloser : s.keyword.kind.opener? = none) (h : Balanced s.body) : Balanced s.tokens :=
  .token hopener hcloser h

theorem balanced_flatMap {ss : List Segment} (h : ∀ s ∈ ss, Balanced s.tokens) :
    Balanced (ss.flatMap tokens) := by
  induction ss with
  | nil => exact .nil
  | cons s ss ih =>
      obtain ⟨hs, hss⟩ := List.forall_mem_cons.mp h
      exact hs.append (ih hss)

end Cut

/-- Segments that are the tokens of a query in order: each body is balanced and not divided, and
after the header each segment begins with a clause word outside of the brackets. -/
structure Partitions (header : Token) (body : List Token) (ss : List Segment) : Prop where
  tokens : ss.flatMap tokens = header :: body
  balanced : ∀ s ∈ ss, Balanced s.body
  undivided : ∀ s ∈ ss, IsUndivided s.body
  keyword : ∀ before s after, ss = before ++ s :: after → before ≠ [] →
    s.keyword.kind.isClause = true ∧ bracketDepth (before.flatMap Segment.tokens) = 0

theorem cut_eq_ok_iff_partitions {text : String} {header : Token}
    (hheader : header.kind.isHeader = true) {body : List Token} {ss : List Segment} :
    cut text [] header [] body = .ok ss ↔ Partitions header body ss := by
  constructor
  · intro h
    obtain ⟨own, others, rfl, -⟩ := parts_of_cut h
    obtain ⟨htokens, hhead, hothers⟩ := cut_eq_ok_iff.mp h
    have hwhole : ∀ s ∈ (⟨header, [].reverse ++ own⟩ :: others : List Segment),
        s.IsWhole text := List.forall_mem_cons.mpr ⟨hhead, fun s hs => (hothers s hs).1⟩
    have hbalanced : ∀ s ∈ (⟨header, [].reverse ++ own⟩ :: others : List Segment),
        Balanced s.tokens := by
      refine List.forall_mem_cons.mpr ⟨?_, fun s hs => ?_⟩
      · obtain ⟨hopener, hcloser⟩ := noBracket_of_isHeader hheader
        exact balanced_tokens hopener hcloser (isWhole_iff.mp hhead).1
      · obtain ⟨hopener, hcloser⟩ := noBracket_of_isClause (hothers s hs).2
        exact balanced_tokens hopener hcloser (isWhole_iff.mp (hothers s hs).1).1
    refine ⟨htokens.symm, fun s hs => (isWhole_iff.mp (hwhole s hs)).1,
      fun s hs => (isWhole_iff.mp (hwhole s hs)).2, fun before s after heq hne => ?_⟩
    cases before with
    | nil => exact absurd rfl hne
    | cons first before =>
        obtain ⟨rfl, rfl⟩ := List.cons.inj heq
        refine ⟨(hothers s (by simp)).2, (balanced_flatMap fun x hx => hbalanced x ?_).depth_eq⟩
        rw [heq]
        exact List.mem_append_left _ hx
  · intro h
    cases ss with
    | nil => cases h.tokens
    | cons head tail =>
        have hwhole : ∀ s ∈ head :: tail, s.IsWhole text :=
          fun s hs => isWhole_iff.mpr ⟨h.balanced s hs, h.undivided s hs⟩
        refine cut_eq_ok_iff.mpr ⟨h.tokens.symm, hwhole head List.mem_cons_self, fun s hs => ?_⟩
        refine ⟨hwhole s (List.mem_cons_of_mem head hs), ?_⟩
        obtain ⟨before, after, rfl⟩ := List.append_of_mem hs
        exact (h.keyword (head :: before) s after rfl (List.cons_ne_nil _ _)).1

end Segment

namespace Query

/-! ## The segments of a query -/

/-- The segments of the tokens up to the first end of text, that of the header first. -/
def segments (text : String) (tokens : List Token) : Except Fault (List Segment) :=
  let whole := Clause.ofTokens text 0 tokens
  match whole.tokens with
  | [] => .error (Clause.complaintAt text whole.stop (.queryTypeExpected whole.stop.text))
  | first :: rest =>
    if first.kind.isHeader then Segment.cut text [] first [] rest
    else .error (Clause.complaintAt text first (.queryTypeExpected first.text))

/-- The query of segments. -/
def ofSegments (text : String) (limit : Int) : List Segment → Except Fault Query
  | [] => .ok { header := .table [] true }
  | head :: tail => do
    let header ← head.header text limit
    let clauses ← Segment.clauses text limit none tail
    return { header, source := clauses.1.getD .everything, operations := clauses.2 }

/-- A query is read by cutting its tokens and reading the segments. -/
theorem ofTokens_eq (text : String) (limit : Int) (tokens : List Token) :
    ofTokens text limit tokens = segments text tokens >>= ofSegments text limit := by
  have hwhole : (Clause.ofTokens text limit tokens).tokens =
      (Clause.ofTokens text 0 tokens).tokens := rfl
  unfold ofTokens segments
  dsimp only
  rw [hwhole]
  cases (Clause.ofTokens text 0 tokens).tokens with
  | nil => rfl
  | cons first rest =>
      dsimp only
      split
      case isFalse => rfl
      case isTrue =>
          refine bind_congr fun ss => ?_
          cases ss <;> rfl

theorem segments_eq_cut (text : String) {header stop : Token} {body : List Token}
    (hheader : header.kind.isHeader = true) (hbody : ∀ t ∈ body, t.kind ≠ .endOfText)
    (hstop : stop.kind = .endOfText) :
    segments text (header :: (body ++ [stop])) = Segment.cut text [] header [] body := by
  have hkind : header.kind ≠ .endOfText := by
    intro h
    rw [h] at hheader
    cases hheader
  have hwhole : (Clause.ofTokens text 0 (header :: body ++ [stop])).tokens = header :: body :=
    Expr.tokens_ofTokens (List.forall_mem_cons.mpr ⟨hkind, hbody⟩) hstop text 0
  unfold segments
  dsimp only
  rw [← List.cons_append, hwhole]
  dsimp only
  rw [if_pos hheader]

end Query

/-- The tokens of a query, which begin with a header word and have one end of text at the end, are
cut into segments exactly if the brackets after the header word are balanced.  The segments are then
those into which these tokens are partitioned; and if there are none, the complaint is about the
bracket at fault. -/
theorem segments_partition (text : String) {header stop : Token} {body : List Token}
    (hheader : header.kind.isHeader = true) (hbody : ∀ t ∈ body, t.kind ≠ .endOfText)
    (hstop : stop.kind = .endOfText) :
    ((∃ ss, Query.segments text (header :: (body ++ [stop])) = .ok ss) ↔ Balanced body) ∧
      (∀ ss, Query.segments text (header :: (body ++ [stop])) = .ok ss ↔
        Segment.Partitions header body ss) ∧
      ∀ f, Query.segments text (header :: (body ++ [stop])) = .error f →
        ∃ t, AtFault body t ∧ f = Clause.complaintAt text t (.unmatched t.text) := by
  rw [Query.segments_eq_cut text hheader hbody hstop]
  refine ⟨Segment.cut_eq_ok_iff_balanced, fun ss => Segment.cut_eq_ok_iff_partitions hheader,
    fun f hf => ?_⟩
  rcases Segment.cut_cases text passed_nil header [] body with
    ⟨-, ss, hss⟩ | ⟨t, hfault, herror⟩
  · rw [hss] at hf
    cases hf
  · rw [herror] at hf
    exact ⟨t, hfault, (Except.error.inj hf).symm⟩

/-- The word of a table, at no known place. -/
def tableWord : Token :=
  ⟨.table, "TABLE", 0, 0, 0, 0⟩

/-- The end of the tokens of a query, at no known place. -/
def endMark : Token :=
  ⟨.endOfText, "", 0, 0, 0, 0⟩

/-- A call with a clause word in the brackets of its argument: `f(a[WHERE])`. -/
def guardedCall : List Token :=
  [⟨.identifier, "f", 0, 0, 0, 0⟩, ⟨.parenOpen, "(", 0, 0, 0, 0⟩, ⟨.identifier, "a", 0, 0, 0, 0⟩,
    ⟨.bracketOpen, "[", 0, 0, 0, 0⟩, ⟨.whereClause, "WHERE", 0, 0, 0, 0⟩,
    ⟨.bracketClose, "]", 0, 0, 0, 0⟩, ⟨.parenClose, ")", 0, 0, 0, 0⟩]

/-- Brackets that cross: `([)]`. -/
def crossedBrackets : List Token :=
  [⟨.parenOpen, "(", 0, 0, 0, 0⟩, ⟨.bracketOpen, "[", 0, 0, 0, 0⟩,
    ⟨.parenClose, ")", 0, 0, 0, 0⟩, ⟨.bracketClose, "]", 0, 0, 0, 0⟩]

theorem segments_partition_guarded :
    Segment.Partitions tableWord (guardedCall ++ mixedClauses.flatMap Segment.tokens)
        (⟨tableWord, guardedCall⟩ :: mixedClauses) ∧
      ¬ Balanced crossedBrackets ∧ ∃ t, AtFault crossedBrackets t ∧ t.text = ")" := by
  have hheader : tableWord.kind.isHeader = true := rfl
  have hstop : endMark.kind = .endOfText := rfl
  have hclauses : ∀ t ∈ guardedCall ++ mixedClauses.flatMap Segment.tokens,
      t.kind ≠ .endOfText := by decide
  have hguarded := segments_partition "" hheader hclauses hstop
  have hbrackets : ∀ t ∈ crossedBrackets, t.kind ≠ .endOfText := by decide
  have hcrossed := segments_partition "" hheader hbrackets hstop
  obtain ⟨hbalanced, -, hfault⟩ := hcrossed
  refine ⟨(hguarded.2.1 _).mp rfl, fun h => ?_, ?_⟩
  · obtain ⟨ss, hss⟩ := hbalanced.mpr h
    cases hss
  · obtain ⟨t, ht, hcomplaint⟩ := hfault _ rfl
    have hlocated := congrArg Located.complaint (Fault.malformed.inj hcomplaint)
    exact ⟨t, ht, (Complaint.unmatched.inj hlocated).symm⟩

end VaultQuery
