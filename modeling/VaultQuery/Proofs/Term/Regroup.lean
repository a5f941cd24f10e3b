import VaultQuery.Proofs.Term.Written

/-!
Terms up to the grouping of conjunctions under conjunctions and of disjunctions under disjunctions.
`Term.regrouped` nests every such chain to the left, so two terms differ in that grouping only if
and only if it makes them equal.  `Shows k s t` says that a text is read as a term which `t` agrees
with in this sense.
-/

namespace VaultQuery.Term

/-! ## The normal form -/

/-- One chain of an operator from two, where the second is nested to the left. -/
def graft (symbol : String) (t : Term) : Term → Term
  | .binary s u v =>
    if s = symbol then .binary symbol (graft symbol t u) v else .binary symbol t (.binary s u v)
  | u => .binary symbol t u

theorem graft_assoc (symbol : String) (t u v : Term) :
    graft symbol (graft symbol t u) v = graft symbol t (graft symbol u v) := by
  cases v with
  | binary s l r =>
      by_cases hs : s = symbol
      · simp only [graft, if_pos hs, graft_assoc symbol t u l, if_true]
      · simp only [graft, if_neg hs, if_true]
  | _ => simp only [graft, if_true]

/-- Conjunction and disjunction. -/
def isJunction (symbol : String) : Bool :=
  symbol == "&&" || symbol == "||"

mutual

/-- A term with its conjunctions under conjunctions and its disjunctions under disjunctions nested
to the left. -/
def regrouped : Term → Term
  | .binary symbol t u =>
    if isJunction symbol then graft symbol (regrouped t) (regrouped u)
    else .binary symbol (regrouped t) (regrouped u)
  | .not t => .not (regrouped t)
  | .call f ts => .call f (regroupedAll ts)
  | .list ts => .list (regroupedAll ts)
  | .member t w => .member (regrouped t) w
  | .item t u => .item (regrouped t) (regrouped u)
  | t => t

/-- Each of several terms, regrouped. -/
def regroupedAll : List Term → List Term
  | [] => []
  | t :: ts => regrouped t :: regroupedAll ts

end

/-- Terms joined by an operator, nested to the left. -/
def chain (symbol : String) : List Term → Term
  | [] => .null
  | t :: ts => ts.foldl (.binary symbol) t

theorem regrouped_foldl {symbol : String} (hs : isJunction symbol = true) (ts : List Term) :
    ∀ t : Term, regrouped (ts.foldl (.binary symbol) t) =
      (ts.map regrouped).foldl (graft symbol) (regrouped t) := by
  induction ts with
  | nil => exact fun t => rfl
  | cons u ts ih =>
      intro t
      rw [List.foldl_cons, ih, regrouped, if_pos hs]
      rfl

theorem graft_foldl (symbol : String) (ts : List Term) :
    ∀ t u : Term, graft symbol t (ts.foldl (graft symbol) u) =
      ts.foldl (graft symbol) (graft symbol t u) := by
  induction ts with
  | nil => exact fun t u => rfl
  | cons v ts ih =>
      intro t u
      rw [List.foldl_cons, ih, ← graft_assoc]
      rfl

/-- Two chains in a row are one chain. -/
theorem regrouped_chain_append {symbol : String} (hs : isJunction symbol = true)
    {ts us : List Term} (ht : ts ≠ []) (hu : us ≠ []) :
    regrouped (chain symbol (ts ++ us)) =
      graft symbol (regrouped (chain symbol ts)) (regrouped (chain symbol us)) := by
  obtain ⟨t, ts, rfl⟩ := List.exists_cons_of_ne_nil ht
  obtain ⟨u, us, rfl⟩ := List.exists_cons_of_ne_nil hu
  simp only [chain, List.cons_append, List.foldl_append, List.foldl_cons, regrouped_foldl hs,
    graft_foldl, regrouped, hs, if_true]

/-! ## Texts of regrouped terms -/

/-- The text `s` is read, at rank `k`, as a term that differs from `t` in grouping only. -/
def Shows (k : Nat) (s : String) (t : Term) : Prop :=
  ∃ u, Written k s u ∧ regrouped u = regrouped t

theorem Written.shows {k : Nat} {s : String} {t : Term} (h : Written k s t) : Shows k s t :=
  ⟨t, h, rfl⟩

theorem Shows.mono {j k : Nat} {s : String} {t : Term} (h : Shows j s t) (hle : j ≤ k) :
    Shows k s t := by
  obtain ⟨u, hu, ht⟩ := h
  exact ⟨u, hu.mono hle, ht⟩

theorem Shows.paren {k : Nat} {s : String} {t : Term} (h : Shows k s t) (hk : k ≤ loosest) :
    Shows 0 ("(" ++ s ++ ")") t := by
  obtain ⟨u, hu, ht⟩ := h
  exact ⟨u, (hu.mono hk).paren, ht⟩

theorem Shows.not {s : String} {t : Term} (h : Shows 1 s t) (hs : s.toList.head? ≠ some '=') :
    Shows 1 ("!" ++ s) (.not t) := by
  obtain ⟨u, hu, ht⟩ := h
  exact ⟨.not u, hu.not hs, by rw [regrouped, regrouped, ht]⟩

theorem Shows.binary {k : Nat} {symbol s s' : String} {t t' : Term}
    (hk : rank? symbol = some (k + 1)) (h : Shows (k + 1) s t) (h' : Shows k s' t') :
    Shows (k + 1) (s ++ " " ++ symbol ++ " " ++ s') (.binary symbol t t') := by
  obtain ⟨u, hu, ht⟩ := h
  obtain ⟨u', hu', ht'⟩ := h'
  exact ⟨.binary symbol u u', hu.binary hk hu', by rw [regrouped, regrouped, ht, ht']⟩

/-- Texts that each show a term are read as terms that agree one by one. -/
theorem written_of_shows {k : Nat} {texts : List String} {ts : List Term}
    (h : List.Forall₂ (Shows k) texts ts) :
    ∃ us, List.Forall₂ (Written k) texts us ∧ us.map regrouped = ts.map regrouped := by
  induction h with
  | nil => exact ⟨[], .nil, rfl⟩
  | cons hs _ ih =>
      obtain ⟨u, hu, ht⟩ := hs
      obtain ⟨us, hus, hts⟩ := ih
      exact ⟨u :: us, .cons hu hus, by rw [List.map_cons, List.map_cons, ht, hts]⟩

theorem regroupedAll_eq_map (ts : List Term) : regroupedAll ts = ts.map regrouped := by
  induction ts with
  | nil => rfl
  | cons t ts ih => rw [regroupedAll, ih, List.map_cons]

theorem shows_list {texts : List String} {ts : List Term}
    (h : List.Forall₂ (Shows loosest) texts ts) :
    Shows 0 ("[" ++ String.intercalate ", " texts ++ "]") (.list ts) := by
  obtain ⟨us, hus, hts⟩ := written_of_shows h
  refine ⟨.list us, written_list hus, ?_⟩
  rw [regrouped, regrouped, regroupedAll_eq_map, regroupedAll_eq_map, hts]

theorem shows_call {w : String} (hw : Sign.isWordText w = true) {texts : List String}
    {ts : List Term} (h : List.Forall₂ (Shows loosest) texts ts) :
    Shows 0 (w ++ "(" ++ String.intercalate ", " texts ++ ")") (.call w ts) := by
  obtain ⟨us, hus, hts⟩ := written_of_shows h
  refine ⟨.call w us, written_call hw hus, ?_⟩
  rw [regrouped, regrouped, regroupedAll_eq_map, regroupedAll_eq_map, hts]

/-- Operands that bind tighter than their operator, written in a row, are read as a chain. -/
theorem shows_chain {k : Nat} {symbol : String} (hk : rank? symbol = some (k + 1))
    (hs : isJunction symbol = true) {texts : List String} {ts : List Term} (hne : ts ≠ [])
    (h : List.Forall₂ (Shows k) texts ts) :
    Shows (k + 1) (String.intercalate (" " ++ symbol ++ " ") texts) (chain symbol ts) := by
  obtain ⟨us, hus, hts⟩ := written_of_shows h
  cases hus with
  | nil => exact absurd (List.map_eq_nil_iff.mp hts.symm) hne
  | cons hu hus =>
      obtain ⟨t, ts, rfl⟩ := List.exists_cons_of_ne_nil hne
      rw [List.map_cons, List.map_cons] at hts
      obtain ⟨ht, hts⟩ := List.cons.inj hts
      refine ⟨_, written_chain hk hus (hu.mono (Nat.le_succ k)), ?_⟩
      rw [chain, regrouped_foldl hs, regrouped_foldl hs, ht, hts]

end VaultQuery.Term
