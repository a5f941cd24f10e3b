import Mathlib.Data.List.Basic
import VaultQuery.Text.Pattern

/-!
What the steps of a pattern take of a text.  A step that takes a stretch fits it, and the rest is
taken by the steps after it (`Step.of_take_eq_some`); if nothing is taken, no stretch that fits
leaves a rest that the other steps take (`Step.of_take_eq_none`).  So a pattern takes a text exactly
if its steps fit it in some way (`Pattern.of_stretches?_append`, `Pattern.exists_stretches?`).  A
pattern occurs in a text exactly if the search finds it there (`Pattern.occurs_iff`).
-/

namespace VaultQuery.Text

theorem getLast?_cons_or (c : Char) (t : List Char) (prev : Option Char) :
    (c :: t).getLast?.or prev = t.getLast?.or (some c) := by
  rw [List.getLast?_cons]
  cases t.getLast? <;> rfl

theorem getLast?_append_or (s t : List Char) (prev : Option Char) :
    (s ++ t).getLast?.or prev = t.getLast?.or (s.getLast?.or prev) := by
  rw [List.getLast?_append, Option.or_assoc]

/-! ## Steps -/

namespace Step

variable {p : Char → Bool} {k : Matcher} {c : Char} {cs taken : List Char} {prev : Option Char}
  {ts : List (List Char)}

/-- `Fits step prev taken rest`: the step can take a stretch between the character `prev` and the
rest of the text. -/
def Fits (prev : Option Char) (taken rest : List Char) : Step → Prop
  | one p => ∃ c, taken = [c] ∧ p c = true
  | perhaps p => taken = [] ∨ ∃ c, taken = [c] ∧ p c = true
  | many p | few p => ∀ c ∈ taken, p c = true
  | lineStart => taken = [] ∧ prev.all (· == '\n') = true
  | lineEnd => taken = [] ∧ rest.head?.all (· == '\n') = true

/-- `Took p k taken prev cs ts`: of a text, characters of a class were taken after those taken so
far, and the rest was taken apart. -/
def Took (p : Char → Bool) (k : Matcher) (taken : List Char) (prev : Option Char) (cs : List Char)
    (ts : List (List Char)) : Prop :=
  ∃ t rest ts', cs = t ++ rest ∧ (∀ c ∈ t, p c = true) ∧ ts = (taken.reverse ++ t) :: ts' ∧
    k (t.getLast?.or prev) rest = some ts'

theorem took_nothing (h : (k prev cs).map (taken.reverse :: ·) = some ts) :
    Took p k taken prev cs ts := by
  obtain ⟨ts', hk, rfl⟩ := Option.map_eq_some_iff.mp h
  exact ⟨[], cs, ts', rfl, List.forall_mem_nil _, by simp, hk⟩

theorem Took.cons (hc : p c = true) (h : Took p k (c :: taken) (some c) cs ts) :
    Took p k taken prev (c :: cs) ts := by
  obtain ⟨t, rest, ts', rfl, ht, rfl, hk⟩ := h
  refine ⟨c :: t, rest, ts', rfl, List.forall_mem_cons.mpr ⟨hc, ht⟩, by simp, ?_⟩
  rwa [getLast?_cons_or]

theorem of_takeMany_eq_some (h : takeMany p k taken prev cs = some ts) :
    Took p k taken prev cs ts := by
  induction cs generalizing taken prev with
  | nil => exact took_nothing h
  | cons c cs ih =>
      rw [takeMany] at h
      split at h
      case isFalse => exact took_nothing h
      case isTrue hc =>
          split at h
          case h_1 hmore => exact (ih (hmore.trans h)).cons hc
          case h_2 => exact took_nothing h

/-- `TookLeast p k taken prev cs ts`: of all stretches of a class that leave a rest which can be taken
apart, the shortest was taken. -/
def TookLeast (p : Char → Bool) (k : Matcher) (taken : List Char) (prev : Option Char)
    (cs : List Char) (ts : List (List Char)) : Prop :=
  ∃ t rest ts', cs = t ++ rest ∧ (∀ c ∈ t, p c = true) ∧ ts = (taken.reverse ++ t) :: ts' ∧
    k (t.getLast?.or prev) rest = some ts' ∧
    ∀ s s', t = s ++ s' → s' ≠ [] → k (s.getLast?.or prev) (s' ++ rest) = none

theorem tookLeast_nothing {ts' : List (List Char)} (hk : k prev cs = some ts') :
    TookLeast p k taken prev cs (taken.reverse :: ts') := by
  refine ⟨[], cs, ts', rfl, List.forall_mem_nil _, by simp, hk, fun s s' ht hs' => ?_⟩
  exact absurd (List.nil_eq_append_iff.mp ht).2 hs'

theorem TookLeast.cons (hstop : k prev (c :: cs) = none) (hc : p c = true)
    (h : TookLeast p k (c :: taken) (some c) cs ts) : TookLeast p k taken prev (c :: cs) ts := by
  obtain ⟨t, rest, ts', rfl, ht, rfl, hk, hleast⟩ := h
  refine ⟨c :: t, rest, ts', rfl, List.forall_mem_cons.mpr ⟨hc, ht⟩, by simp, ?_, ?_⟩
  · rwa [getLast?_cons_or]
  · intro s s' hcons hs'
    cases s with
    | nil =>
        cases hcons
        exact hstop
    | cons d s =>
        cases hcons
        rw [getLast?_cons_or]
        exact hleast s s' rfl hs'

theorem of_takeFew_eq_some (h : takeFew p k taken prev cs = some ts) :
    TookLeast p k taken prev cs ts := by
  induction cs generalizing taken prev with
  | nil =>
      obtain ⟨ts', hk, rfl⟩ := Option.map_eq_some_iff.mp h
      exact tookLeast_nothing hk
  | cons c cs ih =>
      rw [takeFew] at h
      split at h
      case h_1 ts' hk =>
          cases h
          exact tookLeast_nothing hk
      case h_2 hstop =>
          split at h
          case isTrue hc => exact (ih h).cons hstop hc
          case isFalse => cases h

/-- `Refused p k prev cs`: whatever characters of a class are taken, the rest is not taken apart. -/
def Refused (p : Char → Bool) (k : Matcher) (prev : Option Char) (cs : List Char) : Prop :=
  ∀ t rest, cs = t ++ rest → (∀ c ∈ t, p c = true) → k (t.getLast?.or prev) rest = none

theorem refused_nil (h : k prev [] = none) : Refused p k prev [] := by
  intro t rest hcs _
  obtain ⟨rfl, rfl⟩ := List.nil_eq_append_iff.mp hcs
  exact h

theorem refused_cons (hstop : k prev (c :: cs) = none)
    (hmore : p c = true → Refused p k (some c) cs) : Refused p k prev (c :: cs) := by
  intro t rest hcs ht
  cases t with
  | nil =>
      cases hcs
      exact hstop
  | cons d t =>
      cases hcs
      obtain ⟨hd, ht⟩ := List.forall_mem_cons.mp ht
      rw [getLast?_cons_or]
      exact hmore hd t rest rfl ht

theorem of_takeMany_eq_none (h : takeMany p k taken prev cs = none) : Refused p k prev cs := by
  induction cs generalizing taken prev with
  | nil => exact refused_nil (Option.map_eq_none_iff.mp h)
  | cons c cs ih =>
      rw [takeMany] at h
      split at h
      case isFalse hc => exact refused_cons (Option.map_eq_none_iff.mp h) fun hc' => absurd hc' hc
      case isTrue =>
          split at h
          case h_1 => cases h
          case h_2 hmore => exact refused_cons (Option.map_eq_none_iff.mp h) fun _ => ih hmore

theorem of_takeFew_eq_none (h : takeFew p k taken prev cs = none) : Refused p k prev cs := by
  induction cs generalizing taken prev with
  | nil => exact refused_nil (Option.map_eq_none_iff.mp h)
  | cons c cs ih =>
      rw [takeFew] at h
      split at h
      case h_1 => cases h
      case h_2 hstop =>
          split at h
          case isTrue => exact refused_cons hstop fun _ => ih h
          case isFalse hc => exact refused_cons hstop fun hc' => absurd hc' hc

variable {step : Step}

/-- A step takes a stretch that it fits, and the rest is taken apart. -/
theorem of_take_eq_some (h : step.take k prev cs = some ts) :
    ∃ t rest ts', cs = t ++ rest ∧ step.Fits prev t rest ∧ ts = t :: ts' ∧
      k (t.getLast?.or prev) rest = some ts' := by
  have hnothing : ∀ {ts}, step.Fits prev [] cs → (k prev cs).map ([] :: ·) = some ts →
      ∃ t rest ts', cs = t ++ rest ∧ step.Fits prev t rest ∧ ts = t :: ts' ∧
        k (t.getLast?.or prev) rest = some ts' := by
    intro ts hfits h
    obtain ⟨ts', hk, rfl⟩ := Option.map_eq_some_iff.mp h
    exact ⟨[], cs, ts', rfl, hfits, rfl, hk⟩
  cases step with
  | one p =>
      cases cs with
      | nil => cases h
      | cons c cs =>
          rw [take] at h
          split at h
          case isTrue hc =>
              obtain ⟨ts', hk, rfl⟩ := Option.map_eq_some_iff.mp h
              exact ⟨[c], cs, ts', rfl, ⟨c, rfl, hc⟩, rfl, hk⟩
          case isFalse => cases h
  | perhaps p =>
      cases cs with
      | nil => exact hnothing (.inl rfl) h
      | cons c cs =>
          rw [take] at h
          split at h
          case isFalse => exact hnothing (.inl rfl) h
          case isTrue hc =>
              split at h
              case h_1 ts' hk =>
                  cases h
                  exact ⟨[c], cs, ts', rfl, .inr ⟨c, rfl, hc⟩, rfl, hk⟩
              case h_2 => exact hnothing (.inl rfl) h
  | many p =>
      obtain ⟨t, rest, ts', rfl, ht, rfl, hk⟩ := of_takeMany_eq_some h
      exact ⟨t, rest, ts', rfl, ht, rfl, hk⟩
  | few p =>
      obtain ⟨t, rest, ts', rfl, ht, rfl, hk, -⟩ := of_takeFew_eq_some h
      exact ⟨t, rest, ts', rfl, ht, rfl, hk⟩
  | lineStart =>
      rw [take] at h
      split at h
      case isTrue hprev => exact hnothing ⟨rfl, hprev⟩ h
      case isFalse => cases h
  | lineEnd =>
      rw [take] at h
      split at h
      case isTrue hnext => exact hnothing ⟨rfl, hnext⟩ h
      case isFalse => cases h

/-- If a step takes nothing, then no stretch that it fits leaves a rest that is taken apart. -/
theorem of_take_eq_none (h : step.take k prev cs = none) {t rest : List Char} (hcs : cs = t ++ rest)
    (hfits : step.Fits prev t rest) : k (t.getLast?.or prev) rest = none := by
  subst hcs
  cases step with
  | one p =>
      obtain ⟨c, rfl, hc⟩ := hfits
      rw [List.singleton_append, take, if_pos hc] at h
      exact Option.map_eq_none_iff.mp h
  | perhaps p =>
      rcases hfits with rfl | ⟨c, rfl, hc⟩
      · cases rest with
        | nil => exact Option.map_eq_none_iff.mp h
        | cons c cs =>
            rw [List.nil_append, take] at h
            split at h
            case isFalse => exact Option.map_eq_none_iff.mp h
            case isTrue =>
                split at h
                case h_1 => cases h
                case h_2 => exact Option.map_eq_none_iff.mp h
      · rw [List.singleton_append, take, if_pos hc] at h
        split at h
        case h_1 => cases h
        case h_2 hk => exact hk
  | many p => exact of_takeMany_eq_none h t rest rfl hfits
  | few p => exact of_takeFew_eq_none h t rest rfl hfits
  | lineStart =>
      obtain ⟨rfl, hprev⟩ := hfits
      rw [take, if_pos hprev] at h
      exact Option.map_eq_none_iff.mp h
  | lineEnd =>
      obtain ⟨rfl, hnext⟩ := hfits
      rw [List.nil_append, take, if_pos hnext] at h
      exact Option.map_eq_none_iff.mp h

end Step

/-! ## Patterns -/

namespace Pattern

variable {p q : Pattern} {prev : Option Char} {cs rest : List Char} {ts : List (List Char)}

/-- `Takes p prev cs rest`: the steps of a pattern fit a text between the character `prev` and the
rest. -/
def Takes : Pattern → Option Char → List Char → List Char → Prop
  | [], _, cs, _ => cs = []
  | step :: p, prev, cs, rest =>
    ∃ t cs', cs = t ++ cs' ∧ step.Fits prev t (cs' ++ rest) ∧ Takes p (t.getLast?.or prev) cs' rest

theorem takes_append :
    Takes (p ++ q) prev cs rest ↔ ∃ s t, cs = s ++ t ∧ Takes p prev s (t ++ rest) ∧
      Takes q (s.getLast?.or prev) t rest := by
  induction p generalizing prev cs with
  | nil =>
      constructor
      · intro h
        exact ⟨[], cs, rfl, rfl, h⟩
      · rintro ⟨s, t, rfl, rfl, h⟩
        exact h
  | cons step p ih =>
      constructor
      · rintro ⟨t, cs', rfl, hfits, h⟩
        obtain ⟨s, u, rfl, hp, hq⟩ := ih.mp h
        refine ⟨t ++ s, u, (List.append_assoc t s u).symm, ⟨t, s, rfl, ?_, hp⟩, ?_⟩
        · rwa [← List.append_assoc]
        · rwa [getLast?_append_or]
      · rintro ⟨_, u, rfl, ⟨t, s, rfl, hfits, hp⟩, hq⟩
        refine ⟨t, s ++ u, List.append_assoc t s u, ?_, ih.mpr ⟨s, u, rfl, hp, ?_⟩⟩
        · rwa [List.append_assoc]
        · rwa [getLast?_append_or] at hq

theorem takes_singleton {step : Step} :
    Takes [step] prev cs rest ↔ step.Fits prev cs rest := by
  constructor
  · rintro ⟨t, cs', rfl, hfits, rfl⟩
    rwa [List.append_nil]
  · intro h
    exact ⟨cs, [], (List.append_nil cs).symm, h, rfl⟩

/-- What the first part of a pattern takes fits it, and the second part takes apart the rest. -/
theorem of_stretches?_append (h : stretches? (p ++ q) prev cs = some ts) :
    ∃ ss us rest, ts = ss ++ us ∧ ss.length = p.length ∧ cs = ss.flatten ++ rest ∧
      Takes p prev ss.flatten rest ∧ stretches? q (ss.flatten.getLast?.or prev) rest = some us := by
  induction p generalizing prev cs ts with
  | nil => exact ⟨[], ts, cs, rfl, rfl, rfl, rfl, h⟩
  | cons step p ih =>
      obtain ⟨t, rest, ts', rfl, hfits, rfl, hk⟩ := Step.of_take_eq_some h
      obtain ⟨ss, us, rest, rfl, hlength, rfl, htakes, hq⟩ := ih hk
      refine ⟨t :: ss, us, rest, rfl, congrArg (· + 1) hlength, ?_, ?_, ?_⟩
      · rw [List.flatten_cons, List.append_assoc]
      · exact ⟨t, ss.flatten, rfl, hfits, htakes⟩
      · rwa [List.flatten_cons, getLast?_append_or]

theorem of_stretches? (h : stretches? p prev cs = some ts) :
    ∃ rest, cs = ts.flatten ++ rest ∧ Takes p prev ts.flatten rest := by
  rw [← List.append_nil p] at h
  obtain ⟨ss, us, rest, rfl, -, rfl, htakes, hus⟩ := of_stretches?_append h
  cases hus
  rw [List.append_nil]
  exact ⟨rest, rfl, htakes⟩

theorem exists_stretches? (h : Takes p prev cs rest) :
    ∃ ts, stretches? p prev (cs ++ rest) = some ts := by
  induction p generalizing prev cs with
  | nil => exact ⟨[], rfl⟩
  | cons step p ih =>
      obtain ⟨t, cs', rfl, hfits, h⟩ := h
      obtain ⟨ts, hts⟩ := ih h
      rw [← Option.isSome_iff_exists, Option.isSome_iff_ne_none]
      intro hnone
      rw [List.append_assoc] at hnone
      rw [Step.of_take_eq_none hnone rfl hfits] at hts
      cases hts

/-! ## Search -/

theorem occurs_iff (place : Nat) : p.occurs prev cs = true ↔ p.search place prev 0 cs ≠ [] := by
  induction cs generalizing place prev with
  | nil =>
      rw [occurs, search, if_pos rfl]
      cases p.stretches? prev [] <;> simp
  | cons c cs ih =>
      rw [occurs, search]
      cases p.stretches? prev (c :: cs) with
      | some ts => simp
      | none => simpa using ih (place + 1)

theorem search_skip (place : Nat) (prev : Option Char) (s cs : List Char) :
    p.search place prev s.length (s ++ cs) =
      p.search (place + s.length) (s.getLast?.or prev) 0 cs := by
  induction s generalizing place prev with
  | nil => rfl
  | cons c s ih =>
      rw [List.cons_append, List.length_cons, search, ih, getLast?_cons_or, Nat.add_assoc,
        Nat.add_comm 1]

/-- After a text was found, the search goes on behind it. -/
theorem search_of_stretches? (place : Nat) (h : p.stretches? prev (ts.flatten ++ rest) = some ts)
    (hne : ts.flatten ≠ []) :
    p.search place prev 0 (ts.flatten ++ rest) = (place, ts) ::
      p.search (place + ts.flatten.length) (ts.flatten.getLast?.or prev) 0 rest := by
  cases hs : ts.flatten with
  | nil => exact absurd hs hne
  | cons c s =>
      rw [hs] at h
      rw [List.cons_append] at h ⊢
      rw [search, h]
      dsimp only
      rw [hs, getLast?_cons_or, List.length_cons, Nat.add_sub_cancel, search_skip, Nat.add_assoc,
        Nat.add_comm 1]

theorem search_of_stretches?_eq_none {c : Char} {place : Nat}
    (h : p.stretches? prev (c :: cs) = none) :
    p.search place prev 0 (c :: cs) = p.search (place + 1) (some c) 0 cs := by
  rw [search, h]

end Pattern

end VaultQuery.Text
