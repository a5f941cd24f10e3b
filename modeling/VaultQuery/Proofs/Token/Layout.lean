import VaultQuery.Proofs.Token.Span

/-!
The layout of a text.  A lexeme that is a token looks no further than the next blank, but for a
phrase of two words, which looks over blanks (`lexeme_relaid`); so a text with other blanks in its
gaps is cut into the same pieces.
-/

namespace VaultQuery.Token

/-! ## What a lexeme sees -/

/-- The characters up to the next blank. -/
def solid (cs : List Char) : List Char :=
  cs.takeWhile fun c => !isGap c

/-- A text that is over or goes on with a blank. -/
def Open (cs : List Char) : Prop :=
  ∀ c ∈ cs.head?, isGap c = true

theorem open_dropWhile (cs : List Char) : Open (cs.dropWhile fun c => !isGap c) := by
  intro c hc
  have hnot := List.head?_dropWhile_not (fun c => !isGap c) cs
  rw [Option.mem_def.mp hc] at hnot
  simpa using hnot

theorem solid_append_dropWhile (cs : List Char) :
    solid cs ++ (cs.dropWhile fun c => !isGap c) = cs :=
  List.takeWhile_append_dropWhile

theorem isGap_of_mem_solid {cs : List Char} {c : Char} (h : c ∈ solid cs) : isGap c = false := by
  have himp := List.mem_takeWhile_imp (p := fun c => !isGap c) h
  simpa using himp

theorem forall_isGap {P : Char → Prop} :
    (∀ c, isGap c = true → P c) ↔ P ' ' ∧ P '\t' ∧ P '\r' ∧ P '\n' := by
  simp only [isGap, Bool.or_eq_true, beq_iff_eq, or_imp, forall_and, forall_eq, and_assoc]

/-- A text that is over, or goes on with a blank or with the sign that opens a comment. -/
def Detached (cs : List Char) : Prop :=
  ∀ c ∈ cs.head?, isGap c = true ∨ c = '/'

theorem Open.detached {cs : List Char} (h : Open cs) : Detached cs :=
  fun c hc => .inl (h c hc)

theorem Detached.forall {w : List Char} (h : Detached w) {P : Char → Prop}
    (hP : (P ' ' ∧ P '\t' ∧ P '\r' ∧ P '\n') ∧ P '/') : ∀ c ∈ w.head?, P c := by
  intro c hc
  rcases h c hc with hgap | rfl
  · exact forall_isGap.mpr hP.1 c hgap
  · exact hP.2

theorem takeWhile_append_of_head {w : List Char} {p : Char → Bool}
    (hp : ∀ c ∈ w.head?, p c = false) (v : List Char) :
    (v ++ w).takeWhile p = v.takeWhile p := by
  have hw : w.takeWhile p = [] := by
    cases w with
    | nil => rfl
    | cons c w => simp [hp c rfl]
  rw [List.takeWhile_append]
  split
  case isTrue hall =>
      rw [hw, List.append_nil]
      exact ((List.takeWhile_prefix p).eq_of_length hall).symm
  case isFalse => rfl

theorem Detached.isDigit {w : List Char} (h : Detached w) :
    ∀ c ∈ w.head?, Text.isDigit c = false :=
  h.forall (by decide)

theorem Detached.isWord {w : List Char} (h : Detached w) : ∀ c ∈ w.head?, Text.isWord c = false :=
  h.forall (by decide)

theorem isTagChar_of_open {w : List Char} (h : Open w) : ∀ c ∈ w.head?, isTagChar c = false := by
  have hgap : ∀ c, isGap c = true → isTagChar c = false := forall_isGap.mpr (by decide)
  exact fun c hc => hgap c (h c hc)

theorem identifierTail_of_detached {w : List Char} (h : Detached w) : identifierTail w = 0 := by
  cases w with
  | nil => rfl
  | cons c w =>
      have hdash : ∀ d ∈ (c :: w).head?, (d == '-') = false := h.forall (by decide)
      simp [identifierTail, h.isWord c rfl, hdash c rfl]

theorem identifierTail_append {w : List Char} (h : Detached w) (v : List Char) :
    identifierTail (v ++ w) = identifierTail v := by
  fun_induction identifierTail v with
  | case1 => exact identifierTail_of_detached h
  | case2 c cs hc ih => simp [identifierTail, hc, ih]
  | case3 c d cs hc hdash hd ih =>
      rw [List.cons_append] at ih ⊢
      simp_all [identifierTail]
  | case4 c hc hdash d cs hd => simp_all [identifierTail]
  | case5 c hc hdash =>
      cases w with
      | nil => simp [identifierTail, hc]
      | cons d w => simp [identifierTail, hc, h.isWord d rfl]
  | case6 c cs hc hdash => simp [identifierTail, hc, hdash]

theorem numberLength_append {w : List Char} (h : Detached w) (v : List Char) :
    numberLength (v ++ w) = numberLength v := by
  have hpoint : ∀ c ∈ w.head?, c ≠ '.' := h.forall (by decide)
  have hle := (List.takeWhile_prefix (p := Text.isDigit) (l := v)).length_le
  simp only [numberLength, takeWhile_append_of_head h.isDigit, List.drop_append_of_le_length hle]
  cases v.drop (v.takeWhile Text.isDigit).length with
  | nil =>
      cases w with
      | nil => rfl
      | cons c w =>
          simp only [List.nil_append]
          split
          case h_1 heq => exact absurd (List.cons_eq_cons.mp heq).1 (hpoint c rfl)
          case h_2 => rfl
  | cons c rest =>
      by_cases hc : c = '.'
      · subst hc
        simp only [List.cons_append, takeWhile_append_of_head h.isDigit]
      · simp [hc]

end VaultQuery.Token

namespace VaultQuery.MomentShape

open Token (Detached takeWhile_append_of_head)

theorem takeDigits_append {w : List Char} (h : Detached w) (least most : Nat) (v : List Char) :
    takeDigits least most (v ++ w) =
      (takeDigits least most v).map fun r => (r.1, r.2 ++ w) := by
  have hdetached : Detached (w.take (most - v.length)) := by
    intro c hc
    rw [List.head?_take] at hc
    split at hc
    case isTrue => cases hc
    case isFalse => exact h c hc
  have hds : ((v ++ w).take most).takeWhile Text.isDigit =
      (v.take most).takeWhile Text.isDigit := by
    rw [List.take_append, takeWhile_append_of_head hdetached.isDigit]
  have hle : ((v.take most).takeWhile Text.isDigit).length ≤ v.length :=
    ((List.takeWhile_prefix _).trans (List.take_prefix most v)).length_le
  simp only [takeDigits, hds, List.drop_append_of_le_length hle]
  split <;> rfl

theorem takeChar_append {w : List Char} {c : Char} (hc : ∀ d ∈ w.head?, d ≠ c) (v : List Char) :
    takeChar c (v ++ w) = (takeChar c v).map (· ++ w) := by
  cases v with
  | nil =>
      cases w with
      | nil => rfl
      | cons d w => simp [takeChar, hc d rfl]
  | cons d v =>
      simp only [List.cons_append, takeChar]
      split <;> rfl

theorem takeDay_append {w : List Char} (h : Detached w) (v : List Char) :
    takeDay (v ++ w) = (takeDay v).map fun r => (r.1, r.2 ++ w) := by
  have hdash : ∀ d ∈ w.head?, d ≠ '-' := h.forall (by decide)
  simp only [takeDay, Option.bind_eq_bind, takeDigits_append h, takeChar_append hdash,
    Option.bind_map, Option.map_bind, Function.comp_def]
  rfl

theorem takeClock_append {w : List Char} (h : Detached w) (shape : MomentShape) (v : List Char) :
    takeClock shape (v ++ w) = (takeClock shape v).map fun r => (r.1, r.2 ++ w) := by
  have hletter : ∀ d ∈ w.head?, d ≠ 'T' := h.forall (by decide)
  have hcolon : ∀ d ∈ w.head?, d ≠ ':' := h.forall (by decide)
  simp only [takeClock, Option.bind_eq_bind, takeDigits_append h, takeChar_append hletter,
    takeChar_append hcolon, Option.bind_map, Option.map_bind, Function.comp_def]
  rfl

theorem takeSecond_append {w : List Char} (h : Detached w) (shape : MomentShape) (v : List Char) :
    takeSecond shape (v ++ w) = (takeSecond shape v).map fun r => (r.1, r.2 ++ w) := by
  have hcolon : ∀ d ∈ w.head?, d ≠ ':' := h.forall (by decide)
  simp only [takeSecond, Option.bind_eq_bind, takeDigits_append h, takeChar_append hcolon,
    Option.bind_map, Option.map_bind, Function.comp_def]
  rfl

theorem takeFraction_append {w : List Char} (h : Detached w) (shape : MomentShape)
    (v : List Char) :
    takeFraction shape (v ++ w) = (takeFraction shape v).map fun r => (r.1, r.2 ++ w) := by
  have hpoint : ∀ d ∈ w.head?, d ≠ '.' := h.forall (by decide)
  have hall : ∀ cs : List Char, takeDigits 1 (cs ++ w).length cs = takeDigits 1 cs.length cs := by
    intro cs
    have hle : cs.length ≤ (cs ++ w).length := by simp
    simp only [takeDigits, List.take_of_length_le hle, List.take_length]
  simp only [takeFraction, Option.bind_eq_bind, takeDigits_append h, hall,
    takeChar_append hpoint, Option.bind_map, Option.map_bind, Function.comp_def]
  rfl

theorem readings_append {w : List Char} (h : Detached w) (v : List Char) :
    readings (v ++ w) = (readings v).map fun r => (r.1, r.2 ++ w) := by
  unfold readings
  rw [takeDay_append h]
  cases takeDay v with
  | none => rfl
  | some day =>
  simp only [Option.map_some, takeClock_append h]
  cases takeClock day.1 day.2 with
  | none => rfl
  | some clock =>
  simp only [Option.map_some, takeSecond_append h]
  cases takeSecond clock.1 clock.2 with
  | none => rfl
  | some second =>
  simp only [Option.map_some, takeFraction_append h]
  cases takeFraction second.1 second.2 <;> rfl

end VaultQuery.MomentShape

namespace VaultQuery.Token

theorem momentLength?_append {w : List Char} (h : Detached w) (v : List Char) :
    Moment.length? (v ++ w) = Moment.length? v := by
  have hpoint : ∀ c ∈ w.head?, (c == '.') = false := h.forall (by decide)
  simp only [Moment.length?, MomentShape.readings_append h, List.find?_map, Function.comp_def,
    Option.map_map, List.length_append, Nat.add_sub_add_right]
  refine congrArg _ (congrArg (List.find? · _) (funext ?_))
  rintro ⟨shape, cs⟩
  cases cs with
  | cons c cs => rfl
  | nil =>
      cases w with
      | nil => rfl
      | cons c w => simp [h.isWord c rfl, hpoint c rfl]

/-- What depends on the characters up to the next blank only. -/
theorem eq_of_solid {α : Type} {f : List Char → α}
    (hf : ∀ {w : List Char}, Open w → ∀ v, f (v ++ w) = f v) {cs cs' : List Char}
    (h : solid cs = solid cs') : f cs = f cs' := by
  rw [← solid_append_dropWhile cs, ← solid_append_dropWhile cs', hf (open_dropWhile cs),
    hf (open_dropWhile cs'), h]

/-- Two texts that a lexeme before them cannot tell apart: they are alike up to the next blank, and
so is what stands after their blanks. -/
structure Alike (u u' : List Char) : Prop where
  solid_eq : solid u = solid u'
  next_eq : solid (u.dropWhile Text.isBlank) = solid (u'.dropWhile Text.isBlank)

theorem solid_append_congr {u u' : List Char} (h : solid u = solid u') (v : List Char) :
    solid (v ++ u) = solid (v ++ u') := by
  simp only [solid, List.takeWhile_append] at h ⊢
  rw [h]

theorem head?_solid {d : Char} (hd : isGap d = false) (cs : List Char) :
    cs.head? = some d ↔ (solid cs).head? = some d := by
  cases cs with
  | nil => rfl
  | cons c cs =>
      cases hc : isGap c with
      | false => simp [solid, hc]
      | true =>
          have hne : c ≠ d := by
            rintro rfl
            rw [hc] at hd
            cases hd
          simp [solid, hc, hne]

theorem head?_iff_of_solid {u u' : List Char} (h : solid u = solid u') {d : Char}
    (hd : isGap d = false) : u.head? = some d ↔ u'.head? = some d := by
  rw [head?_solid hd, h, ← head?_solid hd]

theorem endsWord_of_solid {u u' : List Char} (h : solid u = solid u') (hu : EndsWord u) :
    EndsWord u' := by
  intro c hc
  cases hw : Text.isWord c with
  | false => rfl
  | true =>
      have hgap := Text.isGap_eq_false_of_isWord hw
      rw [← hw]
      exact hu c ((head?_iff_of_solid h hgap).mpr hc)

/-! ## Words and phrases -/

theorem endsWord_drop_identifierTail (cs : List Char) : EndsWord (cs.drop (identifierTail cs)) := by
  fun_induction identifierTail cs with
  | case1 => simp [EndsWord]
  | case2 c cs hc ih => simpa using ih
  | case3 c hc hdash d cs hd ih => simpa using ih
  | case4 c hc hdash d cs hd => simpa [EndsWord] using hc
  | case5 c hc hdash => simpa [EndsWord] using hc
  | case6 c cs hc hdash => simpa [EndsWord] using hc

theorem isBlank_of_mem_identifierTail (cs : List Char) :
    ∀ c ∈ cs.take (identifierTail cs), Text.isBlank c = false := by
  have hdash' : Text.isBlank '-' = false := by decide
  fun_induction identifierTail cs with
  | case1 => simp
  | case2 c cs hc ih => simpa using ⟨Text.isBlank_eq_false_of_isWord hc, ih⟩
  | case3 c hc hdash d cs hd ih =>
      obtain rfl : c = '-' := by simpa using hdash
      simpa using ⟨hdash', ih⟩
  | case4 => simp
  | case5 => simp
  | case6 => simp

/-- A phrase at the start of a name and what follows it: the name is its first word. -/
theorem IsPhrase.name_eq {kind : Kind} {first second : String} (h : IsPhrase kind first second)
    {m u : List Char} (hm : ∀ c ∈ m, Text.isBlank c = false) (hu : EndsWord u)
    {a g rest : List Char} (heq : m ++ u = a ++ (g ++ rest)) (ha : Spells first.toList a)
    (hg : g ≠ []) (hblank : ∀ c ∈ g, Text.isBlank c = true) : a = m ∧ u = g ++ rest := by
  have hword := ha.isWord h.isLower.1
  -- both are what stands before the first blank
  have hprefix : m ++ (u.takeWhile fun c => !Text.isBlank c) = a := by
    rw [← List.takeWhile_append_of_pos (by simpa using hm), heq]
    refine takeWhile_exact (fun c hc => ?_) ?_
    · simpa using Text.isBlank_eq_false_of_isWord (hword c hc)
    · cases g with
      | nil => exact absurd rfl hg
      | cons d g => simp [hblank d (by simp)]
  have hnil : (u.takeWhile fun c => !Text.isBlank c) = [] := by
    cases u with
    | nil => rfl
    | cons c u =>
        cases hc : Text.isBlank c with
        | true => simp [hc]
        | false =>
            have hmem : c ∈ a := by simp [← hprefix, hc]
            exact absurd (hword c hmem) (by simp [hu c rfl])
  rw [hnil, List.append_nil] at hprefix
  subst hprefix
  exact ⟨rfl, List.append_cancel_left heq⟩

/-- A phrase is still one with other blanks after its first word. -/
theorem IsPhrase.relaid {kind : Kind} {first second : String} (h : IsPhrase kind first second)
    {m u u' : List Char} (hm : ∀ c ∈ m, Text.isBlank c = false) (hu : EndsWord u)
    (halike : Alike u u') {n : Nat} (hn : phraseLength? first second (m ++ u) = some n) :
    ∃ n', phraseLength? first second (m ++ u') = some n' := by
  obtain ⟨a, g, b, rest, heq, ha, hg, hblank, hb, hend, -⟩ := h.length?_eq_some_iff.mp hn
  obtain ⟨rfl, rfl⟩ := h.name_eq hm hu heq ha hg hblank
  have hword := hb.isWord h.isLower.2.1
  cases b with
  | nil => exact absurd (List.forall₂_nil_right_iff.mp hb) h.isLower.2.2
  | cons d b =>
  have hd := hword d (by simp)
  have hnext : solid ((g ++ (d :: b ++ rest)).dropWhile Text.isBlank) = d :: b ++ solid rest := by
    rw [List.dropWhile_append_of_pos hblank, List.cons_append,
      List.dropWhile_cons_of_neg (by simp [Text.isBlank_eq_false_of_isWord hd]), ← List.cons_append]
    refine List.takeWhile_append_of_pos fun c hc => ?_
    simp [Text.isGap_eq_false_of_isWord (hword c hc)]
  -- the second word and what may follow it are seen behind the other blanks as well
  have hu' := solid_append_dropWhile (u'.dropWhile Text.isBlank)
  have hopen := open_dropWhile (u'.dropWhile Text.isBlank)
  rw [← halike.next_eq, hnext, List.append_assoc] at hu'
  generalize (u'.dropWhile Text.isBlank).dropWhile (fun c => !isGap c) = tail at hu' hopen
  have hsplit := List.takeWhile_append_dropWhile (p := Text.isBlank) (l := u')
  rw [← hu'] at hsplit
  refine ⟨_, h.length?_eq_some_iff.mpr ⟨a, u'.takeWhile Text.isBlank, d :: b, solid rest ++ tail,
    by rw [hsplit], ha, ?_, fun c hc => List.mem_takeWhile_imp hc, hb, ?_, rfl⟩⟩
  · intro hnil
    rw [hnil, List.nil_append] at hsplit
    have hends := endsWord_of_solid halike.solid_eq hu
    rw [← hsplit] at hends
    exact absurd hd (by simp [hends d rfl])
  · refine endsWord_of_solid (takeWhile_exact ?_ ?_).symm hend
    · exact fun c hc => by simp [isGap_of_mem_solid hc]
    · exact fun c hc => by simp [hopen c hc]

/-- A phrase is the same whatever follows it. -/
theorem IsPhrase.followed {kind : Kind} {first second : String} (h : IsPhrase kind first second)
    {m u u' : List Char} (hu : EndsWord u → EndsWord u')
    (hn : phraseLength? first second (m ++ u) = some m.length) :
    phraseLength? first second (m ++ u') = some m.length := by
  obtain ⟨a, g, b, rest, heq, ha, hg, hblank, hb, hend, hlen⟩ := h.length?_eq_some_iff.mp hn
  have hsplit : m ++ u = (a ++ (g ++ b)) ++ rest := by
    rw [heq, List.append_assoc, List.append_assoc]
  obtain ⟨rfl, rfl⟩ := List.append_inj hsplit (by simp [hlen, Nat.add_assoc])
  exact h.length?_eq_some_iff.mpr ⟨a, g, b, u', by simp, ha, hg, hblank, hb, hu hend, hlen⟩

theorem Alike.symm {u u' : List Char} (h : Alike u u') : Alike u' u :=
  ⟨h.solid_eq.symm, h.next_eq.symm⟩

theorem Alike.append {u u' : List Char} (h : Alike u u') (v : List Char) :
    Alike (v ++ u) (v ++ u') := by
  refine ⟨solid_append_congr h.solid_eq v, ?_⟩
  rw [List.dropWhile_append, List.dropWhile_append]
  split
  case isTrue => exact h.next_eq
  case isFalse => exact solid_append_congr h.solid_eq _

theorem le_of_word {before : Option Kind} {m r : List Char}
    (hm : ∀ c ∈ m, Text.isBlank c = false) (hr : EndsWord r) {kind : Kind} {text : String} {n : Nat}
    (h : word before (m ++ r) m.length = .token kind text n) : m.length ≤ n := by
  rcases word_cases before (m ++ r) m.length with
    ⟨_, _, hw⟩ | ⟨_, _, hw⟩ | ⟨_, _, _, _, hp, hn, hw⟩
  · cases hw.symm.trans h
    exact Nat.le_refl _
  · cases hw.symm.trans h
    exact Nat.le_refl _
  · cases hw.symm.trans h
    obtain ⟨a, g, b, rest, heq, ha, hg, hblank, -, -, rfl⟩ := hp.length?_eq_some_iff.mp hn
    obtain ⟨rfl, -⟩ := hp.name_eq hm hr heq ha hg hblank
    rw [Nat.add_assoc]
    exact Nat.le_add_right _ _

/-- Whether a phrase opens with a name does not depend on the blanks after it, and neither does its
length if they are none of its own. -/
theorem IsPhrase.transfer {kind : Kind} {first second : String} (h : IsPhrase kind first second)
    (b : Bool) {m k u u' : List Char} (hm : ∀ c ∈ m, Text.isBlank c = false)
    (hends : EndsWord (k ++ u)) (halike : Alike u u') :
    ((if b then phraseLength? first second (m ++ (k ++ u)) else none) = none →
      (if b then phraseLength? first second (m ++ (k ++ u')) else none) = none) ∧
    ((if b then phraseLength? first second (m ++ (k ++ u)) else none) = some (m ++ k).length →
      (if b then phraseLength? first second (m ++ (k ++ u')) else none) =
        some (m ++ k).length) := by
  cases b with
  | false => exact ⟨id, id⟩
  | true =>
      constructor
      · intro hnone
        cases hn : phraseLength? first second (m ++ (k ++ u')) with
        | none => rfl
        | some n =>
            have halike' := (halike.append k).symm
            have hends' := endsWord_of_solid halike'.symm.solid_eq hends
            obtain ⟨n', hn'⟩ := h.relaid hm hends' halike' hn
            cases hnone.symm.trans hn'
      · intro hsome
        rw [if_pos rfl, ← List.append_assoc] at hsome ⊢
        exact h.followed (endsWord_of_solid halike.solid_eq) hsome

/-- A word is the same with other blanks in the gap after it. -/
theorem word_relaid {before : Option Kind} {m k u u' : List Char}
    (hm : ∀ c ∈ m, Text.isBlank c = false) (hends : EndsWord (k ++ u)) (halike : Alike u u')
    {kind : Kind} {text : String}
    (h : word before (m ++ (k ++ u)) m.length = .token kind text (m ++ k).length) :
    word before (m ++ (k ++ u')) m.length = .token kind text (m ++ k).length := by
  have hgroup :=
    IsPhrase.groupBy.transfer (Text.upperCase (String.ofList m) == "GROUP") hm hends halike
  have hwithout :=
    IsPhrase.withoutId.transfer (Text.upperCase (String.ofList m) == "WITHOUT") hm hends halike
  have htake : ∀ v, (m ++ (k ++ v)).take (m ++ k).length = m ++ k := by
    intro v
    rw [← List.append_assoc, List.take_left]
  have hcall : ((k ++ u').head? == some '(') = ((k ++ u).head? == some '(') := by
    rw [Bool.eq_iff_iff, beq_iff_eq, beq_iff_eq]
    exact head?_iff_of_solid (halike.append k).symm.solid_eq (by decide)
  simp only [word, List.take_left, List.drop_left] at h ⊢
  split at h
  case h_1 => exact h
  case h_2 => exact h
  case h_3 =>
  split at h
  case h_1 n hn =>
      cases h
      rw [hgroup.2 hn]
      simp only [phraseToken, htake]
  case h_2 n hnone hn =>
      cases h
      rw [hgroup.1 hnone, hwithout.2 hn]
      simp only [phraseToken, htake]
  case h_3 hnone hnone' =>
      rw [hgroup.1 hnone, hwithout.1 hnone', hcall]
      exact h

/-! ## Strings and links -/

theorem stringBody_take {quote : Char} {cs body : List Char} {n : Nat}
    (h : stringBody quote cs = some (body, n)) : stringBody quote (cs.take n) = some (body, n) := by
  fun_induction stringBody quote cs generalizing body n with
  | case1 => cases h
  | case2 c hc =>
      cases h
      simp [stringBody, hc]
  | case3 => cases h
  | case4 c d cs hc =>
      cases h
      simp [stringBody, hc]
  | case5 c d cs hc hb ih =>
      obtain rfl : c = '\x5c' := by simpa using hb
      obtain ⟨⟨s, m⟩, hs, heq⟩ := Option.map_eq_some_iff.mp h
      cases heq
      rw [List.take_succ_cons, List.take_succ_cons,
        stringBody_escape (fun hq => hc (by simp [hq])), ih hs]
      rfl
  | case6 c d cs hc hb ih =>
      obtain ⟨⟨s, m⟩, hs, heq⟩ := Option.map_eq_some_iff.mp h
      cases heq
      rw [List.take_succ_cons, stringBody_plain (by simpa using hc) (by simpa using hb), ih hs]
      rfl

theorem linkBody_cons {c : Char} {cs : List Char} (h : c = ']' → cs.head? ≠ some ']') :
    linkBody (c :: cs) = (linkBody cs).map (c :: ·) := by
  rw [linkBody]
  rintro rest rfl rfl
  exact h rfl rfl

theorem linkBody_followed {cs body : List Char} (h : linkBody cs = some body) (rest : List Char) :
    linkBody (cs.take (body.length + 2) ++ rest) = some body := by
  fun_induction linkBody cs generalizing body with
  | case1 =>
      cases h
      rfl
  | case2 => cases h
  | case3 c cs hne ih =>
      obtain ⟨b, hb, rfl⟩ := Option.map_eq_some_iff.mp h
      have hlen := linkBody_length hb
      cases cs with
      | nil => cases hb
      | cons d cs =>
          rw [List.length_cons, List.take_succ_cons, List.cons_append, linkBody_cons, ih hb]
          · rfl
          · rintro rfl hd
            obtain rfl : d = ']' := by simpa using hd
            exact hne cs rfl rfl

/-! ## Other blanks in the gap after a token -/

theorem head?_bind_of_solid {c : Char} {u u' : List Char} (h : solid u = solid u')
    (hu : u.head?.bind (pairOperator? c) = none) : u'.head?.bind (pairOperator? c) = none := by
  cases hb : u'.head?.bind (pairOperator? c) with
  | none => rfl
  | some kind =>
      obtain ⟨d, hd, hp⟩ := Option.bind_eq_some_iff.mp hb
      obtain ⟨rfl, -⟩ := pairOperator?_eq_some hp
      rw [(head?_iff_of_solid h (by decide)).mpr hd] at hu
      exact absurd (hu.symm.trans hp) nofun

/-- The name that a text starts with: it has no blanks, and no word character follows it. -/
theorem exists_name {c : Char} (hc : Text.isWordStart c = true) (cs : List Char) :
    ∃ m r, c :: cs = m ++ r ∧ m.length = identifierTail cs + 1 ∧
      (∀ d ∈ m, Text.isBlank d = false) ∧ EndsWord r := by
  refine ⟨c :: cs.take (identifierTail cs), cs.drop (identifierTail cs), ?_, ?_, ?_,
    endsWord_drop_identifierTail cs⟩
  · rw [List.cons_append, List.take_append_drop]
  · rw [List.length_cons, List.length_take, Nat.min_eq_left (identifierTail_le cs)]
  · exact List.forall_mem_cons.mpr
      ⟨Text.isBlank_eq_false_of_isWord (Text.isWord_of_isWordStart hc),
        isBlank_of_mem_identifierTail cs⟩

/-- The name that a word starts with: all of it, but for a phrase. -/
theorem exists_name_of_word {before : Option Kind} {c : Char} {own u : List Char}
    (hc : Text.isWordStart c = true) {kind : Kind} {text : String}
    (h : Token.word before (c :: (own ++ u)) (identifierTail (own ++ u) + 1) =
      .token kind text (own.length + 1)) :
    ∃ m k, c :: own = m ++ k ∧ m.length = identifierTail (own ++ u) + 1 ∧
      (∀ d ∈ m, Text.isBlank d = false) ∧ EndsWord (k ++ u) := by
  obtain ⟨m, r, hall, hlen, hm, hr⟩ := exists_name hc (own ++ u)
  rw [hall, ← hlen] at h
  obtain ⟨k, hk⟩ : m <+: c :: own :=
    List.prefix_of_prefix_length_le ⟨r, hall.symm⟩ ⟨u, rfl⟩ (le_of_word hm hr h)
  obtain rfl : r = k ++ u := by
    have hsplit : m ++ r = m ++ (k ++ u) := by
      rw [← hall, ← List.append_assoc, hk, List.cons_append]
    exact List.append_cancel_left hsplit
  exact ⟨m, k, hk.symm, hlen, hm, hr⟩

/-- A word is what stands at its place with other blanks in the gap after it. -/
theorem Lexes.word_relaid {before : Option Kind} {c : Char} {own u u' : List Char}
    (hc : Text.isWordStart c = true) (halike : Alike u u') {kind : Kind} {text : String}
    (h : Token.word before (c :: (own ++ u)) (identifierTail (own ++ u) + 1) =
      .token kind text (own.length + 1)) :
    lexeme before c (own ++ u') = .ok (.token kind text (own.length + 1)) := by
  have htail : identifierTail (own ++ u) = identifierTail (own ++ u') :=
    eq_of_solid (fun hw => identifierTail_append hw.detached)
      (solid_append_congr halike.solid_eq own)
  obtain ⟨m, k, hk, hlen, hm, hends⟩ := exists_name_of_word hc h
  have hwhole : ∀ u, c :: (own ++ u) = m ++ (k ++ u) := by
    intro u
    rw [← List.append_assoc, ← hk, List.cons_append]
  rw [hwhole, ← hlen, ← List.length_cons (a := c), hk] at h
  rw [(Lexes.word hc).lexeme_eq, ← htail, ← hlen, hwhole, Token.word_relaid hm hends halike h, ← hk,
    List.length_cons]

/-- A token is what stands at its place with other blanks in the gap after it as well; only what it
claims may differ, if the text ends there. -/
theorem Lexes.relaid {before : Option Kind} {c : Char} {cs own u u' : List Char}
    {r : Except Complaint Lexeme} (h : Lexes before c cs r) {kind : Kind} {text : String} {n : Nat}
    (hr : r = .ok (.token kind text n)) (hcs : cs = own ++ u)
    (hown : c :: own = (c :: cs).take n) (halike : Alike u u') :
    ∃ n', lexeme before c (own ++ u') = .ok (.token kind text n') ∧
      c :: own = (c :: (own ++ u')).take n' := by
  have hsolid : solid (c :: cs) = solid (c :: (own ++ u')) := by
    rw [hcs]
    exact solid_append_congr halike.solid_eq (c :: own)
  have hexact : ∀ {l : Nat}, l = own.length + 1 → c :: own = (c :: (own ++ u')).take l := by
    rintro _ rfl
    rw [List.take_succ_cons, List.take_left]
  have hlen := congrArg List.length hown
  rw [List.length_take, List.length_cons, List.length_cons] at hlen
  have hreach := (h.covers hr).reach
  cases h with
  | blank | comment | openString | openLink | unknown => cases hr
  | @string _ _ body m hq hs =>
      cases hr
      have hle := (stringBody_append hs []).2
      obtain rfl : own = cs.take m := by simpa using hown
      have hbody := (stringBody_append (stringBody_take hs) u').1
      exact ⟨_, (Lexes.string hq hbody).lexeme_eq, hexact (by omega)⟩
  | @link cs body hs =>
      cases hr
      have hle := linkBody_length hs
      obtain rfl : own = '[' :: cs.take (body.length + 2) := by simpa using hown
      exact ⟨_, (Lexes.link (linkBody_followed hs u')).lexeme_eq,
        hexact (by simp only [List.length_cons, List.length_take] at hlen ⊢; omega)⟩
  | date hd hm =>
      cases hr
      have hn := (momentLength?_bounds hm).2
      rw [eq_of_solid (fun hw => momentLength?_append hw.detached) hsolid] at hm
      have hl : n = own.length + 1 := by rw [List.length_cons] at hn; omega
      rw [← hown, hexact hl]
      exact ⟨_, (Lexes.date hd hm).lexeme_eq, rfl⟩
  | number hd hm =>
      cases hr
      have hn := (numberLength_bounds hd cs).2
      rw [eq_of_solid (fun hw => momentLength?_append hw.detached) hsolid] at hm
      have hl : numberLength (c :: cs) = own.length + 1 := by omega
      rw [← hown, hexact hl, eq_of_solid (fun hw => numberLength_append hw.detached) hsolid]
      exact ⟨_, (Lexes.number hd hm).lexeme_eq, rfl⟩
  | @tag d cs ht =>
      cases hr
      have htags : (d :: cs).takeWhile isTagChar = (own ++ u').takeWhile isTagChar := by
        rw [hcs]
        exact eq_of_solid (fun hw => takeWhile_append_of_head (isTagChar_of_open hw))
          (solid_append_congr halike.solid_eq own)
      have hle := (List.takeWhile_prefix isTagChar (l := d :: cs)).length_le
      have hl : ((d :: cs).takeWhile isTagChar).length + 1 = own.length + 1 := by omega
      have hpos : 1 ≤ ((d :: cs).takeWhile isTagChar).length := by simp [ht]
      cases own with
      | nil =>
          rw [List.length_nil] at hl
          omega
      | cons d' own =>
          obtain ⟨rfl, -⟩ := List.cons_eq_cons.mp hcs
          rw [← hown, hexact hl, htags]
          exact ⟨_, (Lexes.tag ht).lexeme_eq, rfl⟩
  | @pair _ d cs _ hp =>
      cases hr
      obtain rfl : own = [d] := by simpa using hown
      exact ⟨_, (Lexes.pair hp).lexeme_eq, rfl⟩
  | single ho hp hc =>
      cases hr
      obtain rfl : own = [] := by
        cases cs <;> simpa using hown
      subst hcs
      refine ⟨_, (Lexes.single ho (head?_bind_of_solid halike.solid_eq hp) ?_).lexeme_eq, ?_⟩
      · intro hslash hhead
        exact hc hslash ((head?_iff_of_solid halike.solid_eq (by decide)).mpr hhead)
      · cases u' <;> rfl
  | word hw =>
      rw [if_neg (by simp [operator?_eq_none_of_isWordStart hw])] at hreach
      obtain rfl : n = own.length + 1 := by omega
      subst hcs
      exact ⟨_, Lexes.word_relaid hw halike (Except.ok.inj hr), hexact rfl⟩
  | mark hm hl =>
      cases hr
      obtain rfl : own = [] := by simpa using hown
      subst hcs
      refine ⟨_, (Lexes.mark hm ?_).lexeme_eq, rfl⟩
      intro hbracket hhead
      exact hl hbracket ((head?_iff_of_solid halike.solid_eq (by decide)).mpr hhead)

/-! ## Other blanks in gaps -/

/-- Nothing but blanks. -/
def IsBlanks (g : List Char) : Prop :=
  ∀ c ∈ g, isGap c = true

instance (g : List Char) : Decidable (IsBlanks g) :=
  decidable_of_iff (g.all isGap = true) List.all_eq_true

/-- A gap between two tokens may have other blanks in the place of its own. -/
def Respaced (g g' : List Char) : Prop :=
  g' = g ∨ g ≠ [] ∧ g' ≠ [] ∧ IsBlanks g ∧ IsBlanks g'

instance (g g' : List Char) : Decidable (Respaced g g') :=
  inferInstanceAs (Decidable (g' = g ∨ g ≠ [] ∧ g' ≠ [] ∧ IsBlanks g ∧ IsBlanks g'))

/-- Gaps with other blanks in the place of theirs, where the last one may end with any blanks. -/
inductive Relaid : List (List Char) → List (List Char) → Prop
  | last {g w w' : List Char} : IsBlanks w → IsBlanks w' → Relaid [g ++ w] [g ++ w']
  | gap {g g' : List Char} {gs gs' : List (List Char)} : Respaced g g' → Relaid gs gs' →
      Relaid (g :: gs) (g' :: gs')

theorem skipped_of_isBlanks {g : List Char} (h : IsBlanks g) (rest : List Char) :
    Skipped rest g := by
  induction g with
  | nil => exact .nil
  | cons c g ih =>
      obtain ⟨hc, hg⟩ := List.forall_mem_cons.mp h
      exact .blank hc (ih hg)

theorem Skipped.congr_head {rest rest' g : List Char} (h : Skipped rest g)
    (hhead : rest'.head? = rest.head?) : Skipped rest' g := by
  induction h with
  | nil => exact .nil
  | blank hc _ ih => exact .blank hc ih
  | @comment body cs hbody hend _ ih =>
      refine .comment hbody ?_ ih
      rw [List.head?_append, hhead, ← List.head?_append]
      exact hend

/-- A comment at the end of a text takes in the blanks that are put after it, up to a line end. -/
theorem Skipped.append_isBlanks {g w : List Char} (h : Skipped [] g) (hw : IsBlanks w) :
    Skipped [] (g ++ w) := by
  induction h with
  | nil => exact skipped_of_isBlanks hw []
  | blank hc _ ih => exact .blank hc ih
  | @comment body cs hbody hend _ ih =>
      rw [List.cons_append, List.cons_append, List.append_assoc]
      cases cs with
      | cons d cs => exact .comment hbody (by simpa using hend) ih
      | nil =>
          rw [List.nil_append, ← List.takeWhile_append_dropWhile (p := (· != '\n')) (l := w),
            ← List.append_assoc]
          refine .comment ?_ ?_ (skipped_of_isBlanks ?_ [])
          · intro hmem
            rcases List.mem_append.mp hmem with hmem | hmem
            · exact hbody hmem
            · exact absurd (List.mem_takeWhile_imp hmem) (by decide)
          · intro c hc
            have hnot := List.head?_dropWhile_not (· != '\n') w
            rw [List.append_nil] at hc
            rw [Option.mem_def.mp hc] at hnot
            simpa using hnot
          · exact fun c hc => hw c ((List.dropWhile_sublist _).subset hc)

theorem Skipped.of_append_isBlanks {g w : List Char} (h : Skipped [] (g ++ w)) (hw : IsBlanks w) :
    Skipped [] g := by
  generalize hx : g ++ w = x at h
  induction h generalizing g with
  | nil =>
      obtain ⟨rfl, -⟩ := List.append_eq_nil_iff.mp hx
      exact .nil
  | blank hc _ ih =>
      cases g with
      | nil => exact .nil
      | cons d g =>
          obtain ⟨rfl, htail⟩ := List.cons_eq_cons.mp hx
          exact .blank hc (ih htail)
  | @comment body cs hbody hend _ ih =>
      match g, hx with
      | [], _ => exact .nil
      | [d], hx =>
          obtain ⟨-, rfl⟩ := List.cons_eq_cons.mp hx
          exact absurd (hw '/' (by simp)) (by decide)
      | d :: d' :: g, hx =>
          simp only [List.cons_append, List.cons.injEq] at hx
          obtain ⟨rfl, rfl, htail⟩ := hx
          rcases List.append_eq_append_iff.mp htail with ⟨k, rfl, rfl⟩ | ⟨k, rfl, rfl⟩
          · rw [← List.append_nil g]
            exact .comment (fun hmem => hbody (List.mem_append_left k hmem)) (by simp) .nil
          · refine .comment hbody (fun c hc => hend c ?_) (ih rfl)
            cases k with
            | nil => cases hc
            | cons d k => exact hc

/-- No token starts with a blank of any kind. -/
theorem Lexes.isBlank_eq_false {before : Option Kind} {c : Char} {cs : List Char}
    {r : Except Complaint Lexeme} (h : Lexes before c cs r) {kind : Kind} {text : String} {n : Nat}
    (hr : r = .ok (.token kind text n)) : Text.isBlank c = false := by
  have hoperator : ∀ {kind : Kind}, operator? c = some kind → Text.isBlank c = false := by
    intro kind ho
    unfold operator? at ho
    split at ho <;> cases ho <;> decide
  cases h with
  | blank | comment | openString | openLink | unknown => cases hr
  | string hq _ =>
      simp only [isQuote, Bool.or_eq_true, beq_iff_eq] at hq
      rcases hq with rfl | rfl <;> decide
  | link _ => decide
  | date hd _ => exact Text.isBlank_eq_false_of_isDigit hd
  | number hd _ => exact Text.isBlank_eq_false_of_isDigit hd
  | tag _ => decide
  | pair hp =>
      obtain ⟨-, -, kind', ho⟩ := pairOperator?_eq_some hp
      exact hoperator ho
  | single ho _ _ => exact hoperator ho
  | word hw => exact Text.isBlank_eq_false_of_isWord (Text.isWord_of_isWordStart hw)
  | mark hm _ =>
      unfold punctuation? at hm
      split at hm <;> cases hm <;> decide

theorem isBlank_of_isGap : ∀ c, isGap c = true → Text.isBlank c = true :=
  forall_isGap.mpr (by decide)

theorem solid_of_isBlanks {g : List Char} (h : IsBlanks g) : solid g = [] := by
  cases g with
  | nil => rfl
  | cons c g => simp [solid, h c (by simp)]

theorem alike_last {w w' : List Char} (hw : IsBlanks w) (hw' : IsBlanks w') (g : List Char) :
    Alike (g ++ w) (g ++ w') := by
  have hdrop : ∀ {w : List Char}, IsBlanks w → w.dropWhile Text.isBlank = [] := by
    intro w hw
    exact List.dropWhile_eq_nil_iff.mpr fun c hc => isBlank_of_isGap c (hw c hc)
  have halike : Alike w w' := by
    constructor
    · rw [solid_of_isBlanks hw, solid_of_isBlanks hw']
    · rw [hdrop hw, hdrop hw']
  exact halike.append g

theorem alike_gap {g g' : List Char} (hg : Respaced g g') {c : Char}
    (hc : Text.isBlank c = false) {cs cs' : List Char} (h : solid (c :: cs) = solid (c :: cs')) :
    Alike (g ++ c :: cs) (g' ++ c :: cs') := by
  have hdrop : ∀ cs, (c :: cs).dropWhile Text.isBlank = c :: cs :=
    fun cs => List.dropWhile_cons_of_neg (by simp [hc])
  rcases hg with rfl | ⟨hne, hne', hb, hb'⟩
  · have halike : Alike (c :: cs) (c :: cs') := ⟨h, by rw [hdrop, hdrop, h]⟩
    exact halike.append g'
  · have hblank : ∀ {g : List Char}, IsBlanks g → ∀ d ∈ g, Text.isBlank d = true :=
      fun hb d hd => isBlank_of_isGap d (hb d hd)
    have hnil : ∀ {g : List Char}, g ≠ [] → IsBlanks g → ∀ rest, solid (g ++ rest) = [] := by
      intro g hne hb rest
      cases g with
      | nil => exact absurd rfl hne
      | cons d g => simp [solid, hb d (by simp)]
    constructor
    · rw [hnil hne hb, hnil hne' hb']
    · rw [List.dropWhile_append_of_pos (hblank hb), List.dropWhile_append_of_pos (hblank hb'),
        hdrop, hdrop, h]

theorem Relaid.uncons {g : List Char} {gs gs' : List (List Char)} (h : Relaid (g :: gs) gs')
    (hne : gs ≠ []) : ∃ g' hs, gs' = g' :: hs ∧ Respaced g g' ∧ Relaid gs hs := by
  cases h with
  | last _ _ => exact absurd rfl hne
  | gap hspaced hr => exact ⟨_, _, rfl, hspaced, hr⟩

/-- The same token. -/
def SamePiece (x x' : Piece) : Prop :=
  x'.own = x.own ∧ x'.kind = x.kind ∧ x'.text = x.text

/-- The same token after a gap that may have other blanks. -/
def Twin (x x' : Piece) : Prop :=
  SamePiece x x' ∧ Respaced x.gap x'.gap

/-- A text with other blanks in its gaps is cut into the same tokens. -/
theorem cut_relaid {before : Option Kind} {xs : List Piece} {g : List Char} (h : Cut before xs g)
    (hg : Skipped [] g) {gs' : List (List Char)}
    (hr : Relaid (xs.map Piece.gap ++ [g]) gs') :
    ∃ xs' g', Cut before xs' g' ∧ Skipped [] g' ∧ gs' = xs'.map Piece.gap ++ [g'] ∧
      List.Forall₂ Twin xs xs' ∧ Alike (joined xs g) (joined xs' g') := by
  induction h generalizing gs' with
  | done =>
      cases hr with
      | last hw hw' =>
          exact ⟨[], _, .done, (hg.of_append_isBlanks hw).append_isBlanks hw', rfl, .nil,
            alike_last hw hw' _⟩
      | gap _ hr => cases hr
  | @piece before x xs g c cs hgap hall hlex hown htail ih =>
      obtain ⟨gap', gs', rfl, hspaced, hrest⟩ := hr.uncons (by simp)
      obtain ⟨xs', g', hcut, hg', rfl, hsame, halike⟩ := ih hg hrest
      have hpiece := Cut.piece hgap hall hlex hown htail
      obtain ⟨c, own, hx, hlexes⟩ := hpiece.exists_lexes
      have hblank := hlexes.isBlank_eq_false rfl
      have hclaimed := hpiece.take_claimed.1
      rw [hx] at hclaimed hgap
      obtain ⟨n', hlex', hown'⟩ := hlexes.relaid rfl rfl hclaimed.symm halike
      refine ⟨⟨gap', x.own, x.kind, x.text, n'⟩ :: xs', g', ?_, hg', rfl,
        .cons ⟨⟨rfl, rfl, rfl⟩, hspaced⟩ hsame, ?_⟩
      · refine .piece ?_ (by rw [hx]; rfl) hlex' (by rw [hx]; exact hown') hcut
        rw [hx]
        rcases hspaced with rfl | ⟨-, -, -, hb⟩
        · exact hgap.congr_head rfl
        · exact skipped_of_isBlanks hb _
      · rw [joined, joined, hx]
        exact alike_gap hspaced hblank (solid_append_congr halike.solid_eq (c :: own))

/-! ## Blanks before the first token -/

theorem Skipped.prepend {rest g w : List Char} (h : Skipped rest g) (hw : IsBlanks w) :
    Skipped rest (w ++ g) := by
  induction w with
  | nil => exact h
  | cons c w ih =>
      obtain ⟨hc, hw⟩ := List.forall_mem_cons.mp hw
      exact .blank hc (ih hw)

theorem Skipped.of_prepend {rest g w : List Char} (h : Skipped rest (w ++ g)) (hw : IsBlanks w) :
    Skipped rest g := by
  induction w with
  | nil => exact h
  | cons c w ih =>
      obtain ⟨hc, hw⟩ := List.forall_mem_cons.mp hw
      rw [List.cons_append] at h
      generalize hx : w ++ g = x at h
      cases h with
      | blank _ h => exact ih (hx ▸ h) hw
      | comment => exact absurd hc (by decide)

/-- The same tokens, with other blanks in the gaps between them. -/
inductive Twins : List Piece → List Piece → Prop
  | nil : Twins [] []
  | cons {x x' : Piece} {xs xs' : List Piece} : SamePiece x x' → List.Forall₂ Twin xs xs' →
      Twins (x :: xs) (x' :: xs')

theorem twins_of_forall₂ {xs xs' : List Piece} (h : List.Forall₂ Twin xs xs') : Twins xs xs' := by
  cases h with
  | nil => exact .nil
  | cons hx h => exact .cons hx.1 h

/-- The gaps of a text with other blanks in the place of theirs, where the first one may start and
the last one may end with any blanks. -/
inductive LaidAnew : List (List Char) → List (List Char) → Prop
  | mk {w w' g g' : List Char} {gs gs' : List (List Char)} : IsBlanks w → IsBlanks w' →
      Relaid (g :: gs) (g' :: gs') → LaidAnew ((w ++ g) :: gs) ((w' ++ g') :: gs')

theorem Cut.skipped {before : Option Kind} {x : Piece} {xs : List Piece} {rest : List Char}
    (h : Cut before (x :: xs) rest) : Skipped (x.own ++ joined xs rest) x.gap := by
  cases h with
  | piece hgap => exact hgap

theorem Cut.regap {before : Option Kind} {x : Piece} {xs : List Piece} {rest gap : List Char}
    (h : Cut before (x :: xs) rest) (hgap : Skipped (x.own ++ joined xs rest) gap) :
    Cut before ({ x with gap } :: xs) rest := by
  cases h with
  | piece _ hall hlex hown htail => exact .piece hgap hall hlex hown htail

/-- A text with other blanks in its gaps, the first and the last one included, is cut into the same
tokens. -/
theorem cut_laidAnew {before : Option Kind} {xs : List Piece} {g : List Char}
    (hcut : Cut before xs g) (hg : Skipped [] g) {gs' : List (List Char)}
    (h : LaidAnew (xs.map Piece.gap ++ [g]) gs') :
    ∃ xs' g', Cut before xs' g' ∧ Skipped [] g' ∧ gs' = xs'.map Piece.gap ++ [g'] ∧
      Twins xs xs' := by
  generalize hgs : xs.map Piece.gap ++ [g] = gs at h
  obtain ⟨hw, hw', hr⟩ := h
  cases xs with
  | nil =>
      obtain ⟨rfl, rfl⟩ := List.cons_eq_cons.mp hgs
      obtain ⟨xs', g', -, hg', heq, hsame, -⟩ :=
        cut_relaid (Cut.done : Cut before [] _) (hg.of_prepend hw) hr
      cases hsame
      obtain ⟨rfl, rfl⟩ := List.cons_eq_cons.mp heq
      exact ⟨[], _, .done, hg'.prepend hw', rfl, .nil⟩
  | cons x xs =>
      obtain ⟨hx, rfl⟩ := List.cons_eq_cons.mp hgs
      have hskipped := hcut.skipped
      rw [hx] at hskipped
      obtain ⟨xs', g', hcut', hg', heq, hsame, -⟩ :=
        cut_relaid (hcut.regap (hskipped.of_prepend hw)) hg hr
      cases hsame with
      | @cons _ x' _ xs' hx' hsame =>
          obtain ⟨rfl, rfl⟩ := List.cons_eq_cons.mp heq
          exact ⟨_, g', hcut'.regap (hcut'.skipped.prepend hw'), hg', rfl, .cons hx'.1 hsame⟩

end VaultQuery.Token
