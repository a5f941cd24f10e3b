import VaultQuery.Proofs.Token.Weave

/-!
A blank in the place of a comment.  A token before a comment looks no further than to where the
comment opens, and a blank stops it there as well (`Lexes.blanked`); only the first word of a phrase
looks over the blank, for the second word, which the comment kept apart from it.  So a text has the
same tokens with a blank in the place of a comment, unless a name stands before the comment and
another one, which is no keyword, after it (`cut_blanked`, `Cut.exists_second`).
-/

namespace VaultQuery.Token

/-! ## The second word of a phrase -/

/-- The letters that the second word of a phrase starts with. -/
def secondLetters : List Char :=
  ['b', 'B', 'i', 'I', 'İ', 'ı']

/-- The upper case of these letters. -/
def secondCapitals : List Char :=
  ['B', 'I', 'İ']

theorem mem_secondLetters {l c : Char} (hl : l = 'b' ∨ l = 'i') (h : isLetterOf l c = true) :
    c ∈ secondLetters := by
  have hascii : ∀ n < 0x80, (Char.ofNat n).toLower = 'b' ∨ (Char.ofNat n).toLower = 'i' →
      Char.ofNat n ∈ secondLetters := by decide
  simp only [isLetterOf, Bool.or_eq_true, beq_iff_eq, Bool.and_eq_true] at h
  rcases h with rfl | ⟨-, h | h⟩
  · have hlt : c.toNat < 0x80 := by
      refine toNat_lt_of_isLower_toLower ?_
      rcases hl with hl | hl <;> rw [hl] <;> decide
    have hmem := hascii c.toNat hlt
    rw [Char.ofNat_toNat] at hmem
    exact hmem hl
  · rw [← Char.ofNat_toNat c, h]
    decide
  · rw [← Char.ofNat_toNat c, h]
    decide

theorem IsPhrase.exists_second {kind : Kind} {first second : String}
    (h : IsPhrase kind first second) {b : List Char} (hb : Spells second.toList b) :
    ∃ d ∈ secondLetters, ∃ es, b = d :: es := by
  cases h with
  | groupBy =>
      cases hb with
      | cons hd _ => exact ⟨_, mem_secondLetters (.inl rfl) hd, _, rfl⟩
  | withoutId =>
      cases hb with
      | cons hd _ => exact ⟨_, mem_secondLetters (.inr rfl) hd, _, rfl⟩

theorem isWordStart_of_mem_secondLetters {d : Char} (hd : d ∈ secondLetters) :
    Text.isWordStart d = true := by
  have hall : secondLetters.all Text.isWordStart = true := by decide +kernel
  exact List.all_eq_true.mp hall d hd

/-- A word with such a first letter is none that starts with another one. -/
theorem upperCase_ne {d : Char} (hd : d ∈ secondLetters) (cs : List Char) (word : String)
    (hword : (secondCapitals.all fun u => word.toList.head? != some u) = true) :
    (Text.upperCase (String.ofList (d :: cs)) == word) = false := by
  have hall : (secondLetters.all fun d => secondCapitals.any fun u =>
      (Text.upperChar d).head? == some u) = true := by decide +kernel
  obtain ⟨u, hu, hupper⟩ := List.any_eq_true.mp (List.all_eq_true.mp hall d hd)
  have hne : word.toList.head? ≠ some u := by simpa using List.all_eq_true.mp hword u hu
  rw [beq_eq_false_iff_ne]
  rintro rfl
  apply hne
  rw [Text.upperCase, String.toList_ofList, String.toList_ofList, Text.upper, List.flatMap_cons,
    List.head?_append, beq_iff_eq.mp hupper]
  rfl

/-- A word with such a first letter is a name, wherever it stands. -/
theorem word_of_mem_secondLetters {d : Char} (hd : d ∈ secondLetters) (kind : Kind)
    (cs : List Char) (n : Nat) :
    word (some kind) (d :: cs) (n + 1) =
      .token .identifier (String.ofList (d :: cs.take n)) (n + 1) := by
  have hgroup := upperCase_ne hd (cs.take n) "GROUP" (by decide)
  have hwithout := upperCase_ne hd (cs.take n) "WITHOUT" (by decide)
  have hkeyword : keyword? (Text.upperCase (String.ofList (d :: cs.take n))) = none := by
    simp (disch := decide) only [keyword?, upperCase_ne hd, Bool.false_eq_true, if_false]
  unfold word
  simp only [List.take_succ_cons, hgroup, hwithout, hkeyword, Bool.false_eq_true, if_false]
  cases kind <;> rfl

/-! ## One lexeme -/

section Blanked

variable {v cs ds : List Char}

theorem detached_slash (cs : List Char) : Detached ('/' :: cs) :=
  fun _ hc => .inr (Option.some.inj hc).symm

theorem detached_space (ds : List Char) : Detached (' ' :: ds) := by
  intro c hc
  obtain rfl := Option.some.inj hc
  exact .inl rfl

/-- What a detached text does not change is the same before a comment and before a blank. -/
theorem eq_of_blanked {α : Type} {f : List Char → α}
    (hf : ∀ {w : List Char}, Detached w → ∀ v, f (v ++ w) = f v) (v cs ds : List Char) :
    f (v ++ '/' :: cs) = f (v ++ ' ' :: ds) := by
  rw [hf (detached_slash cs), hf (detached_space ds)]

theorem endsWord_iff_blanked : EndsWord (v ++ '/' :: cs) ↔ EndsWord (v ++ ' ' :: ds) := by
  have hslash : Text.isWord '/' = false := by decide
  have hspace : Text.isWord ' ' = false := by decide
  cases v with
  | nil => simp [EndsWord, hslash, hspace]
  | cons c v => simp [EndsWord]

theorem head?_of_blanked {d : Char} (hd : d ≠ ' ') (h : (v ++ ' ' :: ds).head? = some d) :
    (v ++ '/' :: cs).head? = some d := by
  cases v with
  | nil => exact absurd (Option.some.inj h).symm hd
  | cons c v => exact h

/-- A name, and after blanks one that could be the second word of a phrase with it. -/
structure Joins (kind : Kind) (v ds : List Char) : Prop where
  kind_eq : kind = .identifier
  blank : ∀ c ∈ v, Text.isBlank c = true
  second : ∃ d ∈ secondLetters, ∃ es, ds.dropWhile Text.isBlank = d :: es

/-- A phrase that a blank in the place of a comment makes goes over that blank. -/
theorem IsPhrase.joins {kind : Kind} {first second : String} (h : IsPhrase kind first second)
    {m : List Char} (hm : ∀ c ∈ m, Text.isBlank c = false) (hends : EndsWord (v ++ '/' :: cs))
    (hnone : phraseLength? first second (m ++ (v ++ '/' :: cs)) = none) {n : Nat}
    (hsome : phraseLength? first second (m ++ (v ++ ' ' :: ds)) = some n) :
    Joins .identifier v ds := by
  obtain ⟨a, g, b, rest, heq, ha, hg, hblank, hb, hend, -⟩ := h.length?_eq_some_iff.mp hsome
  obtain ⟨rfl, htail⟩ := h.name_eq hm (endsWord_iff_blanked.mp hends) heq ha hg hblank
  obtain ⟨d, hd, es, rfl⟩ := h.exists_second hb
  have hword := Text.isWord_of_isWordStart (isWordStart_of_mem_secondLetters hd)
  have hdrop : (v ++ ' ' :: ds).dropWhile Text.isBlank = d :: es ++ rest := by
    rw [htail, List.dropWhile_append_of_pos hblank, List.cons_append,
      List.dropWhile_cons_of_neg (by simp [Text.isBlank_eq_false_of_isWord hword])]
  rw [List.dropWhile_append] at hdrop
  split at hdrop
  case isTrue hv =>
      rw [List.isEmpty_iff, List.dropWhile_eq_nil_iff] at hv
      rw [List.dropWhile_cons_of_pos (by decide)] at hdrop
      exact ⟨rfl, hv, d, hd, _, hdrop⟩
  case isFalse =>
      -- the second word ends before the comment, so the phrase was there before
      obtain ⟨z, hz, rfl⟩ : ∃ z, v.dropWhile Text.isBlank = d :: es ++ z ∧
          rest = z ++ ' ' :: ds := by
        rcases List.append_eq_append_iff.mp hdrop with ⟨z, hz, hspace⟩ | ⟨z, hz, hrest⟩
        · cases z with
          | nil => exact ⟨[], by simpa using hz.symm, by simpa using hspace.symm⟩
          | cons c z =>
              obtain ⟨rfl, -⟩ := List.cons_eq_cons.mp hspace
              have hspace := hb.isWord h.isLower.2.1 ' ' (by simp [hz])
              exact absurd hspace (by decide)
        · exact ⟨z, hz, hrest⟩
      have hsplit : v = v.takeWhile Text.isBlank ++ (d :: es ++ z) := by
        rw [← hz, List.takeWhile_append_dropWhile]
      have hne : v.takeWhile Text.isBlank ≠ [] := by
        intro hnil
        rw [hsplit, hnil] at hends
        exact absurd hword (by simp [hends d rfl])
      have hall : v ++ '/' :: cs =
          v.takeWhile Text.isBlank ++ (d :: es ++ (z ++ '/' :: cs)) := by
        conv_lhs => rw [hsplit]
        simp
      have hphrase := h.length?_eq_some_iff.mpr ⟨a, v.takeWhile Text.isBlank, d :: es,
        z ++ '/' :: cs, by rw [← hall], ha, hne, fun c hc => List.mem_takeWhile_imp hc, hb,
        endsWord_iff_blanked.mpr hend, rfl⟩
      rw [hnone] at hphrase
      cases hphrase

/-- Whether a phrase opens with a name, unless one does only over the blank. -/
theorem IsPhrase.blanked {kind : Kind} {first second : String} (h : IsPhrase kind first second)
    (b : Bool) {m k : List Char} (hm : ∀ c ∈ m, Text.isBlank c = false)
    (hends : EndsWord (k ++ (v ++ '/' :: cs))) (ds : List Char) :
    ((if b then phraseLength? first second (m ++ (k ++ (v ++ '/' :: cs))) else none) = none →
      (if b then phraseLength? first second (m ++ (k ++ (v ++ ' ' :: ds))) else none) = none ∨
        b = true ∧ Joins .identifier v ds) ∧
    ((if b then phraseLength? first second (m ++ (k ++ (v ++ '/' :: cs))) else none) =
        some (m ++ k).length →
      (if b then phraseLength? first second (m ++ (k ++ (v ++ ' ' :: ds))) else none) =
        some (m ++ k).length) := by
  cases b with
  | false => exact ⟨.inl, id⟩
  | true =>
      constructor
      · intro hnone
        cases hn : phraseLength? first second (m ++ (k ++ (v ++ ' ' :: ds))) with
        | none => exact .inl rfl
        | some n =>
            rw [if_pos rfl] at hnone
            rw [← List.append_assoc k] at hends hn hnone
            have hjoins := h.joins hm hends hnone hn
            exact .inr ⟨rfl, rfl, fun c hc => hjoins.blank c (List.mem_append_right k hc),
              hjoins.second⟩
      · intro hsome
        rw [if_pos rfl, ← List.append_assoc] at hsome ⊢
        exact h.followed endsWord_iff_blanked.mp hsome

/-- A word is the same before a blank as before a comment, unless it joins a phrase. -/
theorem word_blanked {before : Option Kind} {m k : List Char}
    (hm : ∀ c ∈ m, Text.isBlank c = false) (hends : EndsWord (k ++ (v ++ '/' :: cs)))
    (ds : List Char) {kind : Kind} {text : String}
    (h : word before (m ++ (k ++ (v ++ '/' :: cs))) m.length =
      .token kind text (m ++ k).length) :
    word before (m ++ (k ++ (v ++ ' ' :: ds))) m.length = .token kind text (m ++ k).length ∨
      Joins kind v ds := by
  have hgroup := IsPhrase.groupBy.blanked (Text.upperCase (String.ofList m) == "GROUP") hm hends ds
  have hwithout :=
    IsPhrase.withoutId.blanked (Text.upperCase (String.ofList m) == "WITHOUT") hm hends ds
  have htake : ∀ u, (m ++ (k ++ u)).take (m ++ k).length = m ++ k := by
    intro u
    rw [← List.append_assoc, List.take_left]
  have hcall : ((k ++ (v ++ ' ' :: ds)).head? == some '(') =
      ((k ++ (v ++ '/' :: cs)).head? == some '(') := by
    rw [← List.append_assoc, ← List.append_assoc]
    cases k ++ v <;> rfl
  simp only [word, List.take_left, List.drop_left] at h ⊢
  split at h
  case h_1 => exact .inl h
  case h_2 => exact .inl h
  case h_3 =>
  split at h
  case h_1 n hn =>
      cases h
      rw [hgroup.2 hn]
      exact .inl (by simp only [phraseToken, htake])
  case h_2 n hnone hn =>
      cases h
      rcases hgroup.1 hnone with hnone' | ⟨hupper, -⟩
      · rw [hnone', hwithout.2 hn]
        exact .inl (by simp only [phraseToken, htake])
      · rw [beq_iff_eq.mp hupper] at hn
        cases hn
  case h_3 hnone hnone' =>
      have hname : ∀ {upper : String}, keyword? upper = none →
          (Text.upperCase (String.ofList m) == upper) = true → kind = .identifier := by
        intro upper hkeyword hupper
        rw [beq_iff_eq.mp hupper, hkeyword] at h
        exact (Lexeme.token.inj h).1.symm
      rcases hgroup.1 hnone with hblanked | ⟨hupper, hjoins⟩
      · rcases hwithout.1 hnone' with hblanked' | ⟨hupper, hjoins⟩
        · rw [hblanked, hblanked', hcall]
          exact .inl h
        · exact .inr ⟨hname (by decide) hupper, hjoins.blank, hjoins.second⟩
      · exact .inr ⟨hname (by decide) hupper, hjoins.blank, hjoins.second⟩

/-- What a tag sees ends before the comment, so it is over there as well with a blank. -/
theorem takeWhile_isTagChar_blanked {own : List Char}
    (h : ((own ++ (v ++ '/' :: cs)).takeWhile isTagChar).length = own.length) (ds : List Char) :
    (own ++ (v ++ ' ' :: ds)).takeWhile isTagChar = own := by
  have hown : (own ++ (v ++ '/' :: cs)).takeWhile isTagChar = own := by
    have htake := List.prefix_iff_eq_take.mp
      (List.takeWhile_prefix isTagChar (l := own ++ (v ++ '/' :: cs)))
    rwa [h, List.take_left] at htake
  have hall : ∀ c ∈ own, isTagChar c = true := by
    intro c hc
    rw [← hown] at hc
    exact List.mem_takeWhile_imp hc
  rw [List.takeWhile_append_of_pos hall] at hown
  have hnil : (v ++ '/' :: cs).takeWhile isTagChar = [] :=
    List.append_cancel_left (hown.trans (List.append_nil own).symm)
  refine takeWhile_exact hall fun c hc => ?_
  cases v with
  | nil => cases hnil
  | cons d v =>
      obtain rfl := Option.some.inj hc
      simpa [List.takeWhile_cons] using hnil

/-- A token is the same before a blank as before a comment, unless it joins a phrase. -/
theorem Lexes.blanked {before : Option Kind} {c : Char} {own u : List Char}
    {r : Except Complaint Lexeme} (h : Lexes before c u r) (ds : List Char) {kind : Kind}
    {text : String} (hr : r = .ok (.token kind text (own.length + 1)))
    (hu : u = own ++ (v ++ '/' :: '/' :: cs)) :
    lexeme before c (own ++ (v ++ ' ' :: ds)) = .ok (.token kind text (own.length + 1)) ∨
      Joins kind v ds := by
  have hassoc : ∀ w, c :: (own ++ (v ++ w)) = (c :: (own ++ v)) ++ w := by simp
  have htake : ∀ u, (c :: (own ++ u)).take (own.length + 1) = c :: own := by simp
  have hmoment : Moment.length? (c :: u) = Moment.length? (c :: (own ++ (v ++ ' ' :: ds))) := by
    rw [hu, hassoc, hassoc]
    exact eq_of_blanked momentLength?_append _ _ _
  cases h with
  | blank | comment | openString | openLink | unknown => cases hr
  | string hq hs =>
      subst hu
      cases hr
      have hbody := stringBody_take hs
      rw [List.take_left] at hbody
      exact .inl (Lexes.string hq (stringBody_append hbody _).1).lexeme_eq
  | @link es body hs =>
      obtain ⟨rfl, rfl, hlen⟩ := Lexeme.token.inj (Except.ok.inj hr)
      cases own with
      | nil => cases hlen
      | cons d own =>
          rw [List.cons_append] at hu ⊢
          obtain ⟨rfl, rfl⟩ := List.cons_eq_cons.mp hu
          have hbody : body.length + 2 = own.length := by simpa using hlen
          have hfollowed := linkBody_followed hs (v ++ ' ' :: ds)
          rw [hbody, List.take_left] at hfollowed
          rw [← hlen]
          exact .inl (Lexes.link hfollowed).lexeme_eq
  | date hd hm =>
      obtain ⟨rfl, rfl, rfl⟩ := Lexeme.token.inj (Except.ok.inj hr)
      rw [hmoment] at hm
      rw [hu, htake, ← htake (v ++ ' ' :: ds)]
      exact .inl (Lexes.date hd hm).lexeme_eq
  | number hd hm =>
      obtain ⟨rfl, rfl, hlen⟩ := Lexeme.token.inj (Except.ok.inj hr)
      rw [hmoment] at hm
      have hnumber : numberLength (c :: u) = numberLength (c :: (own ++ (v ++ ' ' :: ds))) := by
        rw [hu, hassoc, hassoc]
        exact eq_of_blanked numberLength_append _ _ _
      rw [hlen, hu, htake, ← htake (v ++ ' ' :: ds), ← hlen, hnumber]
      exact .inl (Lexes.number hd hm).lexeme_eq
  | @tag d es ht =>
      obtain ⟨rfl, rfl, hlen⟩ := Lexeme.token.inj (Except.ok.inj hr)
      have hlength := Nat.succ.inj hlen
      rw [hu] at hlength
      have htags := takeWhile_isTagChar_blanked hlength ds
      have htext : ('#' :: d :: es).take (own.length + 1) = '#' :: own := by rw [hu, htake]
      rw [hlen, htext, ← htake (v ++ ' ' :: ds), ← congrArg (·.length + 1) htags]
      cases own with
      | nil => simp [ht] at hlen
      | cons d' own =>
          rw [List.cons_append] at hu
          obtain ⟨rfl, -⟩ := List.cons_eq_cons.mp hu
          exact .inl (Lexes.tag ht).lexeme_eq
  | @pair _ d es _ hp =>
      obtain ⟨rfl, rfl, hlen⟩ := Lexeme.token.inj (Except.ok.inj hr)
      cases own with
      | nil => cases hlen
      | cons d' own =>
          obtain ⟨rfl, -⟩ := List.cons_eq_cons.mp hu
          obtain rfl : own = [] := by simpa using hlen
          exact .inl (Lexes.pair hp).lexeme_eq
  | single ho hp hc =>
      obtain ⟨rfl, rfl, hlen⟩ := Lexeme.token.inj (Except.ok.inj hr)
      obtain rfl : own = [] := by
        rw [hu] at hlen
        simpa using hlen
      subst hu
      have hpair : (v ++ ' ' :: ds).head?.bind (pairOperator? c) = none := by
        cases v with
        | nil => rfl
        | cons d v => exact hp
      have hslash : c = '/' → (v ++ ' ' :: ds).head? ≠ some '/' :=
        fun hslash hhead => hc hslash (head?_of_blanked (by decide) hhead)
      have hlex : lexeme before c _ = _ := (Lexes.single ho hpair hslash).lexeme_eq
      left
      simpa using hlex
  | word hw =>
      subst hu
      have hword := Except.ok.inj hr
      obtain ⟨m, k, hk, hlen, hm, hends⟩ := exists_name_of_word hw hword
      have hwhole : ∀ u, c :: (own ++ u) = m ++ (k ++ u) := by
        intro u
        rw [← List.append_assoc, ← hk, List.cons_append]
      have htail : identifierTail (own ++ (v ++ '/' :: '/' :: cs)) =
          identifierTail (own ++ (v ++ ' ' :: ds)) := by
        rw [← List.append_assoc, ← List.append_assoc]
        exact eq_of_blanked identifierTail_append _ _ _
      rw [hwhole, ← hlen, ← List.length_cons (a := c), hk] at hword
      rcases word_blanked hm hends ds hword with hblanked | hjoins
      · left
        rw [(Lexes.word hw).lexeme_eq, ← htail, ← hlen, hwhole, hblanked, ← hk, List.length_cons]
      · exact .inr hjoins
  | mark hm hl =>
      obtain ⟨rfl, rfl, hlen⟩ := Lexeme.token.inj (Except.ok.inj hr)
      obtain rfl : own = [] := by simpa using hlen.symm
      subst hu
      refine .inl (Lexes.mark hm fun hbracket hhead => hl hbracket ?_).lexeme_eq
      exact head?_of_blanked (by decide) hhead

end Blanked

/-! ## Pieces -/

theorem joined_gap (xs : List Piece) (g rest : List Char) :
    joined xs (g ++ rest) = joined xs g ++ rest := by
  rw [joined_append, joined_append xs g, List.append_assoc]

/-- A text is cut into the same pieces before a blank as before a comment, unless the last one joins
a phrase. -/
theorem cut_blanked {before : Option Kind} {xs : List Piece} {g cs : List Char}
    (h : Cut before xs (g ++ '/' :: '/' :: cs)) (ds : List Char) :
    Cut before xs (g ++ ' ' :: ds) ∨ ∃ x, xs.getLast? = some x ∧ Joins x.kind g ds := by
  generalize hrest : g ++ '/' :: '/' :: cs = rest at h
  induction h with
  | done => exact .inl .done
  | @piece before x xs rest c es hgap hall hlex hown htail ih =>
      subst hrest
      have hcut := Cut.piece hgap hall hlex hown htail
      rcases ih rfl with hblanked | ⟨y, hy, hjoins⟩
      · obtain ⟨c, own, hx, hlexes⟩ := hcut.exists_lexes
        have hclaimed : x.claimed = own.length + 1 := by
          rw [hcut.claimed_eq (by rw [joined_gap]; simp), hx, List.length_cons]
        rcases hlexes.blanked ds (by rw [hclaimed]) (by rw [joined_gap]) with hlex' | hjoins
        · left
          rw [← hclaimed] at hlex'
          refine .piece ?_ (by rw [hx, joined_gap]; rfl) hlex' ?_ hblanked
          · rw [hx] at hgap ⊢
            exact hgap.congr_head rfl
          · rw [hx, hclaimed]
            simp
        · cases xs with
          | nil => exact .inr ⟨x, rfl, hjoins⟩
          | cons y ys =>
              -- the next token does not start with a blank
              obtain ⟨d, fs, hy, hlexes'⟩ := htail.exists_lexes
              have hblank := hjoins.blank d (by simp [joined, hy])
              rw [hlexes'.isBlank_eq_false rfl] at hblank
              cases hblank
      · right
        refine ⟨y, ?_, hjoins⟩
        rw [List.getLast?_cons, hy]
        rfl

/-- What stands after a gap and blanks. -/
theorem Skipped.dropWhile_isBlank {rest g : List Char} (h : Skipped rest g) {d : Char}
    {es : List Char} (hd : d ≠ '/') (heq : (g ++ rest).dropWhile Text.isBlank = d :: es) :
    rest.dropWhile Text.isBlank = d :: es := by
  induction h with
  | nil => exact heq
  | blank hc _ ih =>
      rw [List.cons_append, List.dropWhile_cons_of_pos (isBlank_of_isGap _ hc)] at heq
      exact ih heq
  | comment =>
      rw [List.cons_append, List.dropWhile_cons_of_neg (by decide)] at heq
      exact absurd (List.cons_eq_cons.mp heq).1.symm hd

/-- A word that could be the second one of a phrase is a name if it stands by itself. -/
theorem Cut.exists_second {kind : Kind} {xs : List Piece} {g : List Char}
    (h : Cut (some kind) xs g) (hg : Skipped [] g) {d : Char} (hd : d ∈ secondLetters)
    {es : List Char} (heq : (joined xs g).dropWhile Text.isBlank = d :: es) :
    ∃ x ys fs, xs = x :: ys ∧ x.kind = .identifier ∧ x.text = String.ofList (d :: fs) := by
  have hstart := isWordStart_of_mem_secondLetters hd
  have hslash : d ≠ '/' := by
    rintro rfl
    exact absurd hstart (by decide)
  cases h with
  | done =>
      rw [joined, ← List.append_nil g] at heq
      cases hg.dropWhile_isBlank hslash heq
  | @piece _ x xs _ c cs hgap hall hlex _ _ =>
      rw [joined] at heq
      have hown := hgap.dropWhile_isBlank hslash heq
      have hblank := (lexeme_eq_iff.mp hlex).isBlank_eq_false rfl
      rw [hall, List.dropWhile_cons_of_neg (by simp [hblank])] at hown
      obtain ⟨rfl, rfl⟩ := List.cons_eq_cons.mp hown
      rw [(Lexes.word hstart).lexeme_eq, word_of_mem_secondLetters hd] at hlex
      obtain ⟨hkind, htext, -⟩ := Lexeme.token.inj (Except.ok.inj hlex)
      exact ⟨x, xs, _, rfl, hkind.symm, htext.symm⟩

/-! ## A comment of a text -/

/-- A comment with what stands before and after it: before it are tokens and gaps, so it is no part
of a string, a link or another comment, and it runs up to the end of its line. -/
structure IsComment (pre comment post : List Char) : Prop where
  reached : ∃ xs g, pre = joined xs g ∧ Cut none xs (g ++ (comment ++ post)) ∧
    Skipped (comment ++ post) g
  opens : ['/', '/'] <+: comment
  inLine : '\n' ∉ comment
  ends : ∀ c ∈ post.head?, c = '\n'

theorem Skipped.append {rest g g' : List Char} (h : Skipped (g' ++ rest) g)
    (h' : Skipped rest g') : Skipped rest (g ++ g') := by
  induction h with
  | nil => exact h'
  | blank hc _ ih => exact .blank hc ih
  | @comment body cs hbody hend _ ih =>
      rw [List.cons_append, List.cons_append, List.append_assoc]
      refine .comment hbody ?_ ih
      rwa [List.append_assoc]

/-- What stands before a comment is a gap before anything else. -/
theorem Skipped.of_slash {cs g : List Char} (h : Skipped ('/' :: cs) g) (rest : List Char) :
    Skipped rest g := by
  induction h with
  | nil => exact .nil
  | blank hc _ ih => exact .blank hc ih
  | @comment body ds hbody hend _ ih =>
      refine .comment hbody (fun c hc => ?_) ih
      cases ds with
      | nil => exact absurd (hend '/' rfl) (by decide)
      | cons d ds => exact hend c hc

/-- The scan goes through pieces and the gap after them. -/
theorem scan_past {before : Option Kind} {xs : List Piece} {g rest : List Char}
    (h : Cut before xs (g ++ rest)) (hg : Skipped rest g) (hne : g ≠ []) (p : Position) :
    scan p before 0 (joined xs (g ++ rest)) =
      (scan (p.advance (joined xs g)) (lastKind before xs) 0 rest).map (placed p xs ++ ·) := by
  rw [scan_cut h, after_eq, h.excess_eq_zero (by simp [hne]), scan_skipped hg,
    ← Position.advance_append, ← joined_append xs g]

theorem lastKind_of_getLast? (before : Option Kind) {xs : List Piece} {x : Piece}
    (h : xs.getLast? = some x) : lastKind before xs = some x.kind := by
  induction xs generalizing before with
  | nil => cases h
  | cons y ys ih =>
      cases ys with
      | nil =>
          obtain rfl := Option.some.inj h
          rfl
      | cons z zs =>
          rw [List.getLast?_cons_cons] at h
          exact ih (some y.kind) h

/-- A text of pieces, with a part `k` of the gap between two of them. -/
structure Splits (xs : List Piece) (g k : List Char) (ys : List Piece) (g' : List Char) :
    Prop where
  before : Cut none xs (g ++ (k ++ joined ys g'))
  gap : Skipped (k ++ joined ys g') g
  part : Skipped (joined ys g') k
  ne_nil : k ≠ []
  after : Cut (lastKind none xs) ys g'
  last : Skipped [] g'

theorem scan_splits {xs : List Piece} {g k rest : List Char}
    (hcut : Cut none xs (g ++ (k ++ rest))) (hg : Skipped (k ++ rest) g) (hk : Skipped rest k)
    (hne : k ≠ []) :
    tokenize (String.ofList (joined xs g ++ (k ++ rest))) =
      (scan (Position.advance {} (joined xs g ++ k)) (lastKind none xs) 0 rest).map
        (placed {} xs ++ ·) := by
  rw [← List.append_assoc] at hcut
  rw [tokenize, String.toList_ofList, ← List.append_assoc, ← joined_gap, ← joined_gap,
    scan_past hcut (hg.append hk) (by simp [hne])]

theorem Splits.tokenize_eq {xs ys : List Piece} {g k g' : List Char} (h : Splits xs g k ys g') :
    ∃ stop : Token, stop.kind = .endOfText ∧
      tokenize (String.ofList (joined xs g ++ (k ++ joined ys g'))) =
        .ok (placed {} xs ++ placed (Position.advance {} (joined xs g ++ k)) ys ++ [stop]) := by
  rw [scan_splits h.before h.gap h.part h.ne_nil, scan_whole h.after h.last]
  exact ⟨_, rfl, congrArg Except.ok (List.append_assoc _ _ _).symm⟩

theorem IsComment.skipped {pre comment post : List Char} (h : IsComment pre comment post) :
    Skipped post comment := by
  obtain ⟨body, rfl⟩ := h.opens
  have hbody : '\n' ∉ body := fun hmem => h.inLine (List.mem_append_right _ hmem)
  have hcomment : Skipped post ('/' :: '/' :: (body ++ [])) := .comment hbody h.ends .nil
  rwa [List.append_nil] at hcomment

theorem IsComment.ne_nil {pre comment post : List Char} (h : IsComment pre comment post) :
    comment ≠ [] := by
  obtain ⟨body, rfl⟩ := h.opens
  exact List.cons_ne_nil _ _

/-- A text that has tokens splits at a comment. -/
theorem IsComment.exists_splits {pre comment post : List Char} (h : IsComment pre comment post)
    {tokens : List Token}
    (htokens : tokenize (String.ofList (pre ++ (comment ++ post))) = .ok tokens) :
    ∃ xs g ys g', pre = joined xs g ∧ post = joined ys g' ∧ Splits xs g comment ys g' := by
  obtain ⟨xs, g, rfl, hcut, hg⟩ := h.reached
  obtain ⟨ys, g', rest, rfl, hafter, hg', hstuck⟩ := exists_cut (lastKind none xs) post
  cases rest with
  | nil =>
      rw [List.append_nil] at hcut hg hafter h ⊢
      exact ⟨xs, g, ys, g', rfl, rfl, hcut, hg, h.skipped, h.ne_nil, hafter, hg'⟩
  | cons c ds =>
      obtain ⟨complaint, hlex⟩ := hstuck c ds rfl
      rw [scan_splits hcut hg h.skipped h.ne_nil, scan_stuck hafter hg' hlex] at htokens
      cases htokens

/-- A blank takes the place of a comment, or the tokens on both sides of the comment are names. -/
theorem Splits.blanked {xs ys : List Piece} {g body g' : List Char}
    (h : Splits xs g ('/' :: '/' :: body) ys g') :
    Splits xs g [' '] ys g' ∨ ∃ x y zs d fs, xs.getLast? = some x ∧ ys = y :: zs ∧
      x.kind = .identifier ∧ y.kind = .identifier ∧ d ∈ secondLetters ∧
        y.text = String.ofList (d :: fs) := by
  rcases cut_blanked h.before (joined ys g') with hcut | ⟨x, hx, hjoins⟩
  · exact .inl ⟨hcut, h.gap.of_slash _, .blank rfl .nil, by simp, h.after, h.last⟩
  · obtain ⟨d, hd, es, heq⟩ := hjoins.second
    have hafter := h.after
    rw [lastKind_of_getLast? none hx] at hafter
    obtain ⟨y, zs, fs, rfl, hkind, htext⟩ := hafter.exists_second h.last hd heq
    exact .inr ⟨x, y, zs, d, fs, hx, rfl, hjoins.kind_eq, hkind, hd, htext⟩

end VaultQuery.Token
