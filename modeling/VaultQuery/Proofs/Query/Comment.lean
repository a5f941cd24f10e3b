import VaultQuery.Proofs.Convert
import VaultQuery.Proofs.Query.Neighbours
import VaultQuery.Proofs.Token.Comment

/-!
A query with a blank in the place of a comment.  No two names stand side by side in a query
(`NamesApart`), so its tokens stay the same, and those after the comment are moved
(`Token.Splits.blanked`); readings of them agree but for the names of fields without an alias, which
are taken from the text (`Query.agree_ofTokens`).  The words of a comment stand in the name of such
a field if the comment stands in the text of its expression (`shows_around`).
-/

namespace VaultQuery

/-! ## Names from the text -/

/-- The name that a field takes from its part of a text. -/
def nameOf (part : List Char) : String :=
  String.ofList (Text.joinWords ' ' part)

/-- The names that a field takes from a text with a comment, and from the text with a blank in its
place: its part of the text stands before the comment or after it, or has the comment in it. -/
inductive NamedAround (pre comment post : List Char) : String → String → Prop
  | apart {part : List Char} : part <:+: pre ∨ part <:+: post →
      NamedAround pre comment post (nameOf part) (nameOf part)
  | around {a b : List Char} : a <:+ pre → b <+: post →
      NamedAround pre comment post (nameOf (a ++ (comment ++ b))) (nameOf (a ++ ' ' :: b))

/-- The words of a comment stand in a name. -/
def Shows (comment : List Char) (name : String) : Prop :=
  Text.joinWords ' ' comment <:+: name.toList

section Words

open Text

theorem wordsFrom_append (current a rest : List Char) :
    ∃ ws current', wordsFrom current (a ++ rest) = ws ++ wordsFrom current' rest := by
  induction a generalizing current with
  | nil => exact ⟨[], current, rfl⟩
  | cons c a ih =>
      rw [List.cons_append, wordsFrom]
      split
      case isTrue =>
          obtain ⟨ws, current', h⟩ := ih []
          split
          case isTrue => exact ⟨ws, current', h⟩
          case isFalse => exact ⟨current.reverse :: ws, current', congrArg _ h⟩
      case isFalse => exact ih (c :: current)

/-- Words end at a blank. -/
theorem wordsFrom_append_blank {rest : List Char} (hrest : ∀ c ∈ rest.head?, isBlank c = true)
    (current cs : List Char) :
    wordsFrom current (cs ++ rest) = wordsFrom current cs ++ words rest := by
  induction cs generalizing current with
  | nil =>
      cases rest with
      | nil => simp [words, wordsFrom]
      | cons c rest =>
          have hc := hrest c rfl
          by_cases hcurrent : current.isEmpty = true <;> simp [words, wordsFrom, hc, hcurrent]
  | cons c cs ih =>
      rw [List.cons_append, wordsFrom, wordsFrom, ih, ih]
      split
      case isTrue => split <;> rfl
      case isFalse => rfl

/-- The first word goes on with what stands before it. -/
theorem exists_wordsFrom {x : List Char} (hx : x ≠ []) (current cs : List Char) :
    ∃ w ws, wordsFrom x cs = w :: ws ∧
      wordsFrom (x ++ current) cs = (current.reverse ++ w) :: ws := by
  induction cs generalizing x with
  | nil => exact ⟨x.reverse, [], by simp [wordsFrom, hx], by simp [wordsFrom, hx]⟩
  | cons c cs ih =>
      by_cases hc : isBlank c = true
      · exact ⟨x.reverse, wordsFrom [] cs, by simp [wordsFrom, hx, hc],
          by simp [wordsFrom, hx, hc]⟩
      · obtain ⟨w, ws, h, h'⟩ := ih (x := c :: x) (List.cons_ne_nil c x)
        exact ⟨w, ws, by rw [wordsFrom, if_neg hc, h], by rw [wordsFrom, if_neg hc, ← h']; rfl⟩

theorem intercalate_append_left (separator : Char) (ws us : List (List Char)) :
    [separator].intercalate us <:+ [separator].intercalate (ws ++ us) := by
  induction ws with
  | nil => exact List.suffix_rfl
  | cons w ws ih =>
      refine ih.trans ?_
      rw [List.cons_append]
      cases ws ++ us with
      | nil => exact List.nil_suffix
      | cons v vs =>
          rw [List.intercalate_cons_cons]
          exact List.suffix_append _ _

theorem intercalate_append_right (separator : Char) (ws us : List (List Char)) :
    [separator].intercalate ws <+: [separator].intercalate (ws ++ us) := by
  induction ws with
  | nil => exact List.nil_prefix
  | cons w ws ih =>
      cases ws with
      | nil =>
          cases us with
          | nil => exact List.prefix_rfl
          | cons v vs =>
              rw [List.singleton_append, List.intercalate_cons_cons, List.intercalate_singleton,
                List.append_assoc]
              exact List.prefix_append _ _
      | cons v vs =>
          rw [List.cons_append, List.cons_append, List.intercalate_cons_cons,
            List.intercalate_cons_cons]
          exact (List.prefix_append_right_inj _).mpr ih

theorem intercalate_append_head (separator : Char) (u w : List Char) (ws : List (List Char)) :
    [separator].intercalate ((u ++ w) :: ws) = u ++ [separator].intercalate (w :: ws) := by
  cases ws with
  | nil => rw [List.intercalate_singleton, List.intercalate_singleton]
  | cons v vs =>
      rw [List.intercalate_cons_cons, List.intercalate_cons_cons, List.append_assoc,
        List.append_assoc, List.append_assoc]

theorem flatten_wordsFrom (current cs : List Char) :
    (wordsFrom current cs).flatten = current.reverse ++ cs.filter (!isBlank ·) := by
  induction cs generalizing current with
  | nil => cases current <;> simp [wordsFrom]
  | cons c cs ih =>
      rw [wordsFrom]
      by_cases hc : isBlank c = true
      · cases current <;> simp [hc, ih]
      · simp [hc, ih]

theorem count_intercalate {c separator : Char} (hc : separator ≠ c) (ws : List (List Char)) :
    ([separator].intercalate ws).count c = ws.flatten.count c := by
  induction ws with
  | nil => rfl
  | cons w ws ih =>
      cases ws with
      | nil => simp
      | cons v vs =>
          have hseparator : [separator].count c = 0 := List.count_singleton.trans (if_neg (by simpa))
          rw [List.intercalate_cons_cons, List.count_append, ih, List.count_append, hseparator,
            Nat.add_zero, ← List.count_append, ← List.flatten_cons]

/-- A character that is no blank is kept. -/
theorem count_joinWords {c : Char} (hc : isBlank c = false) (cs : List Char) :
    (joinWords ' ' cs).count c = cs.count c := by
  have hne : ' ' ≠ c := by
    rintro rfl
    exact absurd hc (by decide)
  rw [joinWords, count_intercalate hne, words, flatten_wordsFrom, List.reverse_nil,
    List.nil_append, List.count_filter (by simp [hc])]

/-- A part that starts with no blank, with a blank after it, keeps its words in a text. -/
theorem joinWords_infix {c : Char} {cs a b : List Char} (hc : isBlank c = false)
    (hb : ∀ d ∈ b.head?, isBlank d = true) :
    joinWords ' ' (c :: cs) <:+: joinWords ' ' (a ++ (c :: cs ++ b)) := by
  obtain ⟨before, current, hbefore⟩ := wordsFrom_append [] a (c :: cs ++ b)
  obtain ⟨w, ws, hown, hjoined⟩ := exists_wordsFrom (List.cons_ne_nil c []) current cs
  have hcurrent : wordsFrom current (c :: cs) = (current.reverse ++ w) :: ws := by
    rw [← hjoined, wordsFrom, hc]
    rfl
  have hwords : words (c :: cs) = w :: ws := by
    rw [← hown, words, wordsFrom, hc]
    rfl
  rw [joinWords, joinWords, hwords, words, hbefore, wordsFrom_append_blank hb, hcurrent]
  refine List.IsInfix.trans ?_ (intercalate_append_left _ before _).isInfix
  refine List.IsInfix.trans ?_ (intercalate_append_right _ _ (words b)).isInfix
  rw [intercalate_append_head]
  exact (List.suffix_append _ _).isInfix

end Words

section Around

variable {pre comment post : List Char} (h : Token.IsComment pre comment post)

include h

theorem shows_around {a b : List Char} (hb : b <+: post) :
    Shows comment (nameOf (a ++ (comment ++ b))) := by
  have hhead : ∀ d ∈ b.head?, Text.isBlank d = true := by
    intro d hd
    obtain ⟨rest, rfl⟩ := hb
    obtain rfl := h.ends d (by rw [List.head?_append, hd]; rfl)
    decide
  obtain ⟨body, rfl⟩ := h.opens
  rw [Shows, nameOf, String.toList_ofList]
  exact joinWords_infix (by decide) hhead

theorem nameOf_blanked_ne (a b : List Char) :
    nameOf (a ++ ' ' :: b) ≠ nameOf (a ++ (comment ++ b)) := by
  intro heq
  have hcount := congrArg (List.count '/') (String.ofList_injective heq)
  rw [count_joinWords (by decide), count_joinWords (by decide)] at hcount
  obtain ⟨body, rfl⟩ := h.opens
  have hblank : (' ' :: b).count '/' = b.count '/' := List.count_cons_of_ne (by decide)
  have hslashes : ['/', '/'].count '/' = 2 := rfl
  simp only [List.count_append, hblank, hslashes] at hcount
  omega

/-- A name that stays is taken from one side of the comment. -/
theorem NamedAround.exists_part {name name' : String}
    (hname : NamedAround pre comment post name name') (hsame : name' = name) :
    ∃ part, (part <:+: pre ∨ part <:+: post) ∧ name = nameOf part := by
  cases hname with
  | apart hpart => exact ⟨_, hpart, rfl⟩
  | around => exact absurd hsame (nameOf_blanked_ne h _ _)

/-- A name that does not show the comment stays. -/
theorem NamedAround.eq {name name' : String} (hname : NamedAround pre comment post name name')
    (hshows : ¬ Shows comment name) : name' = name := by
  cases hname with
  | apart => rfl
  | around _ hb => exact absurd (shows_around h hb) hshows

end Around

/-! ## Tokens on both sides of a comment -/

/-- The tokens of a text with a comment, and of the text with a blank in its place: those before
the comment stay, and those after it are moved. -/
inductive Moved (pre comment : List Char) : Token → Token → Prop
  | still {t : Token} : t.start ≤ t.stop → t.stop ≤ pre.length → Moved pre comment t t
  | moved {t t' : Token} (i j : Nat) : t'.kind = t.kind → t'.text = t.text →
      t.start = (pre ++ comment).length + i → t'.start = (pre ++ [' ']).length + i →
      t.stop = (pre ++ comment).length + j → t'.stop = (pre ++ [' ']).length + j →
      Moved pre comment t t'

section Moved

open Token

variable {pre comment post : List Char}

theorem forall₂_before {before : Option Kind} {xs : List Piece} {rest : List Char}
    (h : Cut before xs rest) (hrest : rest ≠ []) (a : List Char)
    (hpre : (a ++ joined xs []).length ≤ pre.length) :
    List.Forall₂ (Moved pre comment) (placed (Position.advance {} a) xs)
      (placed (Position.advance {} a) xs) := by
  induction xs generalizing before a with
  | nil => exact .nil
  | cons x xs ih =>
      have hclaimed : x.claimed = x.own.length :=
        h.claimed_eq (by rw [joined_append]; simp [hrest])
      rw [append_joined] at hpre
      rw [placed_cons]
      cases h with
      | piece _ _ _ _ htail =>
      refine .cons (.still ?_ ?_) (ih htail _ hpre)
      · rw [x.start_tokenAt, x.stop_tokenAt]
        omega
      · simp only [List.length_append] at hpre
        rw [x.stop_tokenAt, hclaimed]
        omega

theorem forall₂_after (ys : List Piece) {a b : List Char} (k : Nat)
    (ha : a.length = (pre ++ comment).length + k) (hb : b.length = (pre ++ [' ']).length + k) :
    List.Forall₂ (Moved pre comment) (placed (Position.advance {} a) ys)
      (placed (Position.advance {} b) ys) := by
  induction ys generalizing a b k with
  | nil => exact .nil
  | cons y ys ih =>
      rw [placed_cons, placed_cons]
      refine .cons (.moved (k + y.gap.length) (k + y.gap.length + y.claimed) rfl rfl ?_ ?_ ?_ ?_)
        (ih (k + (y.gap ++ y.own).length) ?_ ?_)
      · rw [y.start_tokenAt, ha, Nat.add_assoc]
      · rw [y.start_tokenAt, hb, Nat.add_assoc]
      · rw [y.stop_tokenAt, ha]
        omega
      · rw [y.stop_tokenAt, hb]
        omega
      · rw [List.length_append, ha, Nat.add_assoc]
      · rw [List.length_append, hb, Nat.add_assoc]

theorem textBetween_ofTokens {cs : List Char} (hcs : cs ≠ []) (limit : Int) (body : List Token)
    (t u : Token) :
    (Clause.ofTokens (String.ofList cs) limit body).textBetween t u =
      nameOf ((cs.take u.stop).drop t.start) := by
  have hempty : (String.ofList cs).isEmpty = false := by simpa using hcs
  rw [Clause.textBetween, Clause.ofTokens, hempty, String.toList_ofList]
  rfl

theorem faithful_moved : Faithful (Moved pre comment) where
  kind := by
    intro t t' h
    cases h with
    | still => rfl
    | moved _ _ hkind => exact hkind
  text := by
    intro t t' h
    cases h with
    | still => rfl
    | moved _ _ _ htext => exact htext

theorem take_past (pre mid post : List Char) (j : Nat) :
    (pre ++ (mid ++ post)).take ((pre ++ mid).length + j) = pre ++ (mid ++ post.take j) := by
  rw [← List.append_assoc, List.take_length_add_append, List.append_assoc]

theorem slice_across {pre : List Char} {i : Nat} (h : i ≤ pre.length) (mid post : List Char)
    (j : Nat) :
    ((pre ++ (mid ++ post)).take ((pre ++ mid).length + j)).drop i =
      pre.drop i ++ (mid ++ post.take j) := by
  rw [take_past, List.drop_append_of_le_length h]

theorem slice_past (pre mid post : List Char) (i j : Nat) :
    ((pre ++ (mid ++ post)).take ((pre ++ mid).length + j)).drop ((pre ++ mid).length + i) =
      (post.take j).drop i := by
  rw [take_past, ← List.append_assoc, List.drop_length_add_append]

theorem slice_backwards {cs : List Char} {i j : Nat} (h : j ≤ i) : (cs.take j).drop i = [] :=
  List.drop_eq_nil_of_le ((List.length_take_le j cs).trans h)

/-- A text with a comment and the text with a blank in its place are concordant but for names with
the comment in them. -/
theorem concordant_blanked (hcomment : comment ≠ []) :
    Concordant (Moved pre comment) (NamedAround pre comment post)
      (String.ofList (pre ++ (comment ++ post))) (String.ofList (pre ++ ([' '] ++ post))) where
  toFaithful := faithful_moved
  between := by
    intro limit body body' t t' u u' _ ht hu
    rw [textBetween_ofTokens (by simp [hcomment]), textBetween_ofTokens (by simp)]
    cases ht with
    | still hstart hstop =>
        cases hu with
        | still _ hstop' =>
            rw [List.take_append_of_le_length hstop', List.take_append_of_le_length hstop']
            refine .apart (.inl ?_)
            exact (List.drop_suffix _ _).isInfix.trans (List.take_prefix _ _).isInfix
        | moved _ j _ _ _ _ hj hj' =>
            rw [hj, hj', slice_across (hstart.trans hstop), slice_across (hstart.trans hstop)]
            exact .around (List.drop_suffix _ _) (List.take_prefix _ _)
    | moved i _ _ _ hi hi' =>
        cases hu with
        | still _ hstop' =>
            -- no field has its tokens in this order; its name would be empty in both texts
            rw [slice_backwards (by rw [hi, List.length_append]; omega),
              slice_backwards (by rw [hi', List.length_append]; omega)]
            exact .apart (.inl List.nil_infix)
        | moved _ j _ _ _ _ hj hj' =>
            rw [hi, hi', hj, hj', slice_past, slice_past]
            refine .apart (.inr ?_)
            exact (List.drop_suffix _ _).isInfix.trans (List.take_prefix _ _).isInfix

end Moved

/-! ## Reading -/

theorem direction?_of_mem_secondLetters {d : Char} (hd : d ∈ Token.secondLetters) (cs : List Char) :
    Segment.direction? (String.ofList (d :: cs)) = none := by
  simp only [Segment.direction?, Token.upperCase_ne hd cs "ASC" (by decide),
    Token.upperCase_ne hd cs "ASCENDING" (by decide), Token.upperCase_ne hd cs "DESC" (by decide),
    Token.upperCase_ne hd cs "DESCENDING" (by decide), Bool.or_self, Bool.false_eq_true, if_false]

section Reading

open Token

variable {pre comment post : List Char} {limit : Int} {q : Query}

theorem getLast?_placed {x : Piece} {xs : List Piece} (h : xs.getLast? = some x) (p : Position) :
    ∃ t, (placed p xs).getLast? = some t ∧ t.kind = x.kind := by
  induction xs generalizing p with
  | nil => cases h
  | cons y ys ih =>
      cases ys with
      | nil =>
          obtain rfl := Option.some.inj h
          exact ⟨_, rfl, rfl⟩
      | cons z zs =>
          rw [List.getLast?_cons_cons] at h
          exact ih h _

theorem Token.Splits.kind_ne_end {xs ys : List Piece} {g k g' : List Char}
    (h : Splits xs g k ys g') {p : Position} (t : Token)
    (ht : t ∈ placed {} xs ++ placed p ys) : t.kind ≠ .endOfText := by
  rcases List.mem_append.mp ht with ht | ht
  · exact h.before.kind_ne_end {} ht
  · exact h.after.kind_ne_end p ht

/-- In a text that is read, a blank can take the place of a comment. -/
theorem Token.Splits.blanked_of_ofTokens {xs ys : List Piece} {g g' : List Char} {stop : Token}
    {text : String} (h : Splits xs g comment ys g') (hopens : ['/', '/'] <+: comment)
    (p : Position) (hstop : stop.kind = .endOfText)
    (hread : Query.ofTokens text limit (placed {} xs ++ placed p ys ++ [stop]) = .ok q) :
    Splits xs g [' '] ys g' := by
  obtain ⟨body, rfl⟩ := hopens
  rcases h.blanked with hsplits | ⟨x, y, zs, d, fs, hx, rfl, hkind, hkind', hd, htext⟩
  · exact hsplits
  · -- two names side by side, and the second one is no direction: no query is read from these
    obtain ⟨t, ht, htkind⟩ := getLast?_placed hx {}
    have hapart := (List.isChain_append.mp
      (Query.namesApart_of_ofTokens h.kind_ne_end hstop hread)).2.2 t ht _ rfl
    have hdirection : (Segment.direction? y.text).isSome = true :=
      hapart (htkind.trans hkind) hkind'
    rw [htext, direction?_of_mem_secondLetters hd] at hdirection
    cases hdirection

theorem Token.Splits.forall₂_moved {xs ys : List Piece} {g g' : List Char}
    (h : Splits xs g comment ys g') :
    List.Forall₂ (Moved (joined xs g) comment)
      (placed {} xs ++ placed (Position.advance {} (joined xs g ++ comment)) ys)
      (placed {} xs ++ placed (Position.advance {} (joined xs g ++ [' '])) ys) := by
  have hlength : ([] ++ joined xs []).length ≤ (joined xs g).length := by
    rw [joined_append xs g]
    simp
  have hstill : List.Forall₂ (Moved (joined xs g) comment) (placed {} xs) (placed {} xs) :=
    forall₂_before h.before (by simp [h.ne_nil]) [] hlength
  exact List.rel_append hstill (forall₂_after ys 0 rfl rfl)

/-- A text with a comment and the text with a blank in its place are read alike. -/
theorem agree_blanked {xs ys : List Piece} {g g' : List Char} (h : Splits xs g comment ys g')
    (h' : Splits xs g [' '] ys g') {stop stop' : Token} (hstop : stop.kind = .endOfText)
    (hstop' : stop'.kind = .endOfText) (limit : Int) :
    Agree (Moved (joined xs g) comment)
      (Query.Renamed (NamedAround (joined xs g) comment (joined ys g')))
      (Query.ofTokens (String.ofList (joined xs g ++ (comment ++ joined ys g'))) limit
        (placed {} xs ++ placed (Position.advance {} (joined xs g ++ comment)) ys ++ [stop]))
      (Query.ofTokens (String.ofList (joined xs g ++ ([' '] ++ joined ys g'))) limit
        (placed {} xs ++ placed (Position.advance {} (joined xs g ++ [' '])) ys ++ [stop'])) := by
  refine (Query.agree_ofTokens (concordant_blanked h.ne_nil) limit ?_).mono fun _ _ hq => hq.1
  rw [Expr.tokens_ofTokens h.kind_ne_end hstop, Expr.tokens_ofTokens h'.kind_ne_end hstop']
  exact h.forall₂_moved

end Reading

/-- A blank in the place of a comment gives a text that is read as the same query, but for the names
of fields without an alias that have the comment in their part of the text.  The query is the same
if no such name shows the comment, and only if all of them are taken from one side of it. -/
theorem read_of_comment {pre comment post : List Char} {limit : Int} {q : Query}
    (hcomment : Token.IsComment pre comment post)
    (hread : Query.read (String.ofList (pre ++ (comment ++ post))) limit = .ok q) :
    ∃ q', Query.read (String.ofList (pre ++ ' ' :: post)) limit = .ok q' ∧
      q.Renamed (NamedAround pre comment post) q' ∧
      ((∀ f ∈ q.fields, f.alias? = none → ¬ Shows comment f.name) → q' = q) ∧
      (q' = q → ∀ f ∈ q.fields, f.alias? = none →
        ∃ part, (part <:+: pre ∨ part <:+: post) ∧ f.name = nameOf part) := by
  obtain ⟨tokens, htokens⟩ := exists_tokens_of_read hread
  obtain ⟨xs, g, ys, g', rfl, rfl, hsplits⟩ := hcomment.exists_splits htokens
  obtain ⟨stop, hstop, hscan⟩ := hsplits.tokenize_eq
  rw [read_eq_ofTokens hscan] at hread
  have hblanked := hsplits.blanked_of_ofTokens hcomment.opens _ hstop hread
  obtain ⟨stop', hstop', hscan'⟩ := hblanked.tokenize_eq
  obtain ⟨q', hread', hrenamed⟩ :=
    (agree_blanked hsplits hblanked hstop hstop' limit).exists_of_ok hread
  refine ⟨q', (read_eq_ofTokens hscan' limit).trans hread', hrenamed, fun hshows => ?_, ?_⟩
  · exact hrenamed.eq fun f hf hnone name hname => hname.eq hcomment (hshows f hf hnone)
  · rintro rfl f hf hnone
    exact (hrenamed.named_self hf hnone).exists_part hcomment rfl

theorem isComment_in_sum {post : String} (hpost : post = "\n b" ∨ post = "\n b AS s") :
    Token.IsComment "TABLE a + ".toList "// c".toList post.toList where
  reached := by
    refine ⟨[⟨[], "TABLE".toList, .table, "TABLE", 5⟩, ⟨[' '], ['a'], .identifier, "a", 1⟩,
      ⟨[' '], ['+'], .plus, "+", 1⟩], [' '], rfl, ?_, .blank rfl .nil⟩
    rcases hpost with rfl | rfl <;>
      exact .piece .nil rfl rfl rfl (.piece (.blank rfl .nil) rfl rfl rfl
        (.piece (.blank rfl .nil) rfl rfl rfl .done))
  opens := ⟨" c".toList, rfl⟩
  inLine := by decide
  ends := by rcases hpost with rfl | rfl <;> simp

/-- A table with the sum of two variables. -/
def sumQuery (name : String) (alias? : Option String) : Query :=
  ⟨.table [⟨name, .binary .add (.var "a") (.var "b"), alias?⟩] true, .everything, []⟩

/-- The comment stands in the name of a sum, and is gone from it with a blank in its place; a sum
with an alias stays. -/
theorem read_of_comment_in_sum :
    (Token.IsComment "TABLE a + ".toList "// c".toList "\n b".toList ∧
      Query.read "TABLE a + // c\n b" 50 = .ok (sumQuery "a + // c b" none) ∧
      Query.read "TABLE a +  \n b" 50 = .ok (sumQuery "a + b" none) ∧
      (sumQuery "a + // c b" none).Renamed
        (NamedAround "TABLE a + ".toList "// c".toList "\n b".toList) (sumQuery "a + b" none)) ∧
    Token.IsComment "TABLE a + ".toList "// c".toList "\n b AS s".toList ∧
      Query.read "TABLE a + // c\n b AS s" 50 = .ok (sumQuery "s" (some "s")) ∧
      Query.read "TABLE a +  \n b AS s" 50 = .ok (sumQuery "s" (some "s")) := by
  have hsum : Query.read "TABLE a + // c\n b" 50 = .ok (sumQuery "a + // c b" none) := rfl
  have hblanked : Query.read "TABLE a +  \n b" 50 = .ok (sumQuery "a + b" none) := rfl
  have haliased : Query.read "TABLE a + // c\n b AS s" 50 = .ok (sumQuery "s" (some "s")) := rfl
  obtain ⟨q', hread', hrenamed, -⟩ := read_of_comment (isComment_in_sum (.inl rfl)) hsum
  obtain ⟨q'', hread'', -, hsame, -⟩ := read_of_comment (isComment_in_sum (.inr rfl)) haliased
  have hq' : sumQuery "a + b" none = q' := Except.ok.inj (hblanked.symm.trans hread')
  have hq'' : q'' = sumQuery "s" (some "s") :=
    hsame (by simp [sumQuery, Query.fields, Header.fields])
  subst hq' hq''
  exact ⟨⟨isComment_in_sum (.inl rfl), hsum, hblanked, hrenamed⟩, isComment_in_sum (.inr rfl),
    haliased, hread''⟩

end VaultQuery
