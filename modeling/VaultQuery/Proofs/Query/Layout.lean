import VaultQuery.Proofs.Query.Agree
import VaultQuery.Proofs.Token.Weave

/-!
The layout of a query does not matter.  Texts that differ only in the blanks between their tokens
are cut into the same tokens (`cut_laidAnew`), the same words stand between corresponding tokens
(`words_between`), and readings of corresponding tokens agree (`Query.agree_ofTokens`).
-/

namespace VaultQuery

section Twins

open Token

/-- Tokens that stand at one index of two lists of pieces. -/
def SameIndex (xs xs' : List Piece) (t t' : Token) : Prop :=
  ∃ i : Nat, (placed {} xs)[i]? = some t ∧ (placed {} xs')[i]? = some t'

theorem kind_text_of_twins {xs xs' : List Piece} (h : List.Forall₂ SamePiece xs xs')
    (p p' : Position) {i : Nat} {t t' : Token} (ht : (placed p xs)[i]? = some t)
    (ht' : (placed p' xs')[i]? = some t') : t'.kind = t.kind ∧ t'.text = t.text := by
  induction h generalizing p p' i with
  | nil => cases ht
  | cons hx _ ih =>
      cases i with
      | zero =>
          obtain rfl := Option.some.inj ht
          obtain rfl := Option.some.inj ht'
          exact ⟨hx.2.1, hx.2.2⟩
      | succ i => exact ih _ _ ht ht'

theorem forall₂_of_twins {xs xs' : List Piece} (h : Twins xs xs') :
    List.Forall₂ SamePiece xs xs' := by
  cases h with
  | nil => exact .nil
  | cons hx htail => exact .cons hx (htail.imp fun _ _ h => h.1)

variable {xs xs' : List Piece}

theorem forall₂_sameIndex (h : xs.length = xs'.length) :
    List.Forall₂ (SameIndex xs xs') (placed {} xs) (placed {} xs') := by
  have hlength : (placed {} xs).length = (placed {} xs').length := by
    rw [length_placed, length_placed, h]
  exact List.forall₂_iff_get.mpr ⟨hlength, fun i hi hi' => ⟨i, by simp, by simp⟩⟩

variable {g g' : List Char} {text text' : String}

theorem isEmpty_of_placed {before : Option Kind} (hcut : Cut before xs g)
    (htext : text.toList = joined xs g) {i : Nat} {t : Token} (ht : (placed {} xs)[i]? = some t) :
    text.isEmpty = false := by
  cases xs with
  | nil => cases ht
  | cons x xs =>
      have hne := hcut.ne_nil
      rw [← htext] at hne
      simpa using hne

/-- Texts of the same tokens in other gaps are concordant. -/
theorem concordant_of_twins (hcut : Cut none xs g) (hcut' : Cut none xs' g') (h : Twins xs xs')
    (htext : text.toList = joined xs g) (htext' : text'.toList = joined xs' g') :
    Concordant (SameIndex xs xs') Eq text text' where
  kind := by
    rintro t t' ⟨i, ht, ht'⟩
    exact (kind_text_of_twins (forall₂_of_twins h) _ _ ht ht').1
  text := by
    rintro t t' ⟨i, ht, ht'⟩
    exact (kind_text_of_twins (forall₂_of_twins h) _ _ ht ht').2
  between := by
    rintro limit body body' t t' u u' - ⟨i, ht, ht'⟩ ⟨j, hu, hu'⟩
    have hwords := words_between hcut hcut' h [] [] ht ht' hu hu'
    rw [List.nil_append, List.nil_append, ← htext, ← htext'] at hwords
    rw [Clause.textBetween, Clause.textBetween]
    simp only [Clause.ofTokens, isEmpty_of_placed hcut htext ht,
      isEmpty_of_placed hcut' htext' ht', Bool.false_eq_true, if_false]
    rw [Text.joinWords, Text.joinWords]
    exact congrArg (fun ws => String.ofList (List.intercalate [' '] ws)) hwords

theorem map_eq_of_samePiece {β : Type} {f : Piece → β} (hf : ∀ x x', SamePiece x x' → f x' = f x)
    (h : List.Forall₂ SamePiece xs xs') : xs'.map f = xs.map f := by
  induction h with
  | nil => rfl
  | cons hx _ ih => rw [List.map_cons, List.map_cons, hf _ _ hx, ih]

theorem map_placed (p : Position) (xs : List Piece) :
    (placed p xs).map (fun t => (t.kind, t.text)) = xs.map fun x => (x.kind, x.text) := by
  induction xs generalizing p with
  | nil => rfl
  | cons x xs ih => rw [placed, List.map_cons, ih, List.map_cons, Position.place]

theorem read_eq_ofTokens {tokens : List Token} (h : tokenize text = .ok tokens) (limit : Int) :
    Query.read text limit = Query.ofTokens text limit tokens := by
  rw [Query.read, h]
  rfl

/-- Texts of the same tokens in other gaps are read alike. -/
theorem agree_read (hcut : Cut none xs g) (hcut' : Cut none xs' g') (h : Twins xs xs')
    (htext : text.toList = joined xs g) (htext' : text'.toList = joined xs' g') {stop stop' : Token}
    (hstop : stop.kind = .endOfText) (hstop' : stop'.kind = .endOfText) (limit : Int) :
    Agree (SameIndex xs xs') Eq (Query.ofTokens text limit (placed {} xs ++ [stop]))
      (Query.ofTokens text' limit (placed {} xs' ++ [stop'])) := by
  have hwhole := forall₂_sameIndex (forall₂_of_twins h).length_eq
  rw [← Expr.tokens_ofTokens (fun t => hcut.kind_ne_end {}) hstop text limit,
    ← Expr.tokens_ofTokens (fun t => hcut'.kind_ne_end {}) hstop' text' limit] at hwhole
  have hconcordant := concordant_of_twins hcut hcut' h htext htext'
  refine (Query.agree_ofTokens hconcordant limit hwhole).mono fun _ _ hq => ?_
  exact (hq.1.eq fun _ _ _ _ hname => hname.symm).symm

end Twins

/-- Other blanks between the tokens of a text, and any blanks before and after them, leave its
tokens as they are, and the query that is read from them with all the names it takes from the text,
or the failure to read one. -/
theorem read_of_laidAnew {text text' : String} {tokens : List Token} {gs' : List (List Char)}
    (htokens : Token.tokenize text = .ok tokens)
    (hgaps : Token.LaidAnew (Token.gapsFrom text.toList 0 tokens.dropLast) gs')
    (htext' : text'.toList = Token.weave gs' (Token.covered text.toList tokens.dropLast)) :
    (∃ tokens', Token.tokenize text' = .ok tokens' ∧
        tokens'.map (fun t => (t.kind, t.text)) = tokens.map (fun t => (t.kind, t.text))) ∧
      ∀ limit : Int,
        (∃ q, Query.read text limit = .ok q ∧ Query.read text' limit = .ok q) ∨
        ∃ f f', Query.read text limit = .error f ∧ Query.read text' limit = .error f' := by
  obtain ⟨xs, g, htext, hcut, hg, stop, hstop, hempty, rfl⟩ := Token.exists_pieces htokens
  have hgap : Token.gapsFrom (Token.joined xs g) 0 (Token.placed {} xs) = _ :=
    Token.gapsFrom_placed hcut []
  have hcovered : Token.covered (Token.joined xs g) (Token.placed {} xs) = _ :=
    Token.covered_placed hcut []
  rw [List.dropLast_concat, htext, hgap] at hgaps
  rw [List.dropLast_concat, htext, hcovered] at htext'
  obtain ⟨xs', g', hcut', hg', rfl, htwins⟩ := Token.cut_laidAnew hcut hg hgaps
  have hsame := forall₂_of_twins htwins
  rw [← map_eq_of_samePiece (fun x x' h => h.1) hsame, ← Token.joined_eq_weave] at htext'
  obtain ⟨stop', hstop', hempty', htokens'⟩ := Token.tokenize_of_cut hcut' hg' htext'
  constructor
  · refine ⟨_, htokens', ?_⟩
    rw [List.map_append, List.map_append, map_placed, map_placed,
      map_eq_of_samePiece (fun x x' h => by rw [h.2.1, h.2.2]) hsame]
    simp [hstop, hempty, hstop', hempty']
  · intro limit
    rw [read_eq_ofTokens htokens, read_eq_ofTokens htokens']
    have hagree := agree_read hcut hcut' htwins htext htext' hstop hstop' limit
    generalize Query.ofTokens text limit _ = r at hagree ⊢
    generalize Query.ofTokens text' limit _ = r' at hagree ⊢
    cases hagree with
    | @ok q q' h => exact .inl ⟨q, rfl, by rw [h]⟩
    | error => exact .inr ⟨_, _, rfl, rfl⟩

/-- The tokens of a query in one line. -/
def differenceTokens : List Token :=
  [⟨.table, "TABLE", 1, 1, 0, 5⟩, ⟨.identifier, "a", 1, 7, 6, 7⟩, ⟨.minus, "-", 1, 10, 9, 10⟩,
    ⟨.identifier, "b", 1, 11, 10, 11⟩, ⟨.groupBy, "GROUP BY", 1, 13, 12, 20⟩,
    ⟨.identifier, "c", 1, 22, 21, 22⟩, ⟨.endOfText, "", 1, 23, 22, 22⟩]

/-- Gaps that spread the same tokens over three lines. -/
def spreadGaps : List (List Char) :=
  ["\t", " ", "\n", "", " \r\n", " ", "  "].map String.toList

theorem laidAnew_spreadGaps :
    Token.LaidAnew
      (Token.gapsFrom "TABLE a  -b GROUP BY c".toList 0 differenceTokens.dropLast) spreadGaps := by
  have hnone : Token.IsBlanks [] := by decide
  have htab : Token.IsBlanks ['\t'] := by decide
  have hend : Token.IsBlanks [' ', ' '] := by decide
  have hlast : Token.Relaid [[]] [[' ', ' ']] := .last (g := []) hnone hend
  exact .mk hnone htab (.gap (by decide) (.gap (by decide) (.gap (by decide) (.gap (by decide)
    (.gap (by decide) (.gap (by decide) hlast))))))

theorem read_of_laidAnew_spread :
    Token.tokenize "TABLE a  -b GROUP BY c" = .ok differenceTokens ∧
      (∃ tokens', Token.tokenize "\tTABLE a\n-b \r\nGROUP BY c  " = .ok tokens' ∧
        tokens'.map (fun t => (t.kind, t.text)) =
          differenceTokens.map (fun t => (t.kind, t.text))) ∧
      ∀ limit : Int,
        (∃ q, Query.read "TABLE a  -b GROUP BY c" limit = .ok q ∧
          Query.read "\tTABLE a\n-b \r\nGROUP BY c  " limit = .ok q) ∨
        ∃ f f', Query.read "TABLE a  -b GROUP BY c" limit = .error f ∧
          Query.read "\tTABLE a\n-b \r\nGROUP BY c  " limit = .error f' :=
  ⟨rfl, read_of_laidAnew rfl laidAnew_spreadGaps rfl⟩

end VaultQuery
