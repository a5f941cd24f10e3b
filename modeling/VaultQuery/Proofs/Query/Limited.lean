import VaultQuery.Proofs.Number
import VaultQuery.Proofs.Query.Layout

/-!
The query for a table of one column with a limit, for every run of digits that the limit can be: it
is read as one with that limit, if the limit can be read (`read_limitedText`).
-/

namespace VaultQuery

/-! ## The tokens -/

theorem Moment.length?_of_digits {ds : List Char} (h : ∀ d ∈ ds, Text.isDigit d = true) :
    length? ds = none := by
  have hdash : ∀ n, MomentShape.takeChar '-' (ds.drop n) = none := by
    intro n
    cases hdrop : ds.drop n with
    | nil => rfl
    | cons d rest =>
        have hd : d ∈ ds := List.mem_of_mem_drop (i := n) (by simp [hdrop])
        have hne : d ≠ '-' := by
          rintro rfl
          exact absurd (h _ hd) (by decide)
        simp [MomentShape.takeChar, hne]
  have hday : MomentShape.takeDay ds = none := by
    unfold MomentShape.takeDay MomentShape.takeDigits
    dsimp only
    split
    case isTrue => rfl
    case isFalse => simp [hdash]
  simp [length?, MomentShape.readings, hday]

namespace Token

theorem lexeme_digits (before : Option Kind) {c : Char} {cs : List Char}
    (h : ∀ d ∈ c :: cs, Text.isDigit d = true) :
    lexeme before c cs = .ok (.token .number (String.ofList (c :: cs)) (c :: cs).length) := by
  have hall : (c :: cs).takeWhile Text.isDigit = c :: cs := List.takeWhile_eq_self_iff.mpr h
  have hlength : numberLength (c :: cs) = (c :: cs).length := by
    rw [numberLength, hall, List.drop_length]
  rw [(Lexes.number (h c List.mem_cons_self) (Moment.length?_of_digits h)).lexeme_eq, hlength,
    List.take_length]

theorem lexeme_word (before : Option Kind) {c : Char} {own rest : List Char}
    (hc : Text.isWordStart c = true) (hown : identifierTail own = own.length) (hrest : Open rest) :
    lexeme before c (own ++ rest) = .ok (word before (c :: own ++ rest) (own.length + 1)) := by
  rw [(Lexes.word hc).lexeme_eq, identifierTail_append hrest.detached, hown, List.cons_append]

theorem lexeme_table {rest : List Char} (hrest : Open rest) :
    lexeme none 'T' (['A', 'B', 'L', 'E'] ++ rest) = .ok (.token .table "TABLE" 5) := by
  have hupper : Text.upperCase (String.ofList ['T', 'A', 'B', 'L', 'E']) = "TABLE" := by
    decide +kernel
  have hword : headerWord? "TABLE" = some .table := by decide
  rw [lexeme_word none (by decide) (by decide) hrest]
  simp [word, hupper, hword]

theorem lexeme_identifier {rest : List Char} (hrest : Open rest) :
    lexeme (some .table) 'a' ([] ++ rest) = .ok (.token .identifier "a" 1) := by
  have hupper : Text.upperCase (String.ofList ['a']) = "A" := by decide +kernel
  have hword : keyword? "A" = none := by decide
  rw [lexeme_word (some .table) (by decide) (by decide) hrest]
  simp [word, hupper, hword]

theorem lexeme_limit (rest : List Char) :
    lexeme (some .identifier) 'L' (['I', 'M', 'I', 'T'] ++ ' ' :: rest) =
      .ok (.token .limitClause "LIMIT" 5) := by
  have hupper : Text.upperCase (String.ofList ['L', 'I', 'M', 'I', 'T']) = "LIMIT" := by
    decide +kernel
  have hword : keyword? "LIMIT" = some .limitClause := by decide
  rw [lexeme_word (some .identifier) (by decide) (by decide) (by simp [Open, isGap])]
  simp [word, hupper, hword]

/-- The pieces of the query for a table of one column with a limit. -/
def limitedPieces (ds : List Char) : List Piece :=
  [⟨[], ['T', 'A', 'B', 'L', 'E'], .table, "TABLE", 5⟩, ⟨[' '], ['a'], .identifier, "a", 1⟩,
    ⟨[' '], ['L', 'I', 'M', 'I', 'T'], .limitClause, "LIMIT", 5⟩,
    ⟨[' '], ds, .number, String.ofList ds, ds.length⟩]

theorem cut_limitedPieces {ds : List Char} (hne : ds ≠ []) (h : ∀ d ∈ ds, Text.isDigit d = true) :
    Cut none (limitedPieces ds) [] := by
  have hblank : ∀ rest, Skipped rest [' '] := fun rest => .blank rfl .nil
  have hopen : ∀ rest, Open (' ' :: rest) := fun rest => by simp [Open, isGap]
  obtain ⟨c, cs, rfl⟩ := List.exists_cons_of_ne_nil hne
  have hdigits : Cut (some .limitClause)
      [⟨[' '], c :: cs, .number, String.ofList (c :: cs), (c :: cs).length⟩] [] :=
    .piece (hblank _) (List.append_nil _) (lexeme_digits _ h) List.take_length.symm .done
  exact .piece .nil rfl (lexeme_table (hopen _)) rfl
    (.piece (hblank _) rfl (lexeme_identifier (hopen _)) rfl
      (.piece (hblank _) rfl (lexeme_limit _) rfl hdigits))

end Token

/-! ## The query -/

/-- The text of the query for a table of one column with a limit. -/
def limitedText (ds : List Char) : String :=
  "TABLE a LIMIT " ++ String.ofList ds

theorem toList_limitedText (ds : List Char) :
    (limitedText ds).toList = Token.joined (Token.limitedPieces ds) [] := by
  unfold limitedText
  rw [String.toList_append, String.toList_ofList, String.toList_ofList]
  simp [Token.limitedPieces, Token.joined]

/-- The query for a table of one column with a limit. -/
def limitedTable (column : String) (amount : Number) : Query :=
  { header := .table [⟨column, .var column, none⟩] true
    operations := [.limit (.literal (.number amount))] }

/-- A number that stands alone is read as a literal, if it can be. -/
theorem Expr.expression_number (c : Clause) {t : Token} (hk : t.kind = .number) :
    expression c [t] = ((Numeral.read t.text).mapError Fault.numeral).map fun amount =>
      (.literal (.number amount), []) := by
  cases hn : Numeral.read t.text with
  | error k =>
      simp only [expression, logical, comparison, sum, product, Reader.chain, unary, access,
        primary, hk, hn]
      rfl
  | ok amount =>
      simp only [expression, logical, comparison, sum, product, Reader.chain, unary, access,
        primary, hk, hn]
      rfl

section Reading

variable {ds : List Char} (limit : Int)

theorem Segment.header_limited {keyword field : Token} (hkeyword : keyword.kind = .table)
    (hfield : field.kind = .identifier) (text : String) :
    Segment.header text limit ⟨keyword, [field]⟩ = .ok (.table
      [⟨(Clause.ofTokens text limit [field]).textBetween field field, .var field.text, none⟩]
      true) := by
  cases keyword
  cases field
  cases hkeyword
  cases hfield
  rfl

theorem Segment.operation_limited {keyword amount : Token} (hkeyword : keyword.kind = .limitClause)
    (hamount : amount.kind = .number) (text : String) :
    Segment.operation text limit ⟨keyword, [amount]⟩ =
      ((Numeral.read amount.text).mapError Fault.numeral).map fun k =>
        .limit (.literal (.number k)) := by
  have htokens : (Clause.ofTokens text limit [amount]).tokens = [amount] := by
    simp [Clause.ofTokens, hamount]
  have hread : ∀ name, readAll (Clause.ofTokens text limit [amount]) name
      (Expr.expression (Clause.ofTokens text limit [amount])) =
        ((Numeral.read amount.text).mapError Fault.numeral).map fun k =>
          .literal (.number k) := by
    intro name
    rw [readAll, htokens, Expr.expression_number _ hamount]
    cases Numeral.read amount.text <;> rfl
  have hoperation : Segment.operation text limit ⟨keyword, [amount]⟩ =
      readAll (Clause.ofTokens text limit [amount]) keyword.text
        (Expr.expression (Clause.ofTokens text limit [amount])) >>= fun e => .ok (.limit e) := by
    cases keyword
    cases hkeyword
    rfl
  rw [hoperation, hread]
  cases Numeral.read amount.text <;> rfl

theorem Query.ofTokens_limited {keyword field last amount stop : Token}
    (hkeyword : keyword.kind = .table) (hfield : field.kind = .identifier)
    (hlast : last.kind = .limitClause) (hamount : amount.kind = .number)
    (hstop : stop.kind = .endOfText) {text : String}
    (hname : (Clause.ofTokens text limit [field]).textBetween field field = field.text) :
    ofTokens text limit [keyword, field, last, amount, stop] =
      ((Numeral.read amount.text).mapError Fault.numeral).map (limitedTable field.text) := by
  have htokens : (Clause.ofTokens text limit [keyword, field, last, amount, stop]).tokens =
      [keyword, field, last, amount] := by
    simp [Clause.ofTokens, hkeyword, hfield, hlast, hamount, hstop]
  have hcut : Segment.cut text [] keyword [] [field, last, amount] =
      .ok [⟨keyword, [field]⟩, ⟨last, [amount]⟩] := by
    cases field
    cases last
    cases amount
    cases hfield
    cases hlast
    cases hamount
    rfl
  have hheader : keyword.kind.isHeader = true := by
    rw [hkeyword]
    rfl
  have hnot : last.kind ≠ .fromClause := by simp [hlast]
  unfold ofTokens
  dsimp only
  rw [htokens]
  dsimp only
  rw [if_pos hheader, hcut]
  show (Segment.header text limit ⟨keyword, [field]⟩ >>= _) = _
  rw [Segment.header_limited limit hkeyword hfield, hname]
  show (Segment.clauses text limit none [⟨last, [amount]⟩] >>= _) = _
  rw [Segment.clauses, if_neg hnot, Segment.operation_limited limit hlast hamount]
  cases Numeral.read amount.text <;> rfl

theorem textBetween_limited (ds : List Char) {line column : Nat} (tokens : List Token) :
    (Clause.ofTokens (limitedText ds) limit tokens).textBetween
      ⟨.identifier, "a", line, column, 6, 7⟩ ⟨.identifier, "a", line, column, 6, 7⟩ = "a" := by
  have hfull : (limitedText ds).isEmpty = false := by
    unfold limitedText
    simp
  rw [Clause.textBetween]
  simp only [Clause.ofTokens, hfull, toList_limitedText, Bool.false_eq_true, if_false]
  rfl

/-- The query for a table of one column with a limit is read as such, if the limit is. -/
theorem read_limitedText (hne : ds ≠ []) (h : ∀ d ∈ ds, Text.isDigit d = true) :
    Query.read (limitedText ds) limit =
      ((Numeral.read (String.ofList ds)).mapError Fault.numeral).map (limitedTable "a") := by
  obtain ⟨stop, hstop, -, htokens⟩ :=
    Token.tokenize_of_cut (Token.cut_limitedPieces hne h) .nil (toList_limitedText ds)
  rw [read_eq_ofTokens htokens]
  exact Query.ofTokens_limited limit rfl rfl rfl rfl hstop (textBetween_limited limit ds _)

end Reading

end VaultQuery
