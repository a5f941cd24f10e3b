import Mathlib.Algebra.Order.BigOperators.Group.List
import VaultQuery.Convert
import VaultQuery.Proofs.Base.Fault
import VaultQuery.Proofs.Query.Limited

/-!
Which faults escape a conversion instead of being reported.  Only an integer too long to be read or
written and a limit beyond the real numbers do, and the first block of a note with such a fault
takes the records of all its blocks with it (`escapes_only_long_integers`).
-/

namespace VaultQuery

/-! ## Reading -/

/-- Some token of a text has an integer of at least `n` digits. -/
def HasLongInteger (n : Nat) (text : String) : Prop :=
  ∃ tokens, Token.tokenize text = .ok tokens ∧ ∃ t ∈ tokens, n ≤ t.integerDigits

section Reading

variable {text : String} {tokens : List Token}

/-- A text is concordant with itself. -/
theorem concordant_self (ts : List Token) :
    Concordant (fun t t' => t = t' ∧ t ∈ ts) Eq text text where
  kind := by
    rintro t _ ⟨rfl, -⟩
    rfl
  text := by
    rintro t _ ⟨rfl, -⟩
    rfl
  between := by
    rintro limit body body' t _ u _ hbody ⟨rfl, -⟩ ⟨rfl, -⟩
    have hsame : body = body' := List.forall₂_eq_eq_eq ▸ hbody.imp fun _ _ h => h.1
    rw [hsame]

/-- A text that has tokens is read as a query that they spell, or it is malformed, or one of them is
a number of too many digits. -/
theorem read_cases (h : Token.tokenize text = .ok tokens) (limit : Int) :
    (∃ q, Query.read text limit = .ok q ∧ q.source.isStandard = true ∧
        ∀ e ∈ q.expressions, e.IsSpelt fun t => t.Lexed ∧ t ∈ tokens) ∨
      (∃ e, Query.read text limit = .error (.malformed e)) ∨
      ∃ t ∈ tokens, t.kind = .number ∧ digitLimit < t.integerDigits ∧
        Query.read text limit = .error (.numeral (.tooManyDigits t.integerDigits)) := by
  rw [read_eq_ofTokens h]
  obtain ⟨xs, g, -, hcut, -, stop, hstop, -, rfl⟩ := Token.exists_pieces h
  have hagree := Query.agree_ofTokens (concordant_self (Token.placed {} xs)) limit (by
    rw [Expr.tokens_ofTokens (fun t => hcut.kind_ne_end {}) hstop text limit]
    exact List.forall₂_same.mpr fun t ht => ⟨rfl, ht⟩)
  generalize Query.ofTokens text limit _ = r at hagree ⊢
  cases hagree with
  | ok hq =>
      refine .inl ⟨_, rfl, hq.2.2, fun e he => (hq.2.1 e he).mono ?_⟩
      rintro t ⟨_, rfl, ht⟩
      exact ⟨hcut.exists_lexeme {} ht, List.mem_append_left _ ht⟩
  | error hf =>
      right
      cases hf with
      | malformed e => exact .inl ⟨e, rfl⟩
      | @numeral t t' k hsame hk hn =>
          have hlexed : t.Lexed := hcut.exists_lexeme {} hsame.2
          obtain ⟨k', hok, -⟩ | ⟨hlong, herror⟩ := hlexed.read_number hk
          · rw [hn] at hok
            cases hok
          · rw [hn] at herror
            cases herror
            exact .inr ⟨t, List.mem_append_left _ hsame.2, hk, hlong, rfl⟩

/-- A text that is not read is malformed, or one of its numbers has too many digits. -/
theorem read_eq_error {limit : Int} {f : Fault} (h : Query.read text limit = .error f) :
    (∃ e, f = .malformed e) ∨
      ∃ tokens, Token.tokenize text = .ok tokens ∧ ∃ t ∈ tokens, t.kind = .number ∧
        digitLimit < t.integerDigits ∧ f = .numeral (.tooManyDigits t.integerDigits) := by
  cases htokens : Token.tokenize text with
  | error e =>
      rw [Query.read, htokens] at h
      cases h
      exact .inl ⟨e, rfl⟩
  | ok tokens =>
      rcases read_cases htokens limit with ⟨q, hq, -⟩ | ⟨e, he⟩ | ⟨t, ht, hk, hlong, he⟩
      · rw [h] at hq
        cases hq
      · rw [h] at he
        cases he
        exact .inl ⟨e, rfl⟩
      · rw [h] at he
        cases he
        exact .inr ⟨tokens, rfl, t, ht, hk, hlong, rfl⟩

theorem exists_tokens_of_read {q : Query} {limit : Int} (h : Query.read text limit = .ok q) :
    ∃ tokens, Token.tokenize text = .ok tokens := by
  obtain ⟨tokens, htokens, -⟩ := bind_eq_ok.mp h
  exact ⟨tokens, mapError_eq_ok.mp htokens⟩

theorem spelt_of_read (htokens : Token.tokenize text = .ok tokens) {q : Query} {limit : Int}
    (h : Query.read text limit = .ok q) :
    q.source.isStandard = true ∧
      ∀ e ∈ q.expressions, e.IsSpelt fun t => t.Lexed ∧ t ∈ tokens := by
  rcases read_cases htokens limit with ⟨q', hq, hspelt⟩ | ⟨e, he⟩ | ⟨t, -, -, -, he⟩
  · rw [h] at hq
    cases hq
    exact hspelt
  · rw [h] at he
    cases he
  · rw [h] at he
    cases he

/-- A query that was read from a text without integers of more than `n` digits has none itself. -/
theorem short_of_read {n : Nat} (hn : ¬ HasLongInteger (n + 1) text) {q : Query} {limit : Int}
    (h : Query.read text limit = .ok q) :
    q.source.isStandard = true ∧ ∀ e ∈ q.expressions, Work.Short n e := by
  obtain ⟨tokens, htokens⟩ := exists_tokens_of_read h
  obtain ⟨hstandard, hspelt⟩ := spelt_of_read htokens h
  refine ⟨hstandard, fun e he => (hspelt e he).mono fun t ht => ⟨ht.1, ?_⟩⟩
  exact Nat.le_of_not_lt fun hlt => hn ⟨tokens, htokens, t, ht.2, hlt⟩

theorem exists_not_hasLongInteger (text : String) : ∃ n, 1 ≤ n ∧ ¬ HasLongInteger (n + 1) text := by
  cases htokens : Token.tokenize text with
  | error e =>
      refine ⟨1, Nat.le_refl 1, ?_⟩
      rintro ⟨tokens, h, -⟩
      rw [htokens] at h
      cases h
  | ok tokens =>
      refine ⟨(tokens.map Token.integerDigits).sum + 1, Nat.le_add_left _ _, ?_⟩
      rintro ⟨tokens', h, t, ht, hlong⟩
      rw [htokens] at h
      cases h
      have hle := List.le_sum_of_mem (List.mem_map_of_mem (f := Token.integerDigits) ht)
      omega

end Reading

/-! ## One query -/

section Conversion

variable {s : Settings} {text : String} {inView : Option Bool} {f : Fault}

theorem convert_fst :
    (convert s text inView).1 =
      Query.read text s.nestingLimit >>= fun q => q.toBase s inView := by
  unfold convert
  split
  case h_1 h => rw [h]; rfl
  case h_2 h => rw [h]; rfl
  case h_3 h => rw [h]; rfl

theorem isReported_of_toYaml {b : Base Condition} (h : b.toYaml = .error f) :
    f.isReported = true := by
  unfold Base.toYaml at h
  split at h
  case isTrue =>
      cases h
      rfl
  case isFalse => cases h

/-- A fault that is not reported is one of the reading or of the work on the query. -/
theorem convertToYaml_eq_error (hf : f.isReported = false) :
    convertToYaml s text inView = .error f ↔ Query.read text s.nestingLimit = .error f ∨
      ∃ q, Query.read text s.nestingLimit = .ok q ∧ q.toBase s inView = .error f := by
  have hwritten : ∀ b : Base Condition, b.toYaml ≠ .error f := by
    intro b hb
    rw [isReported_of_toYaml hb] at hf
    cases hf
  have hbind : convertToYaml s text inView = (convert s text inView).1 >>= Base.toYaml := rfl
  rw [hbind, bind_eq_error, convert_fst, bind_eq_error]
  constructor
  · rintro (h | ⟨b, -, hb⟩)
    · exact h
    · exact absurd hb (hwritten b)
  · exact .inl

/-- What escapes is a fault that is not reported. -/
theorem convertQuery_eq_error :
    convertQuery s text inView = .error f ↔
      convertToYaml s text inView = .error f ∧ f.isReported = false := by
  unfold convertQuery
  split
  case h_1 yaml h =>
      rw [h]
      exact ⟨nofun, fun hf => nomatch hf.1⟩
  case h_2 f' h =>
      rw [h]
      split
      case isTrue hreported =>
          constructor
          · exact nofun
          · rintro ⟨⟨⟩, hf⟩
            rw [hreported] at hf
            cases hf
      case isFalse hreported =>
          constructor
          · rintro ⟨⟩
            exact ⟨rfl, by simpa using hreported⟩
          · exact And.left

/-- A fault that escapes from a query that was read, whatever bound its text keeps to. -/
theorem toBase_of_not_hasLongInteger {n : Nat} (hn : 1 ≤ n) (hlong : ¬ HasLongInteger (n + 1) text)
    {q : Query} (h : Query.read text s.nestingLimit = .ok q) (hf : f.isReported = false)
    (herror : q.toBase s inView = .error f) :
    f = .tooLarge ∧ q.ComesToBoundless s inView ∧ 309 ≤ n ∨
      (∃ k, f = .numeral k) ∧ digitLimit ≤ n := by
  obtain ⟨hstandard, hshort⟩ := short_of_read hlong h
  rcases Query.toBase_eq_error hn hshort hstandard herror with hallowed | ⟨rfl, hcomes⟩
  · right
    cases f with
    | numeral k => exact ⟨⟨k, rfl⟩, hallowed⟩
    | obstacle o => cases hf
    | unsupported u => cases hf
    | malformed e => cases hallowed
    | tooLarge => cases hallowed
    | noOperand => cases hallowed
    | tooDeepToWrite => cases hallowed
  · obtain ⟨-, done, op, rest, hops, hop, -⟩ := id hcomes
    have hmem : op ∈ q.operations := by simp [hops]
    refine .inl ⟨rfl, hcomes, Work.le_of_isBoundless hn (fun e he => hshort e ?_) hop⟩
    exact List.mem_append_right _ (List.mem_flatMap.mpr ⟨op, hmem, he⟩)

/-- A query that was read has two faults that escape: its operations come to a limit beyond the real
numbers, or an integer is too long; its text has an integer of that length. -/
theorem toBase_of_read {q : Query} (h : Query.read text s.nestingLimit = .ok q)
    (hf : f.isReported = false) (herror : q.toBase s inView = .error f) :
    f = .tooLarge ∧ q.ComesToBoundless s inView ∧ HasLongInteger 309 text ∨
      (∃ k, f = .numeral k) ∧ HasLongInteger digitLimit text := by
  obtain ⟨n, hn, hlong⟩ := exists_not_hasLongInteger text
  rcases toBase_of_not_hasLongInteger hn hlong h hf herror with ⟨rfl, hcomes, -⟩ | ⟨⟨k, rfl⟩, -⟩
  · refine .inl ⟨rfl, hcomes, by_contra fun hshort => ?_⟩
    have hcases := toBase_of_not_hasLongInteger (n := 308) (by decide) hshort h hf herror
    rcases hcases with ⟨-, -, hle⟩ | ⟨⟨k, hk⟩, -⟩
    · omega
    · cases hk
  · refine .inr ⟨⟨k, rfl⟩, by_contra fun hshort => ?_⟩
    have hcases := toBase_of_not_hasLongInteger (n := digitLimit - 1) (by decide) hshort h hf herror
    rcases hcases with ⟨hk, -⟩ | ⟨-, hle⟩
    · cases hk
    · exact absurd hle (by decide)

theorem hasLongInteger_of_convertQuery (h : convertQuery s text inView = .error f) :
    f = .tooLarge ∧ HasLongInteger 309 text ∨
      (∃ k, f = .numeral k) ∧ HasLongInteger digitLimit text := by
  obtain ⟨h, hf⟩ := convertQuery_eq_error.mp h
  obtain h | ⟨q, hq, h⟩ := (convertToYaml_eq_error hf).mp h
  · obtain ⟨e, rfl⟩ | ⟨tokens, htokens, t, ht, -, hlong, rfl⟩ := read_eq_error h
    · cases hf
    · exact .inr ⟨⟨_, rfl⟩, tokens, htokens, t, ht, Nat.le_of_lt hlong⟩
  · exact (toBase_of_read hq hf h).imp (fun h => ⟨h.1, h.2.2⟩) id

theorem convertQuery_eq_tooLarge :
    convertQuery s text inView = .error .tooLarge ↔
      ∃ q, Query.read text s.nestingLimit = .ok q ∧ q.ComesToBoundless s inView := by
  rw [convertQuery_eq_error, convertToYaml_eq_error rfl]
  constructor
  · rintro ⟨h | ⟨q, hq, h⟩, hf⟩
    · obtain ⟨e, ⟨⟩⟩ | ⟨tokens, -, t, -, -, -, ⟨⟩⟩ := read_eq_error h
    · obtain ⟨-, hcomes, -⟩ | ⟨⟨k, ⟨⟩⟩, -⟩ := toBase_of_read hq hf h
      exact ⟨q, hq, hcomes⟩
  · rintro ⟨q, hq, hcomes⟩
    exact ⟨.inr ⟨q, hq, Query.toBase_of_comesToBoundless hcomes⟩, rfl⟩

end Conversion

/-! ## Notes -/

section Notes

variable {s : Settings} {f : Fault}

theorem Fault.problem?_eq_none : f.problem? = none ↔ f.isReported = false := by
  cases f <;> simp [problem?, isReported]

theorem Block.convert_eq_error {number : Nat} {b : Block} :
    b.convert s number = .error f ↔ convertQuery s b.query none = .error f := by
  rw [convertQuery_eq_error, ← Fault.problem?_eq_none]
  unfold Block.convert
  dsimp only
  split
  case h_1 h =>
      rw [h]
      exact ⟨nofun, fun hf => nomatch hf.1⟩
  case h_2 f' h =>
      rw [h]
      split
      case h_1 p hp =>
          constructor
          · exact nofun
          · rintro ⟨⟨⟩, hf⟩
            rw [hp] at hf
            cases hf
      case h_2 hp =>
          constructor
          · rintro ⟨⟩
            exact ⟨rfl, hp⟩
          · rintro ⟨⟨⟩, -⟩
            rfl

theorem exists_ok_iff {ε α : Type} {x : Except ε α} : (∃ a, x = .ok a) ↔ ∀ e, x ≠ .error e := by
  cases x <;> simp

theorem Block.exists_record_iff {number : Nat} {b : Block} :
    (∃ r, b.convert s number = .ok r) ↔ ∃ doc, convertQuery s b.query none = .ok doc := by
  rw [exists_ok_iff, exists_ok_iff]
  exact forall_congr' fun f => not_congr Block.convert_eq_error

theorem Block.line_of_convert {number : Nat} {b : Block} {r : BlockRecord}
    (h : b.convert s number = .ok r) : r.line = b.start + 1 := by
  unfold Block.convert at h
  dsimp only at h
  split at h
  case h_1 =>
      cases h
      rfl
  case h_2 =>
      split at h
      case h_1 =>
          cases h
          rfl
      case h_2 => cases h

/-- The first block with a fault that escapes decides about all of them. -/
theorem convertBlocks_eq_error {number : Nat} {bs : List Block} :
    convertBlocks s number bs = .error f ↔ ∃ done b rest, bs = done ++ b :: rest ∧
      (∀ b' ∈ done, ∃ doc, convertQuery s b'.query none = .ok doc) ∧
      convertQuery s b.query none = .error f := by
  induction bs generalizing number with
  | nil =>
      constructor
      · exact nofun
      · rintro ⟨done, b, rest, h, -⟩
        cases done <;> cases h
  | cons b bs ih =>
      rw [convertBlocks, bind_eq_error]
      constructor
      · rintro (h | ⟨r, hr, h⟩)
        · exact ⟨[], b, bs, rfl, nofun, Block.convert_eq_error.mp h⟩
        · obtain hrest | ⟨rs, -, h⟩ := bind_eq_error.mp h
          · obtain ⟨done, b', rest, rfl, hdone, hb'⟩ := ih.mp hrest
            have hb := Block.exists_record_iff.mp ⟨r, hr⟩
            exact ⟨b :: done, b', rest, rfl, List.forall_mem_cons.mpr ⟨hb, hdone⟩, hb'⟩
          · cases h
      · rintro ⟨done, b', rest, h, hdone, hb'⟩
        cases done with
        | nil =>
            cases h
            exact .inl (Block.convert_eq_error.mpr hb')
        | cons d done =>
            cases h
            obtain ⟨hb, hdone⟩ := List.forall_mem_cons.mp hdone
            obtain ⟨r, hr⟩ := Block.exists_record_iff.mpr hb
            exact .inr ⟨r, hr, bind_eq_error.mpr (.inl (ih.mpr ⟨done, b', rest, rfl, hdone, hb'⟩))⟩

theorem lines_of_convertBlocks {number : Nat} {bs : List Block} {rs : List BlockRecord}
    (h : convertBlocks s number bs = .ok rs) : rs.map (·.line) = bs.map (·.start + 1) := by
  induction bs generalizing number rs with
  | nil =>
      cases h
      rfl
  | cons b bs ih =>
      obtain ⟨r, hr, h⟩ := bind_eq_ok.mp h
      obtain ⟨rs', hrs, h⟩ := bind_eq_ok.mp h
      cases h
      rw [List.map_cons, List.map_cons, Block.line_of_convert hr, ih hrs]

end Notes

/-! ## A table with a limit -/

section Limits

variable {s : Settings} {ds : List Char} {inView : Option Bool}

theorem convertQuery_of_long_limit (hne : ds ≠ []) (h : ∀ d ∈ ds, Text.isDigit d = true)
    (hlong : digitLimit < ds.length) :
    convertQuery s (limitedText ds) inView = .error (.numeral (.tooManyDigits ds.length)) := by
  refine convertQuery_eq_error.mpr ⟨(convertToYaml_eq_error rfl).mpr (.inl ?_), rfl⟩
  rw [read_limitedText _ hne h, Numeral.read_digits h hne, if_pos hlong]
  rfl

/-- The table without its limit has a base. -/
theorem toBase_table (hs : 0 < s.treeLimit) :
    ∃ b, Query.toBase s { header := .table [⟨"a", .var "a", none⟩] true } inView = .ok b := by
  obtain ⟨name, filtersInView, nestingLimit, treeLimit, strictLimit, logLevel⟩ := s
  cases treeLimit with
  | zero => cases hs
  | succ m => exact ⟨_, rfl⟩

theorem convertQuery_of_boundless_limit (hs : 0 < s.treeLimit) (hne : ds ≠ [])
    (h : ∀ d ∈ ds, Text.isDigit d = true) (hshort : ds.length ≤ digitLimit)
    (hinfinite : (Binary64.ofInt (Text.decimalValue ds)).isFinite = false) :
    convertQuery s (limitedText ds) inView = .error .tooLarge := by
  have hwithin : (Number.int (Text.decimalValue ds)).Within ds.length := Text.decimalValue_lt ds
  have hwritten := Number.isOverlong_of_within (hwithin.mono hshort)
  have hread : Query.read (limitedText ds) s.nestingLimit =
      .ok (limitedTable "a" (.int (Text.decimalValue ds))) := by
    rw [read_limitedText _ hne h, Numeral.read_digits h hne, if_neg (Nat.not_lt.mpr hshort)]
    rfl
  have hcomes : (limitedTable "a" (.int (Text.decimalValue ds))).ComesToBoundless s inView := by
    refine ⟨hs, [], .limit (.literal (.number (.int (Text.decimalValue ds)))), [], rfl, ?_, ?_⟩
    · simp [Operation.isBoundless, hwritten, hinfinite]
    · exact toBase_table hs
  exact convertQuery_eq_tooLarge.mpr ⟨_, hread, hcomes⟩

end Limits

/-! ## What escapes -/

/-- A text is read as a query or is malformed, unless one of its numbers has too many digits.  A
query text is converted, if only into a report, unless an integer of it has too many digits to be
read or written, or its operations come to a limit beyond the real numbers; whatever the digits of
such a limit are, the query for a table of one column escapes with it.  A note has one record for
each of its blocks, unless the query of one of them escapes; then it has none. -/
theorem escapes_only_long_integers (s : Settings) (text : String) (inView : Option Bool)
    (note : String) :
    (∀ (limit : Int) (f : Fault), Query.read text limit = .error f →
      (∃ e, f = .malformed e) ∨
        ∃ tokens, Token.tokenize text = .ok tokens ∧ ∃ t ∈ tokens, t.kind = .number ∧
          digitLimit < t.integerDigits ∧ f = .numeral (.tooManyDigits t.integerDigits)) ∧
    (∀ f : Fault, convertQuery s text inView = .error f →
      f = .tooLarge ∧ HasLongInteger 309 text ∨
        (∃ k, f = .numeral k) ∧ HasLongInteger digitLimit text) ∧
    (convertQuery s text inView = .error .tooLarge ↔
      ∃ q, Query.read text s.nestingLimit = .ok q ∧ q.ComesToBoundless s inView) ∧
    (∀ ds : List Char, ds ≠ [] → (∀ d ∈ ds, Text.isDigit d = true) → 0 < s.treeLimit →
      (digitLimit < ds.length → convertQuery s (limitedText ds) inView =
        .error (.numeral (.tooManyDigits ds.length))) ∧
      (ds.length ≤ digitLimit → (Binary64.ofInt (Text.decimalValue ds)).isFinite = false →
        convertQuery s (limitedText ds) inView = .error .tooLarge)) ∧
    (∀ f : Fault, convertNote s note = .error f ↔
      ∃ done b rest, Block.all note = done ++ b :: rest ∧
        (∀ b' ∈ done, ∃ doc, convertQuery s b'.query none = .ok doc) ∧
        convertQuery s b.query none = .error f) ∧
    ∀ rs, convertNote s note = .ok rs → rs.map (·.line) = (Block.all note).map (·.start + 1) := by
  refine ⟨fun limit f => read_eq_error, fun f => hasLongInteger_of_convertQuery,
    convertQuery_eq_tooLarge, ?_, fun f => convertBlocks_eq_error,
    fun rs => lines_of_convertBlocks⟩
  intro ds hne hdigits hs
  constructor
  · exact convertQuery_of_long_limit hne hdigits
  · exact convertQuery_of_boundless_limit hs hne hdigits

/-- The digits of an integer beyond the real numbers. -/
def hugeDigits : List Char :=
  '1' :: List.replicate 309 '0'

theorem escapes_only_long_integers_huge :
    convertQuery {} (limitedText hugeDigits) none = .error .tooLarge ∧
      HasLongInteger 309 (limitedText hugeDigits) := by
  obtain ⟨-, hlong, -, hescapes, -, -⟩ :=
    escapes_only_long_integers {} (limitedText hugeDigits) none ""
  have hdigits : ∀ d ∈ hugeDigits, Text.isDigit d = true :=
    List.all_eq_true.mp (by decide +kernel)
  have hinfinite : (Binary64.ofInt (Text.decimalValue hugeDigits)).isFinite = false := by
    decide +kernel
  have hescape := (hescapes hugeDigits (List.cons_ne_nil _ _) hdigits (by decide)).2
    (by decide +kernel) hinfinite
  refine ⟨hescape, ?_⟩
  obtain ⟨-, hhas⟩ | ⟨⟨k, hk⟩, -⟩ := hlong _ hescape
  · exact hhas
  · cases hk

end VaultQuery
