import VaultQuery.Proofs.Source.Lower
import VaultQuery.Proofs.Term
import VaultQuery.Proofs.Token.Span

/-!
Quoted texts among tokens.  The tokens of a text do not depend on where the text stands, they only
move with it (`scan_beyond`); and a quoted text is one token, whatever is quoted and whatever
follows (`scan_quote`).  So quoting is undone by the scan, and nothing that is quoted can change
what comes after it.
-/

namespace VaultQuery

namespace Token

/-! ## Texts at another place -/

/-- The place `q` of a text, if the text itself starts at the place `p`. -/
def Position.beyond (p q : Position) : Position :=
  ⟨p.offset + q.offset, p.line + (q.line - 1),
    if q.line = 1 then p.column + (q.column - 1) else q.column⟩

theorem Position.beyond_start (p : Position) : p.beyond {} = p :=
  rfl

/-- Lines and columns are counted from 1. -/
structure Position.Counts (q : Position) : Prop where
  line : 1 ≤ q.line
  column : 1 ≤ q.column

theorem Position.Counts.step {q : Position} (h : q.Counts) (c : Char) : (q.step c).Counts := by
  unfold Position.step
  split
  · exact ⟨Nat.le_add_left _ _, Nat.le_refl 1⟩
  · exact ⟨h.line, Nat.le_add_left _ _⟩

theorem Position.beyond_step (p : Position) {q : Position} (h : q.Counts) (c : Char) :
    (p.beyond q).step c = p.beyond (q.step c) := by
  obtain ⟨hline, hcolumn⟩ := h
  unfold Position.step
  split
  · have hnext : q.line + 1 ≠ 1 := by omega
    simp only [Position.beyond, hnext, if_false, Position.mk.injEq, and_true]
    omega
  · simp only [Position.beyond, Position.mk.injEq, true_and]
    split <;> omega

/-- A token of a text, if the text itself starts at the place `p`. -/
def beyond (p : Position) (t : Token) : Token :=
  { t with
    line := (p.beyond ⟨t.start, t.line, t.column⟩).line
    column := (p.beyond ⟨t.start, t.line, t.column⟩).column
    start := p.offset + t.start
    stop := p.offset + t.stop }

theorem Position.place_beyond (p q : Position) (kind : Kind) (text : String) (n : Nat) :
    (p.beyond q).place kind text n = (q.place kind text n).beyond p :=
  congrArg (Token.mk kind text _ _ _) (Nat.add_assoc p.offset q.offset n)

end Token

/-- A complaint about a text, if the text itself starts at the place `p`. -/
def Located.beyond (p : Token.Position) (e : Located) : Located :=
  match e.line, e.column with
  | some line, some column =>
    { e with
      line := some (p.beyond ⟨0, line, column⟩).line
      column := some (p.beyond ⟨0, line, column⟩).column }
  | _, _ => e

namespace Token

/-- What is found in a text, if the text itself starts at the place `p`. -/
def foundBeyond (p : Position) (r : Except Located (List Token)) : Except Located (List Token) :=
  (r.map (List.map (Token.beyond p))).mapError (Located.beyond p)

/-- The tokens of a text move with the text. -/
theorem scan_beyond (p : Position) {q : Position} (hq : q.Counts) (before : Option Kind)
    (skip : Nat) (cs : List Char) :
    scan (p.beyond q) before skip cs = foundBeyond p (scan q before skip cs) := by
  induction cs generalizing q before skip with
  | nil =>
      have hend : { p.beyond q with offset := (p.beyond q).offset + skip } =
          p.beyond { q with offset := q.offset + skip } := by
        simp [Position.beyond, Nat.add_assoc]
      rw [scan, scan, hend, Position.place_beyond]
      rfl
  | cons c cs ih =>
      cases skip with
      | succ skip =>
          rw [scan, scan, p.beyond_step hq]
          exact ih (hq.step c) before skip
      | zero =>
          rw [scan, scan, p.beyond_step hq]
          cases lexeme before c cs with
          | error complaint => rfl
          | ok found =>
              cases found with
              | gap n => exact ih (hq.step c) before (n - 1)
              | token kind text n =>
                  show (scan (p.beyond (q.step c)) (some kind) (n - 1) cs).map _ =
                    foundBeyond p ((scan (q.step c) (some kind) (n - 1) cs).map _)
                  rw [ih (hq.step c), Position.place_beyond]
                  cases scan (q.step c) (some kind) (n - 1) cs <;> rfl

/-! ## Tokens within a line -/

/-- The place `n` characters further on in the same line. -/
def Position.right (p : Position) (n : Nat) : Position :=
  ⟨p.offset + n, p.line, p.column + n⟩

theorem Position.advance_of_notMem {cs : List Char} (h : '\n' ∉ cs) (p : Position) :
    p.advance cs = p.right cs.length := by
  induction cs generalizing p with
  | nil => rfl
  | cons c cs ih =>
      rw [List.mem_cons, not_or] at h
      have hstep : p.step c = p.right 1 := by
        rw [Position.step, if_neg (by simpa using Ne.symm h.1)]
        rfl
      have hrest := ih h.2 (p.step c)
      rw [hstep] at hrest
      rw [Position.advance, List.foldl_cons, hstep]
      refine hrest.trans ?_
      simp only [Position.right, List.length_cons, Position.mk.injEq, true_and]
      omega

/-- A token that does not run past its line. -/
theorem scan_within_line {before : Option Kind} {c : Char} {own rest : List Char} {kind : Kind}
    {text : String} (hline : '\n' ∉ c :: own)
    (h : lexeme before c (own ++ rest) = .ok (.token kind text (own.length + 1))) (p : Position) :
    scan p before 0 (c :: own ++ rest) =
      (scan (p.right (own.length + 1)) (some kind) 0 rest).map
        (p.place kind text (own.length + 1) :: ·) := by
  have htake : (c :: (own ++ rest)).take (own.length + 1) = c :: own := by simp
  have hdrop : (c :: (own ++ rest)).drop (own.length + 1) = rest := by simp
  have hover : own.length + 1 - (c :: (own ++ rest)).length = 0 := by simp
  rw [List.cons_append, scan_token h (Nat.le_add_left _ _), htake, hdrop, hover,
    Position.advance_of_notMem hline]
  rfl

/-! ## Quoted texts -/

theorem newline_notMem_quotedChar (c : Char) : '\n' ∉ Vocabulary.quotedChar c := by
  unfold Vocabulary.quotedChar
  split
  · decide
  split
  · decide
  split
  · decide
  next hnewline =>
    split
    · decide
    split
    · decide
    · intro hmem
      exact hnewline (beq_iff_eq.mpr (List.mem_singleton.mp hmem).symm)

/-- The inside of a quoted text, up to its closing quote. -/
def quotedBody (s : String) : List Char :=
  s.toList.flatMap Vocabulary.quotedChar ++ ['\x22']

theorem toList_quote (s : String) : (Vocabulary.quote s).toList = '\x22' :: quotedBody s := by
  rw [Vocabulary.quote, String.toList_ofList]
  rfl

theorem length_quote (s : String) : (Vocabulary.quote s).length = (quotedBody s).length + 1 := by
  rw [← String.length_toList, toList_quote, List.length_cons]

theorem newline_notMem_quote (s : String) : '\n' ∉ '\x22' :: quotedBody s := by
  have hbody : '\n' ∉ s.toList.flatMap Vocabulary.quotedChar := by
    rw [List.mem_flatMap]
    rintro ⟨c, -, hc⟩
    exact newline_notMem_quotedChar c hc
  simp [quotedBody, hbody]

/-- Where a quoted text starts, its quotes and what is between them are one string. -/
theorem lexeme_quote (before : Option Kind) (s : String) (rest : List Char) :
    lexeme before '\x22' (quotedBody s ++ rest) =
      .ok (.token .string s ((quotedBody s).length + 1)) := by
  have hbody : stringBody '\x22' (quotedBody s ++ rest) = some (s.toList, (quotedBody s).length) := by
    rw [quotedBody, List.append_assoc, List.singleton_append, stringBody_quotedChar,
      List.length_append]
    rfl
  have hstring : Lexes before '\x22' (quotedBody s ++ rest)
      (.ok (.token .string (String.ofList s.toList) ((quotedBody s).length + 1))) :=
    .string rfl hbody
  rw [hstring.lexeme_eq, String.ofList_toList]

/-- A quoted text is one token, and what follows it has the tokens that it has by itself after a
string. -/
theorem scan_quote (p : Position) (before : Option Kind) (s : String) (rest : List Char) :
    scan p before 0 ((Vocabulary.quote s).toList ++ rest) =
      (foundBeyond (p.right (Vocabulary.quote s).length) (scan {} (some .string) 0 rest)).map
        (p.place .string s (Vocabulary.quote s).length :: ·) := by
  rw [toList_quote, scan_within_line (newline_notMem_quote s) (lexeme_quote before s rest),
    ← length_quote, ← scan_beyond _ ⟨Nat.le_refl 1, Nat.le_refl 1⟩, Position.beyond_start]

/-! ## Calls of functions of files -/

theorem identifierTail_word {own rest : List Char} (hown : ∀ c ∈ own, Text.isWord c = true)
    (hrest : ∀ c ∈ rest.head?, Text.isWord c = false ∧ c ≠ '-') :
    identifierTail (own ++ rest) = own.length := by
  induction own with
  | nil =>
      cases rest with
      | nil => rfl
      | cons c rest =>
          obtain ⟨hword, hdash⟩ := hrest c rfl
          simp [identifierTail, hword, hdash]
  | cons c own ih =>
      have htail := ih fun d hd => hown d (List.mem_cons_of_mem _ hd)
      simp [identifierTail, hown c List.mem_cons_self, htail]

/-- After a point every word is a name. -/
theorem lexeme_after_dot {c : Char} {own rest : List Char} (hc : Text.isWordStart c = true)
    (hown : ∀ d ∈ own, Text.isWord d = true)
    (hrest : ∀ d ∈ rest.head?, Text.isWord d = false ∧ d ≠ '-') :
    lexeme (some .dot) c (own ++ rest) =
      .ok (.token .identifier (String.ofList (c :: own)) (own.length + 1)) := by
  rw [(Lexes.word hc).lexeme_eq, identifierTail_word hown hrest]
  simp [word]

theorem lexeme_file (rest : List Char) :
    lexeme none 'f' (['i', 'l', 'e'] ++ '.' :: rest) = .ok (.token .identifier "file" 4) := by
  have hlength : identifierTail (['i', 'l', 'e'] ++ '.' :: rest) = 3 :=
    identifierTail_word (List.all_eq_true.mp (by decide)) fun d hd => by
      obtain rfl : '.' = d := by simpa using hd
      decide
  have hupper : Text.upperCase (String.ofList ['f', 'i', 'l', 'e']) = "FILE" := by decide +kernel
  have hword : headerWord? "FILE" = none := by decide
  rw [(Lexes.word (by decide)).lexeme_eq, hlength]
  simp [word, hupper, hword]

/-- The text of a call of a function of files. -/
def fileCallText (function argument : String) : String :=
  "file." ++ function ++ "(" ++ Vocabulary.quote argument ++ ")"

/-- The tokens of a call of a function of files. -/
def fileCallTokens (function argument : String) : List Token :=
  let name := function.length
  let text := (Vocabulary.quote argument).length
  [⟨.identifier, "file", 1, 1, 0, 4⟩, ⟨.dot, ".", 1, 5, 4, 5⟩,
    ⟨.identifier, function, 1, 6, 5, 5 + name⟩,
    ⟨.parenOpen, "(", 1, 6 + name, 5 + name, 6 + name⟩,
    ⟨.string, argument, 1, 7 + name, 6 + name, 6 + name + text⟩,
    ⟨.parenClose, ")", 1, 7 + name + text, 6 + name + text, 7 + name + text⟩,
    ⟨.endOfText, "", 1, 8 + name + text, 7 + name + text, 7 + name + text⟩]

theorem scan_mark {c : Char} {kind : Kind} (hc : punctuation? c = some kind) (hlink : c ≠ '[')
    (hline : c ≠ '\n') (p : Position) (before : Option Kind) (rest : List Char) :
    scan p before 0 (c :: rest) =
      (scan (p.right 1) (some kind) 0 rest).map (p.place kind c.toString 1 :: ·) := by
  have hlex : lexeme before c ([] ++ rest) = .ok (.token kind c.toString 1) :=
    (Lexes.mark hc fun h => absurd h hlink).lexeme_eq
  exact scan_within_line (by simpa using hline.symm) hlex p

theorem tokenize_fileCallText {function : String} (hf : Sign.isWordText function = true)
    (argument : String) :
    tokenize (fileCallText function argument) = .ok (fileCallTokens function argument) := by
  have hword := fun c hc => Sign.isWord_of_mem_isWordText (c := c) hf hc
  unfold Sign.isWordText at hf
  split at hf
  case h_1 => cases hf
  case h_2 c own hname =>
      simp only [Bool.and_eq_true, List.all_eq_true] at hf
      have htext : (fileCallText function argument).toList =
          'f' :: ['i', 'l', 'e'] ++ '.' :: (c :: own ++ '(' ::
            ('\x22' :: quotedBody argument ++ [')'])) := by
        simp [fileCallText, hname, toList_quote]
      have hline : '\n' ∉ c :: own := fun hmem =>
        absurd (hword '\n' (hname ▸ hmem)) (by decide)
      have hparen : ∀ rest : List Char, ∀ d ∈ ('(' :: rest).head?,
          Text.isWord d = false ∧ d ≠ '-' := by
        intro rest d hd
        obtain rfl : '(' = d := by simpa using hd
        decide
      have hlength : own.length + 1 = function.length := by
        rw [← String.length_toList, hname, List.length_cons]
      rw [tokenize, htext, scan_within_line (by decide) (lexeme_file _),
        scan_mark rfl (by decide) (by decide),
        scan_within_line hline (lexeme_after_dot hf.1 hf.2 (hparen _)),
        scan_mark rfl (by decide) (by decide),
        scan_within_line (newline_notMem_quote argument) (lexeme_quote _ argument _),
        scan_mark rfl (by decide) (by decide), scan, ← hname, String.ofList_toList, hlength,
        ← length_quote]
      have hmarks : '.'.toString = "." ∧ '('.toString = "(" ∧ ')'.toString = ")" := by decide
      simp only [Except.map, fileCallTokens, Position.place, Position.right, hmarks,
        List.length_cons, List.length_nil, Except.ok.injEq, List.cons.injEq, Token.mk.injEq,
        true_and, and_true]
      omega

end Token

/-! ## Questions about files -/

/-- A text without the hash signs before it. -/
def withoutHashes (s : String) : String :=
  String.ofList (s.toList.dropWhile (· == '#'))

/-- The function of files that a source is a call of, and the text that it is asked about. -/
def Source.question? : Source → Option (String × String)
  | .folder path => if path.isEmpty then none else some ("inFolder", path)
  | .tag name => some ("hasTag", withoutHashes name)
  | .link target => some ("hasLink", target)
  | _ => none

/-- The function of files that an expression is a call of, and the text that it is asked about. -/
def Expr.question? : Expr → Option (String × String)
  | .call name [tags, .literal (.text tag)] =>
    if Text.lowerCase name == "contains" && tags.isTags then some ("hasTag", withoutHashes tag)
    else none
  | _ => none

theorem Source.condition_of_question? {s : Source} {function argument : String}
    (h : s.question? = some (function, argument)) {limit depth : Nat} (hlevel : depth < limit) :
    s.condition limit depth = .ok (some (.leaf (Token.fileCallText function argument))) ∧
      Sign.isWordText function = true := by
  have hroom : depth + 1 ≤ limit := hlevel
  cases s with
  | folder path =>
      rw [question?] at h
      split at h
      case isTrue => cases h
      case isFalse hpath =>
          cases h
          refine ⟨?_, by decide⟩
          rw [condition, lower, descend_bind_eq_ok]
          refine ⟨hroom, ?_⟩
          rw [if_neg hpath]
          rfl
  | tag name =>
      cases h
      refine ⟨?_, by decide⟩
      rw [condition, lower, descend_bind_eq_ok]
      exact ⟨hroom, rfl⟩
  | link target =>
      cases h
      refine ⟨?_, by decide⟩
      rw [condition, lower, descend_bind_eq_ok]
      exact ⟨hroom, rfl⟩
  | _ => cases h

theorem Expr.condition_of_question? {e : Expr} {function argument : String}
    (h : e.question? = some (function, argument)) {limit depth : Nat} (hlevel : depth < limit) :
    e.condition limit depth = .ok (.leaf (Token.fileCallText function argument)) ∧
      Sign.isWordText function = true := by
  unfold Expr.question? at h
  split at h
  case h_2 => cases h
  case h_1 name tags tag =>
      split at h
      case isFalse => cases h
      case isTrue hask =>
          cases h
          simp only [Bool.and_eq_true, beq_iff_eq] at hask
          have hspecial : specialCall? name [tags, .literal (.text tag)] =
              .ok (some (Token.fileCallText "hasTag" (withoutHashes tag))) := by
            unfold specialCall?
            simp [hask, Token.fileCallText, withoutHashes]
          refine ⟨lower_of_lowerNode (by rw [start_alone]; omega) ?_, by decide⟩
          rw [lowerNode, hspecial]
          rfl

/-- A quoted text is one token with exactly that text, whatever stands before and after it, and what
stands after it has the tokens that it has by itself, moved to their place.  So the question whether
a file is in a folder, has a tag or has a link is scanned as the call that it is, with the folder,
the tag or the link as its one string. -/
theorem Token.quoted_text_is_one_token (s : String) :
    (∃ body, (Vocabulary.quote s).toList = '\x22' :: body ∧
      ∀ (before : Option Kind) (t : List Char), lexeme before '\x22' (body ++ t) =
        .ok (.token .string s (Vocabulary.quote s).length)) ∧
    (∀ t : String, tokenize (Vocabulary.quote s ++ t) =
      (foundBeyond (Position.right {} (Vocabulary.quote s).length)
        (scan {} (some .string) 0 t.toList)).map
          (⟨.string, s, 1, 1, 0, (Vocabulary.quote s).length⟩ :: ·)) ∧
    (∀ (p : Position) (before : Option Kind) (t : List Char),
      scan p before 0 ((Vocabulary.quote s).toList ++ t) =
        (foundBeyond (p.right (Vocabulary.quote s).length) (scan {} (some .string) 0 t)).map
          (p.place .string s (Vocabulary.quote s).length :: ·)) ∧
    ∀ (function : String) (limit depth : Nat), depth < limit →
      (∀ source : Source, source.question? = some (function, s) →
        ∃ text, source.condition limit depth = .ok (some (.leaf text)) ∧
          tokenize text = .ok (fileCallTokens function s)) ∧
      ∀ e : Expr, e.question? = some (function, s) →
        ∃ text, e.condition limit depth = .ok (.leaf text) ∧
          tokenize text = .ok (fileCallTokens function s) := by
  refine ⟨⟨quotedBody s, toList_quote s, fun before t => ?_⟩, fun t => ?_,
    fun p before t => scan_quote p before s t,
    fun function limit depth hlevel => ⟨fun source hask => ?_, fun e hask => ?_⟩⟩
  · rw [length_quote]
    exact lexeme_quote before s t
  · have hscan := scan_quote {} none s t.toList
    rw [← String.toList_append] at hscan
    rw [tokenize, hscan]
    simp [Position.place]
  · obtain ⟨hcondition, hword⟩ := Source.condition_of_question? hask hlevel
    exact ⟨_, hcondition, tokenize_fileCallText hword s⟩
  · obtain ⟨hcondition, hword⟩ := Expr.condition_of_question? hask hlevel
    exact ⟨_, hcondition, tokenize_fileCallText hword s⟩

/-- A folder whose name is a quote, a backslash and a line end. -/
theorem Token.quoted_text_is_one_token_folder :
    0 < 1 ∧ (Source.folder "\"\\\n").question? = some ("inFolder", "\"\\\n") ∧
      (Source.folder "\"\\\n").condition 1 0 =
        .ok (some (.leaf "file.inFolder(\"\\\"\\\\\\n\")")) ∧
      tokenize "file.inFolder(\"\\\"\\\\\\n\")" = .ok (fileCallTokens "inFolder" "\"\\\n") := by
  obtain ⟨-, -, -, hfiles⟩ := quoted_text_is_one_token "\"\\\n"
  obtain ⟨text, hcondition, htokens⟩ :=
    (hfiles "inFolder" 1 0 (by decide)).1 (.folder "\"\\\n") (by decide)
  have htext : (Source.folder "\"\\\n").condition 1 0 =
      .ok (some (.leaf "file.inFolder(\"\\\"\\\\\\n\")")) := by rfl
  cases htext.symm.trans hcondition
  exact ⟨by decide, by decide, htext, htokens⟩

end VaultQuery
