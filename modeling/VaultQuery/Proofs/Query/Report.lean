import VaultQuery.Proofs.Convert
import VaultQuery.Proofs.Expr.Line
import VaultQuery.Proofs.Query.Place

/-!
Reports of one line.  A message repeats parts of the query: characters and tokens that are
complained about, escaped fragments of the text, and the amount of a limit as a base writes it.  All
of these are free of line ends but the texts of strings and links, and only two complaints repeat
such a text: that it is left over at the end of a clause, and that it stands where a header should
(`report_is_one_line_iff`).
-/

namespace VaultQuery

open Text

/-! ## Tokens -/

namespace Text

theorem isBlank_of_mem_wordsFrom {current cs : List Char}
    (hcurrent : ∀ c ∈ current, isBlank c = false) :
    ∀ w ∈ wordsFrom current cs, ∀ c ∈ w, isBlank c = false := by
  have hword : ∀ {ds : List Char}, (∀ c ∈ ds, isBlank c = false) →
      ∀ c ∈ ds.reverse, isBlank c = false := fun h c hc => h c (List.mem_reverse.mp hc)
  induction cs generalizing current with
  | nil =>
      rw [wordsFrom]
      split
      case isTrue => exact List.forall_mem_nil _
      case isFalse => exact List.forall_mem_singleton.mpr (hword hcurrent)
  | cons c cs ih =>
      rw [wordsFrom]
      split
      case isTrue =>
          split
          case isTrue => exact ih (List.forall_mem_nil _)
          case isFalse =>
              exact List.forall_mem_cons.mpr ⟨hword hcurrent, ih (List.forall_mem_nil _)⟩
      case isFalse hc =>
          exact ih (List.forall_mem_cons.mpr ⟨by simpa using hc, hcurrent⟩)

theorem oneLine_joinWords (cs : List Char) : OneLine (String.ofList (joinWords ' ' cs)) := by
  have hspace : OneLine " " := oneLine_of_all rfl
  have hjoin : String.ofList (joinWords ' ' cs) =
      String.intercalate " " ((words cs).map String.ofList) := by
    rw [← String.toList_inj, String.toList_intercalate, String.toList_ofList, List.map_map]
    have hid : String.toList ∘ String.ofList = id := funext fun _ => String.toList_ofList
    rw [hid, List.map_id]
    rfl
  rw [hjoin, oneLine_intercalate hspace, List.forall_mem_map]
  intro w hw
  have hblank := isBlank_of_mem_wordsFrom (List.forall_mem_nil _) w hw
  exact oneLine_ofList.mpr fun c hc => isInline_of_isBlank (hblank c hc)

end Text

namespace Token

theorem of_ite_beq {P : String → Prop} {upper word : String} {kind kind' : Kind} {x : Option Kind}
    (hword : P word) (hx : x = some kind → P upper)
    (h : (if upper == word then some kind' else x) = some kind) : P upper := by
  cases hb : upper == word with
  | true => exact beq_iff_eq.mp hb ▸ hword
  | false =>
      rw [hb] at h
      exact hx h

theorem oneLine_of_headerWord? {upper : String} {kind : Kind} :
    headerWord? upper = some kind → OneLine upper := by
  unfold headerWord?
  iterate 4 refine of_ite_beq (by decide) ?_
  nofun

theorem oneLine_of_keyword? {upper : String} {kind : Kind} :
    keyword? upper = some kind → OneLine upper := by
  unfold keyword?
  iterate 12 refine of_ite_beq (by decide) ?_
  nofun

theorem oneLine_word {before : Option Kind} {cs : List Char} {length : Nat}
    (hown : OneLine (String.ofList (cs.take length))) {kind : Kind} {text : String} {n : Nat}
    (h : word before cs length = .token kind text n) : OneLine text := by
  unfold word at h
  dsimp only at h
  split at h
  case h_1 =>
      cases h
      exact hown
  case h_2 =>
      split at h
      case h_1 hheader =>
          cases h
          exact oneLine_of_headerWord? hheader
      case h_2 =>
          cases h
          exact hown
  case h_3 =>
  split at h
  case h_1 =>
      cases h
      exact oneLine_joinWords _
  case h_2 =>
      cases h
      exact oneLine_joinWords _
  case h_3 =>
  split at h
  case h_1 =>
      cases h
      exact hown
  case h_2 =>
      cases h
      exact hown
  case h_3 hkeyword =>
      split at h
      case isTrue =>
          cases h
          exact hown
      case isFalse =>
          cases h
          exact oneLine_of_keyword? hkeyword

theorem isInline_of_isDigit {c : Char} (h : isDigit c = true) : isInline c = true :=
  isInline_of_isBlank (isBlank_eq_false_of_isDigit h)

theorem isInline_of_isPart {c : Char} (h : MomentShape.isPart c = true) : isInline c = true := by
  simp only [MomentShape.isPart, Bool.or_eq_true, beq_iff_eq] at h
  rcases h with (((h | rfl) | rfl) | rfl) | rfl
  · exact isInline_of_isDigit h
  all_goals decide

theorem isInline_of_isTagChar {c : Char} (h : isTagChar c = true) : isInline c = true := by
  simp only [isTagChar, Bool.or_eq_true, beq_iff_eq] at h
  rcases h with (h | rfl) | rfl
  · exact isInline_of_isWord h
  all_goals decide

theorem isInline_of_operator? {c : Char} {kind : Kind} (h : operator? c = some kind) :
    isInline c = true := by
  unfold operator? at h
  split at h <;> cases h <;> decide

theorem isInline_of_punctuation? {c : Char} {kind : Kind} (h : punctuation? c = some kind) :
    isInline c = true := by
  unfold punctuation? at h
  split at h <;> cases h <;> decide

theorem oneLine_toString_char {c : Char} (h : isInline c = true) : OneLine c.toString := by
  intro d hd
  obtain rfl : d = c := by simpa [Char.toString] using hd
  exact h

/-- Only strings and links may have line ends in their texts. -/
theorem Lexes.oneLine {before : Option Kind} {c : Char} {cs : List Char}
    {r : Except Complaint Lexeme} (h : Lexes before c cs r) {kind : Kind} {text : String} {n : Nat}
    (hr : r = .ok (.token kind text n)) (hstring : kind ≠ .string) (hlink : kind ≠ .link) :
    OneLine text := by
  cases h with
  | blank | comment | openString | openLink | unknown => cases hr
  | string =>
      cases hr
      exact absurd rfl hstring
  | link =>
      cases hr
      exact absurd rfl hlink
  | date _ hmoment =>
      cases hr
      obtain ⟨a, rest, heq, rfl, -, hparts⟩ := exists_of_momentLength? hmoment
      rw [heq, List.take_left]
      exact oneLine_ofList.mpr fun d hd => isInline_of_isPart (hparts d hd)
  | number hdigit _ =>
      cases hr
      obtain ⟨ds, fs, hds, -, hfs, htake⟩ := take_numberLength hdigit cs
      rw [htake, Numeral.plain, oneLine_ofList]
      refine List.forall_mem_append.mpr
        ⟨List.forall_mem_nil _, List.forall_mem_append.mpr ⟨?_, ?_⟩⟩
      · exact fun d hd => isInline_of_isDigit (hds d hd)
      · split
        case isTrue => exact List.forall_mem_nil _
        case isFalse =>
            exact List.forall_mem_cons.mpr ⟨by decide, fun d hd => isInline_of_isDigit (hfs d hd)⟩
  | @tag d cs htag =>
      cases hr
      rw [List.take_succ_cons, ← List.prefix_iff_eq_take.mp (List.takeWhile_prefix _),
        oneLine_ofList]
      refine List.forall_mem_cons.mpr ⟨by decide, fun d hd => ?_⟩
      exact isInline_of_isTagChar (List.mem_takeWhile_imp hd)
  | pair hpair =>
      cases hr
      obtain ⟨rfl, -, kind', hoperator⟩ := pairOperator?_eq_some hpair
      rw [oneLine_ofList, List.forall_mem_cons, List.forall_mem_singleton]
      exact ⟨isInline_of_operator? hoperator, by decide⟩
  | single hoperator _ _ =>
      cases hr
      exact oneLine_toString_char (isInline_of_operator? hoperator)
  | word hstart =>
      refine oneLine_word ?_ (Except.ok.inj hr)
      rw [List.take_succ_cons, oneLine_ofList]
      refine List.forall_mem_cons.mpr ⟨isInline_of_isWord (isWord_of_isWordStart hstart), ?_⟩
      exact fun d hd => isInline_of_isBlank (isBlank_of_mem_identifierTail cs d hd)
  | mark hmark _ =>
      cases hr
      exact oneLine_toString_char (isInline_of_punctuation? hmark)

theorem oneLine_of_among {text : String} {tokens : List Token} (h : tokenize text = .ok tokens)
    {t : Token} (ht : t.Among tokens) (hopen : ¬ t.IsEnclosed) : OneLine t.text := by
  rcases ht with ht | ⟨u, -, rfl⟩
  · rcases begins_or_end_of_tokenize h ht with ⟨pre, hbegins⟩ | ⟨extra, rfl⟩
    · obtain ⟨before, c, rest, n, -, hlex, -⟩ := hbegins
      exact (lexeme_eq_iff.mp hlex).oneLine rfl (fun hk => hopen (.inl hk))
        (fun hk => hopen (.inr hk))
    · exact List.forall_mem_nil _
  · exact List.forall_mem_nil _

theorem not_isEnclosed_of_kind {t : Token} {kind : Kind} (hk : t.kind = kind)
    (hstring : kind ≠ .string) (hlink : kind ≠ .link) : ¬ t.IsEnclosed :=
  not_or.mpr ⟨fun h => hstring (hk.symm.trans h), fun h => hlink (hk.symm.trans h)⟩

theorem Among.mem_of_isEnclosed {tokens : List Token} {t : Token} (ht : t.Among tokens)
    (h : t.IsEnclosed) : t ∈ tokens := by
  rcases ht with ht | ⟨u, -, rfl⟩
  · exact ht
  · rcases h with h | h <;> cases h

end Token

/-! ## Messages -/

theorem Located.oneLine_message {e : Located} :
    OneLine e.message ↔ OneLine e.complaint.message := by
  have hline : OneLine " at line " := oneLine_of_all rfl
  have hcolumn : OneLine ", column " := oneLine_of_all rfl
  have hnear : OneLine " near " := oneLine_of_all rfl
  unfold message
  refine (oneLine_append_right ?near).trans (oneLine_append_right ?place)
  case place =>
    split
    case h_1 => decide
    case h_2 => exact oneLine_append.mpr ⟨hline, oneLine_toString _⟩
    case h_3 =>
        simp only [oneLine_append]
        exact ⟨⟨⟨hline, oneLine_toString _⟩, hcolumn⟩, oneLine_toString _⟩
  case near =>
    split
    case isTrue => decide
    case isFalse => exact oneLine_append.mpr ⟨hnear, oneLine_shown _⟩

theorem Clause.oneLine_complaintAt {text : String} {t : Token} {complaint : Complaint} :
    OneLine (complaintAt text t complaint).message ↔ OneLine complaint.message :=
  Located.oneLine_message

/-- A text of the shape of a moment is not called malformed, whatever its numbers are. -/
theorem MomentShape.toMoment_ne_malformed (shape : MomentShape) (text : String) :
    shape.toMoment ≠ .error (.malformed text) := by
  intro h
  rcases bind_eq_error.mp h with h | ⟨date, -, h⟩
  · unfold toDate at h
    dsimp only at h
    repeat' split at h
    all_goals cases h
  · split at h
    case h_1 => cases h
    case h_2 =>
        rcases bind_eq_error.mp h with h | ⟨clock, -, h⟩
        · unfold toClock at h
          repeat' split at h
          all_goals cases h
        · cases h

theorem MomentFault.oneLine_message {text : String} (htext : OneLine text) {fault : MomentFault}
    (h : Moment.read text = .error fault) : OneLine fault.message := by
  have hstem : OneLine "Invalid date literal: " := oneLine_of_all rfl
  have hyear : OneLine "year " := oneLine_of_all rfl
  have hrange : OneLine " is out of range" := oneLine_of_all rfl
  cases fault with
  | malformed shown =>
      unfold Moment.read at h
      split at h
      case h_1 shape _ _ => exact absurd h (shape.toMoment_ne_malformed shown)
      case h_2 =>
          cases h
          exact oneLine_append.mpr ⟨hstem, htext⟩
  | year value =>
      exact oneLine_append.mpr ⟨oneLine_append.mpr ⟨hyear, oneLine_toString value⟩, hrange⟩
  | _ => exact oneLine_of_all rfl

theorem Complaint.oneLine_of_isWordless {complaint : Complaint} (h : complaint.isWordless = true) :
    OneLine complaint.message := by
  have hstem : OneLine "Maximum nesting depth of " := oneLine_of_all rfl
  have htail : OneLine " exceeded" := oneLine_of_all rfl
  cases complaint with
  | nestingExceeded limit =>
      exact oneLine_append.mpr ⟨oneLine_append.mpr ⟨hstem, oneLine_intText limit⟩, htail⟩
  | _ => first | exact Bool.noConfusion h | exact oneLine_of_all rfl

theorem Complaint.oneLine_leftover {text clause : String} :
    OneLine (leftover text clause).message ↔ OneLine text ∧ OneLine clause := by
  have hstem : OneLine "Unexpected '" := oneLine_of_all rfl
  have hmiddle : OneLine "' in " := oneLine_of_all rfl
  have htail : OneLine " clause" := oneLine_of_all rfl
  have htext := (oneLine_append_right hmiddle).trans (oneLine_append_left (t := text) hstem)
  exact (oneLine_append_right htail).trans (oneLine_append.trans (and_congr_left' htext))

theorem Complaint.oneLine_queryTypeExpected {text : String} :
    OneLine (queryTypeExpected text).message ↔ OneLine text := by
  have hstem : OneLine "Expected query type (TABLE, LIST, TASK, CALENDAR), got " :=
    oneLine_of_all rfl
  refine (oneLine_append_left hstem).trans ?_
  split
  case isTrue hempty =>
      obtain rfl : text = "" := by simpa using hempty
      decide
  case isFalse => rfl

theorem Token.Offends.oneLine {cs : List Char} {complaint : Complaint}
    (h : Offends cs complaint) : OneLine complaint.message := by
  cases h with
  | @character c _ hgap =>
      have hstem : OneLine "Unexpected character '" := oneLine_of_all rfl
      have htail : OneLine "'" := oneLine_of_all rfl
      have hc : isInline c = true := by
        simp only [isGap, Bool.or_eq_false_iff] at hgap
        simp [isInline, bne, hgap]
      exact oneLine_append.mpr ⟨oneLine_append.mpr ⟨hstem, oneLine_toString_char hc⟩, htail⟩
  | string => exact oneLine_of_all rfl
  | link => exact oneLine_of_all rfl

section Concerns

variable {T : Token → Prop} {t : Token} {complaint : Complaint}

theorem IsClauseName.oneLine (hT : ∀ t, T t → ¬ t.IsEnclosed → OneLine t.text) {name : String}
    (h : IsClauseName T name) : OneLine name := by
  have hnames : ∀ name ∈ ["TASK", "CALENDAR", "LIST", "TABLE", "FROM"], OneLine name := by decide
  rcases h with h | ⟨keyword, hkeyword, hopen, rfl⟩
  · exact hnames name h
  · exact hT keyword hkeyword hopen

/-- A complaint about a token is one line, unless it repeats a text that is none. -/
theorem Concerns.oneLine (hT : ∀ t, T t → ¬ t.IsEnclosed → OneLine t.text) (ht : T t)
    (h : Concerns T t complaint) :
    OneLine complaint.message ∨ ¬ OneLine t.text ∧
      (complaint = .queryTypeExpected t.text ∨
        ∃ clause, complaint = .leftover t.text clause) := by
  have hstated : ∀ stem : String, OneLine stem → ¬ t.IsEnclosed → OneLine (stem ++ t.text) :=
    fun stem hstem hopen => oneLine_append.mpr ⟨hstem, hT t ht hopen⟩
  cases h with
  | wordless hwordless => exact .inl (Complaint.oneLine_of_isWordless hwordless)
  | leftover hclause =>
      have hname := hclause.oneLine hT
      rw [Complaint.oneLine_leftover, and_iff_left hname]
      exact (em _).imp_right fun htext => ⟨htext, .inr ⟨_, rfl⟩⟩
  | queryType =>
      rw [Complaint.oneLine_queryTypeExpected]
      exact (em _).imp_right fun htext => ⟨htext, .inl rfl⟩
  | unexpected hopen => exact .inl (hstated "Unexpected token: " (by decide) hopen)
  | noSource hopen => exact .inl (hstated "Expected source path, got " (by decide) hopen)
  | unmatched hopen =>
      have hquote : OneLine "'" := oneLine_of_all rfl
      exact .inl (oneLine_append.mpr ⟨hstated "Unmatched '" (by decide) hopen, hquote⟩)
  | noValue hopen => exact .inl (hstated "Expected a value after " (by decide) hopen)
  | moment hk hread =>
      have hopen := Token.not_isEnclosed_of_kind hk (by decide) (by decide)
      exact .inl (MomentFault.oneLine_message (hT t ht hopen) hread)

end Concerns

/-! ## Faults of the work -/

/-- A fault that is worded in one line if it is reported. -/
def Fault.InOneLine (f : Fault) : Prop :=
  f.isReported = true → OneLine f.message

namespace Fault

theorem inOneLine_tooDeep (limit : Nat) : InOneLine (.obstacle (.tooDeep limit)) := by
  intro _
  have hstem : OneLine "Query is nested deeper than " := oneLine_of_all rfl
  have htail : OneLine " levels" := oneLine_of_all rfl
  exact oneLine_append.mpr ⟨oneLine_append.mpr ⟨hstem, oneLine_toString limit⟩, htail⟩

theorem inOneLine_chainTooDeep (limit : Nat) : InOneLine (.obstacle (.chainTooDeep limit)) :=
  inOneLine_tooDeep limit

theorem inOneLine_header (h : Header) : InOneLine (.unsupported (.header h.keyword)) := by
  intro _
  have hkeyword : OneLine h.keyword := by cases h <;> exact oneLine_of_all rfl
  have htail : OneLine " queries are not supported. Please use TABLE queries instead." :=
    oneLine_of_all rfl
  exact oneLine_append.mpr ⟨hkeyword, htail⟩

theorem inOneLine_limit {amount : String} (h : OneLine amount) :
    InOneLine (.unsupported (.limit amount)) := by
  intro _
  have hstem : OneLine "LIMIT amount must be a positive integer, got " := oneLine_of_all rfl
  exact oneLine_append.mpr ⟨hstem, h⟩

end Fault

theorem Expr.onlyFaults_inOneLine {e : Expr} (hnative : ∀ node, .foreign node ∉ e.leaves)
    (limit depth : Nat) : OnlyFaults Fault.InOneLine (e.condition limit depth) := by
  have hplain : OnlyFaults Fault.InOneLine e.plain :=
    e.onlyFaults_plain (fun node hnode => absurd hnode (hnative node)) (.inl fun _ => nofun)
  exact (e.bounded_lower .alone depth).onlyFaults hplain
    (fun _ _ _ => Fault.inOneLine_tooDeep limit) fun _ _ _ => Fault.inOneLine_chainTooDeep limit

theorem Source.onlyFaults_inOneLine {src : Source} (h : src.isStandard = true)
    (limit depth : Nat) : OnlyFaults Fault.InOneLine (src.condition limit depth) := by
  obtain ⟨r, hr⟩ := exists_plain h
  have hplain : OnlyFaults Fault.InOneLine src.plain := hr ▸ onlyFaults_ok r
  exact (src.bounded_lower false depth).onlyFaults hplain
    (fun _ _ _ => Fault.inOneLine_tooDeep limit) fun _ _ _ => Fault.inOneLine_chainTooDeep limit

/-- The parts of a query that was read are refused in one line. -/
theorem Query.lenient_inOneLine {T : Token → Prop}
    (hT : ∀ t, T t → t.kind = .identifier → OneLine t.text) {q : Query} (hq : q.NamedBy T)
    (s : Settings) : Work.Lenient Fault.InOneLine s q := by
  refine ⟨Fault.inOneLine_header q.header, fun op hop => ?_⟩
  obtain ⟨hnative, hnamed⟩ := hq.2 op hop
  cases op with
  | limit amount =>
      intro written hwritten
      obtain ⟨c, hc, rfl⟩ := map_eq_ok.mp hwritten
      have hplain := (Expr.condition_eq_ok_iff.mp hc).1
      have hamount := hnamed amount List.mem_cons_self
      exact Fault.inOneLine_limit (Expr.oneLine_plain hT amount hamount hplain)
  | foreign node => exact absurd rfl (hnative node)
  | _ => trivial

/-! ## Reports -/

section Report

variable {s : Settings} {text : String} {inView : Option Bool} {f : Fault}

/-- A fault of the work on a query that was read is worded in one line. -/
theorem Query.inOneLine_of_toBase {q : Query} (hread : Query.read text s.nestingLimit = .ok q)
    (h : q.toBase s inView = .error f) : f.InOneLine := by
  obtain ⟨tokens, htokens⟩ := exists_tokens_of_read hread
  have hT : ∀ t, Token.Among tokens t → t.kind = .identifier → OneLine t.text := fun t ht hk =>
    Token.oneLine_of_among htokens ht (Token.not_isEnclosed_of_kind hk (by decide) (by decide))
  obtain ⟨hstandard, hspelt⟩ := spelt_of_read htokens hread
  have hnative : ∀ e ∈ q.expressions, ∀ node, .foreign node ∉ e.leaves := by
    intro e he node hnode
    cases hspelt e he _ hnode
  rw [read_eq_ofTokens htokens] at hread
  have hnamed := (ends_ofTokens text s.nestingLimit (Token.ne_nil_of_tokenize htokens)).of_ok hread
  rcases Work.fails_base (lenient_inOneLine hT hnamed s)
      (fun e he => Expr.onlyFaults_inOneLine (hnative e he) s.treeLimit 0)
      (Source.onlyFaults_inOneLine hstandard s.treeLimit 0) h with
    hf | ⟨_, _, _, _, _, _, -, -, -, hstalls⟩
  · exact hf
  · obtain rfl | ⟨k, rfl⟩ := hstalls.tooLarge_or_numeral <;> nofun

theorem Base.oneLine_of_toYaml {b : Base Condition} (h : b.toYaml = .error f) :
    OneLine f.message := by
  unfold Base.toYaml at h
  split at h
  case isTrue =>
      cases h
      exact oneLine_of_all rfl
  case isFalse => cases h

/-- A complaint that repeats the text of a string or of a link which is more than one line. -/
def RepeatsLineEnd (text : String) (f : Fault) : Prop :=
  ∃ tokens t, Token.tokenize text = .ok tokens ∧ t ∈ tokens ∧ t.IsEnclosed ∧ ¬ OneLine t.text ∧
    (f = Clause.complaintAt text t (.queryTypeExpected t.text) ∨
      ∃ clause, f = Clause.complaintAt text t (.leftover t.text clause))

theorem RepeatsLineEnd.not_oneLine (h : RepeatsLineEnd text f) : ¬ OneLine f.message := by
  obtain ⟨tokens, t, -, -, -, htext, rfl | ⟨clause, rfl⟩⟩ := h
  · rwa [Clause.oneLine_complaintAt, Complaint.oneLine_queryTypeExpected]
  · rw [Clause.oneLine_complaintAt, Complaint.oneLine_leftover]
    exact fun hmessage => htext hmessage.1

/-- A fault of reading is worded in one line, unless it repeats a text that is none. -/
theorem Query.oneLine_of_read {limit : Int} (h : Query.read text limit = .error f)
    (hreported : f.isReported = true) : OneLine f.message ∨ RepeatsLineEnd text f := by
  cases htokens : Token.tokenize text with
  | error e =>
      rw [Query.read, htokens] at h
      cases h
      obtain ⟨n, -, -, hoffends, -⟩ := Token.offends_of_tokenize htokens
      exact .inl (Located.oneLine_message.mpr hoffends.oneLine)
  | ok tokens =>
      rw [read_eq_ofTokens htokens] at h
      have hraised := (Query.ends_ofTokens text limit (Token.ne_nil_of_tokenize htokens)).of_error h
      cases hraised with
      | numeral => cases hreported
      | tooNested fragment =>
          have hcomplaint : OneLine Complaint.nestedTooDeeply.message := oneLine_of_all rfl
          exact .inl (Located.oneLine_message.mpr hcomplaint)
      | @about t complaint ht hconcerns =>
          have hT : ∀ t, Token.Among tokens t → ¬ t.IsEnclosed → OneLine t.text :=
            fun t => Token.oneLine_of_among htokens
          refine (hconcerns.oneLine hT ht).imp Clause.oneLine_complaintAt.mpr ?_
          rintro ⟨htext, hcomplaint⟩
          have henclosed : t.IsEnclosed := by_contra fun hopen => htext (hT t ht hopen)
          refine ⟨tokens, t, htokens, ht.mem_of_isEnclosed henclosed, henclosed, htext, ?_⟩
          rcases hcomplaint with rfl | ⟨clause, rfl⟩
          · exact .inl rfl
          · exact .inr ⟨clause, rfl⟩

/-- A query that cannot be converted is answered with the error stem and the message of its fault.
The answer is one line except when the message repeats, as it was read, a string or a link that
has a line end: one that is left over after a clause, or that stands where a query type should. -/
theorem report_is_one_line_iff (s : Settings) (text : String) (inView : Option Bool) {f : Fault}
    (h : convertToYaml s text inView = .error f) (hreported : f.isReported = true) :
    convertQuery s text inView = .ok (errorStem ++ ": " ++ f.message) ∧
      (OneLine (errorStem ++ ": " ++ f.message) ↔ ¬ RepeatsLineEnd text f) := by
  have hstem : OneLine (errorStem ++ ": ") :=
    oneLine_append.mpr ⟨oneLine_of_all rfl, oneLine_of_all rfl⟩
  refine ⟨by simp [convertQuery, h, hreported], (oneLine_append_left hstem).trans ⟨?_, ?_⟩⟩
  · exact fun hline hrepeats => hrepeats.not_oneLine hline
  · intro hrepeats
    have hbind : convertToYaml s text inView = (convert s text inView).1 >>= Base.toYaml := rfl
    rw [hbind, bind_eq_error, convert_fst, bind_eq_error] at h
    rcases h with (hread | ⟨q, hread, hbase⟩) | ⟨b, -, hyaml⟩
    · exact (Query.oneLine_of_read hread hreported).resolve_right hrepeats
    · exact Query.inOneLine_of_toBase hread hbase hreported
    · exact Base.oneLine_of_toYaml hyaml

/-- A table with a string left over that spans two lines. -/
def spreadText : String :=
  "TABLE a \"x\ny\""

theorem report_is_one_line_iff_spread :
    convertQuery {} spreadText none = .ok ("# Error parsing Dataview query: Unexpected 'x\ny' " ++
        "in TABLE clause at line 1, column 9 near '\"x'") ∧
      ∃ answer, convertQuery {} spreadText none = .ok answer ∧ ¬ OneLine answer := by
  let string : Token := ⟨.string, "x\ny", 1, 9, 8, 13⟩
  let fault := Clause.complaintAt spreadText string (.leftover "x\ny" "TABLE")
  have hconvert : convertToYaml {} spreadText none = .error fault := rfl
  have hrepeats : RepeatsLineEnd spreadText fault :=
    ⟨_, string, rfl, by decide, .inl rfl, by decide, .inr ⟨_, rfl⟩⟩
  obtain ⟨hanswer, hline⟩ := report_is_one_line_iff {} spreadText none hconvert rfl
  exact ⟨rfl, _, hanswer, fun h => hline.mp h hrepeats⟩

end Report

end VaultQuery
