import VaultQuery.Proofs.Expr.Fault
import VaultQuery.Proofs.Expr.Reading
import VaultQuery.Proofs.Query.Complaint
import VaultQuery.Proofs.Token.Layout

/-!
Texts of one line.  Numbers, durations and quoted texts are written without line ends, whatever they
stand for; the names of an expression are as its identifiers are spelt, and no token but a string or
a link has a line end in it.  So what is written for an expression that was read is one line
(`Expr.oneLine_plain`).
-/

namespace VaultQuery

namespace Text

/-- A character that ends no line. -/
def isInline (c : Char) : Bool :=
  c != '\n' && c != '\r'

/-- A text without line ends. -/
def OneLine (s : String) : Prop :=
  ∀ c ∈ s.toList, isInline c = true

instance (s : String) : Decidable (OneLine s) :=
  decidable_of_iff (s.toList.all isInline = true) List.all_eq_true

@[simp] theorem oneLine_append {s t : String} : OneLine (s ++ t) ↔ OneLine s ∧ OneLine t := by
  rw [OneLine, String.toList_append, List.forall_mem_append]
  rfl

theorem oneLine_append_left {s t : String} (h : OneLine s) : OneLine (s ++ t) ↔ OneLine t :=
  oneLine_append.trans (and_iff_right h)

theorem oneLine_append_right {s t : String} (h : OneLine t) : OneLine (s ++ t) ↔ OneLine s :=
  oneLine_append.trans (and_iff_left h)

@[simp] theorem oneLine_ofList {cs : List Char} :
    OneLine (String.ofList cs) ↔ ∀ c ∈ cs, isInline c = true := by
  rw [OneLine, String.toList_ofList]

/-- A literal is one line by the characters it lists. -/
theorem oneLine_of_all {cs : List Char} (h : cs.all isInline = true) :
    OneLine (String.ofList cs) :=
  oneLine_ofList.mpr (List.all_eq_true.mp h)

theorem oneLine_intercalate {separator : String} (hseparator : OneLine separator)
    {texts : List String} :
    OneLine (String.intercalate separator texts) ↔ ∀ t ∈ texts, OneLine t := by
  induction texts with
  | nil => exact ⟨nofun, nofun⟩
  | cons t texts ih =>
      cases texts with
      | nil => simp
      | cons u texts =>
          rw [String.intercalate_cons_cons, oneLine_append, oneLine_append, ih,
            List.forall_mem_cons (l := u :: texts)]
          exact ⟨fun h => ⟨h.1.1, h.2⟩, fun h => ⟨⟨h.1, hseparator⟩, h.2⟩⟩

theorem isInline_of_isBlank {c : Char} (h : isBlank c = false) : isInline c = true := by
  have hne : ∀ d, isBlank d = true → c ≠ d := by
    rintro d hd rfl
    rw [h] at hd
    cases hd
  simp [isInline, hne '\n' (by decide), hne '\r' (by decide)]

theorem isInline_of_isWord {c : Char} (h : isWord c = true) : isInline c = true :=
  isInline_of_isBlank (isBlank_eq_false_of_isWord h)

/-- A blank at the end of a text is trimmed. -/
theorem trim_concat {b : Char} (hb : isBlank b = true) (cs : List Char) :
    trim (cs ++ [b]) = trim cs := by
  have hdrop : ∀ ds : List Char, dropEndWhile isBlank (ds ++ [b]) = dropEndWhile isBlank ds := by
    intro ds
    rw [dropEndWhile, List.reverse_append, List.reverse_singleton, List.singleton_append,
      List.dropWhile_cons_of_pos hb]
    rfl
  rw [trim, List.dropWhile_append]
  split
  case isTrue hempty =>
      rw [List.dropWhile_cons_of_pos hb, trim, List.isEmpty_iff.mp hempty, List.dropWhile_nil]
  case isFalse => exact hdrop _

theorem mem_of_mem_trim {cs : List Char} {c : Char} (h : c ∈ trim cs) : c ∈ cs := by
  rw [trim, dropEndWhile, List.mem_reverse] at h
  have hmem := List.mem_reverse.mp ((List.dropWhile_sublist _).subset h)
  exact (List.dropWhile_sublist _).subset hmem

/-! ## Escapes -/

theorem isInline_of_mem_hex {width n : Nat} {c : Char} (h : c ∈ hex width n) :
    isInline c = true := by
  have hdigit : ∀ k < 16, isInline (Nat.digitChar k) = true := by decide
  induction width generalizing n with
  | zero => cases h
  | succ width ih =>
      rcases List.mem_append.mp h with h | h
      · exact ih h
      · rw [List.mem_singleton.mp h]
        exact hdigit _ (Nat.mod_lt _ (by decide))

theorem isInline_of_mem_shownChar {mark c d : Char} (hmark : isInline mark = true)
    (h : d ∈ shownChar mark c) : isInline d = true := by
  have hhex : ∀ (letter : Char) (width : Nat), isInline letter = true →
      d ∈ '\x5c' :: letter :: hex width c.toNat → isInline d = true := by
    intro letter width hletter hd
    have hall : ∀ e ∈ '\x5c' :: letter :: hex width c.toNat, isInline e = true := by
      rw [List.forall_mem_cons, List.forall_mem_cons]
      exact ⟨by decide, hletter, fun e he => isInline_of_mem_hex he⟩
    exact hall d hd
  unfold shownChar at h
  split at h
  case isTrue hmeta =>
      have hc : isInline c = true := by
        rcases Bool.or_eq_true_iff.mp hmeta with hc | hc
        · rw [beq_iff_eq.mp hc]
          decide
        · rwa [beq_iff_eq.mp hc]
      have hall : ∀ e ∈ ['\x5c', c], isInline e = true :=
        List.forall_mem_cons.mpr ⟨by decide, List.forall_mem_singleton.mpr hc⟩
      exact hall d h
  case isFalse =>
  split at h
  case isTrue => exact List.all_eq_true.mp (by decide) d h
  case isFalse hnewline =>
  split at h
  case isTrue => exact List.all_eq_true.mp (by decide) d h
  case isFalse hreturn =>
  split at h
  case isTrue => exact List.all_eq_true.mp (by decide) d h
  case isFalse =>
  split at h
  case isTrue =>
      obtain rfl := List.mem_singleton.mp h
      simpa [isInline] using And.intro hnewline hreturn
  case isFalse =>
  split at h
  case isTrue => exact hhex 'x' 2 (by decide) h
  case isFalse =>
  split at h
  case isTrue => exact hhex 'u' 4 (by decide) h
  case isFalse => exact hhex 'U' 8 (by decide) h

theorem oneLine_shown (s : String) : OneLine (shown s) := by
  have hmark : isInline (quoteMark s.toList) = true := by
    unfold quoteMark
    split <;> decide
  unfold shown
  simp only [oneLine_ofList, List.forall_mem_append, List.forall_mem_cons, hmark, true_and,
    List.not_mem_nil, false_implies, implies_true, and_true]
  intro c hc
  obtain ⟨d, -, hd⟩ := List.mem_flatMap.mp hc
  exact isInline_of_mem_shownChar hmark hd

end Text

open Text

/-! ## Numbers -/

theorem isInline_of_mem_toDigits {n : Nat} {c : Char} (h : c ∈ Nat.toDigits 10 n) :
    isInline c = true := by
  have hdigit := Nat.isDigit_of_mem_toDigits (by decide) (by decide) h
  have hne : ∀ d : Char, d.isDigit = false → c ≠ d := by
    rintro d hd rfl
    rw [hdigit] at hd
    cases hd
  simp [isInline, hne '\n' (by decide), hne '\r' (by decide)]

theorem oneLine_toString (n : Nat) : OneLine (toString n) := by
  intro c hc
  have hc : c ∈ n.repr.toList := hc
  rw [Nat.toList_repr] at hc
  exact isInline_of_mem_toDigits hc

theorem oneLine_intText (n : Int) : OneLine (intText n) := by
  have hdigits : OneLine (String.ofList (Nat.toDigits 10 n.natAbs)) :=
    oneLine_ofList.mpr fun c => isInline_of_mem_toDigits
  have hminus : OneLine "-" := oneLine_of_all rfl
  unfold intText
  dsimp only
  split
  case isTrue => exact oneLine_append.mpr ⟨hminus, hdigits⟩
  case isFalse => exact hdigits

namespace Binary64

theorem isInline_of_mem_padded {width n : Nat} {c : Char} (h : c ∈ padded width n) :
    isInline c = true := by
  rcases List.mem_append.mp h with h | h
  · rw [List.eq_of_mem_replicate h]
    decide
  · exact isInline_of_mem_toDigits h

theorem isInline_of_mem_decimalText {layout : Layout} {digits : Nat} {scale : Int} :
    ∀ c ∈ decimalText layout digits scale, isInline c = true := by
  have hzeros : ∀ n, ∀ c ∈ List.replicate n '0', isInline c = true := by
    intro n c hc
    rw [List.eq_of_mem_replicate hc]
    decide
  have hmark : isInline '0' = true ∧ isInline '.' = true ∧ isInline 'e' = true ∧
      isInline '-' = true ∧ isInline '+' = true := by decide
  unfold decimalText
  dsimp only
  have hall : ∀ c ∈ ((Nat.toDigits 10 digits).reverse.dropWhile (· == '0')).reverse,
      isInline c = true := by
    intro c hc
    have hmem := (List.dropWhile_sublist _).subset (List.mem_reverse.mp hc)
    exact isInline_of_mem_toDigits (List.mem_reverse.mp hmem)
  generalize ((Nat.toDigits 10 digits).reverse.dropWhile (· == '0')).reverse = ds at hall ⊢
  have htake : ∀ n, ∀ c ∈ ds.take n, isInline c = true := fun n c hc =>
    hall c (List.mem_of_mem_take hc)
  have hdrop : ∀ n, ∀ c ∈ ds.drop n, isInline c = true := fun n c hc =>
    hall c (List.mem_of_mem_drop hc)
  split
  case isTrue =>
      simp only [List.forall_mem_append, List.forall_mem_cons]
      refine ⟨⟨htake 1, ?_⟩, hmark.2.2.1, ?_, fun c => isInline_of_mem_padded⟩
      · split
        case isTrue => exact nofun
        case isFalse => exact List.forall_mem_cons.mpr ⟨hmark.2.1, hdrop 1⟩
      · split
        case isTrue => exact hmark.2.2.2.1
        case isFalse => exact hmark.2.2.2.2
  case isFalse =>
  split
  case isTrue =>
      simp only [List.forall_mem_append, List.forall_mem_cons]
      exact ⟨⟨hmark.1, hmark.2.1, hzeros _⟩, hall⟩
  case isFalse =>
  split
  case isTrue =>
      simp only [List.forall_mem_append, List.forall_mem_cons]
      exact ⟨⟨hall, hzeros _⟩, hmark.2.1, hmark.1, nofun⟩
  case isFalse =>
      simp only [List.forall_mem_append, List.forall_mem_cons]
      exact ⟨htake _, hmark.2.1, hdrop _⟩

theorem oneLine_text (x : Binary64) : OneLine x.text := by
  have hsign : OneLine (if x.isNegative then "-" else "") := by split <;> decide
  unfold text
  dsimp only
  split
  case isTrue => decide
  case isFalse =>
  split
  case isTrue => exact oneLine_append.mpr ⟨hsign, by decide⟩
  case isFalse =>
  split
  case isTrue => exact oneLine_append.mpr ⟨hsign, by decide⟩
  case isFalse =>
      exact oneLine_append.mpr ⟨hsign, oneLine_ofList.mpr isInline_of_mem_decimalText⟩

end Binary64

theorem Number.oneLine_text (n : Number) : OneLine n.text := by
  cases n with
  | int k => exact oneLine_intText k
  | real x => exact x.oneLine_text

theorem Duration.oneLine_text {d : Duration} (h : d.unit ∈ TimeUnit.standard) :
    OneLine d.text := by
  have hnames : ∀ u ∈ TimeUnit.standard, OneLine u.name := by decide
  have hunit : d.normal.unit ∈ TimeUnit.standard := by
    unfold normal
    split
    case isTrue =>
        have hday : TimeUnit.day ∈ TimeUnit.standard := by decide
        exact hday
    case isFalse => exact h
  have hspace : OneLine " " := oneLine_of_all rfl
  have hwords : OneLine (d.normal.amount.text ++ " " ++ d.normal.unit.name) := by
    simp only [oneLine_append]
    exact ⟨⟨Number.oneLine_text _, hspace⟩, hnames _ hunit⟩
  unfold text
  dsimp only
  split
  case isTrue => exact hwords
  case isFalse => exact oneLine_append.mpr ⟨hwords, by decide⟩

theorem Duration.oneLine_of_write {d : Duration} (h : d.unit ∈ TimeUnit.standard) {text : String}
    (hwrite : d.write = .ok text) : OneLine text := by
  unfold write at hwrite
  split at hwrite
  case isTrue => cases hwrite
  case isFalse => exact Except.ok.inj hwrite ▸ oneLine_text h

/-! ## Vocabulary -/

namespace Vocabulary

theorem oneLine_quote (s : String) : OneLine (quote s) := by
  have hchar : ∀ c, ∀ d ∈ quotedChar c, isInline d = true := by
    intro c
    unfold quotedChar
    split
    case isTrue => exact List.all_eq_true.mp (by decide)
    case isFalse =>
    split
    case isTrue => exact List.all_eq_true.mp (by decide)
    case isFalse =>
    split
    case isTrue => exact List.all_eq_true.mp (by decide)
    case isFalse hnewline =>
    split
    case isTrue => exact List.all_eq_true.mp (by decide)
    case isFalse hreturn =>
    split
    case isTrue => exact List.all_eq_true.mp (by decide)
    case isFalse =>
        refine List.forall_mem_singleton.mpr ?_
        simpa [isInline] using And.intro hnewline hreturn
  have hmark : isInline '\x22' = true := by decide
  unfold quote
  simp only [oneLine_ofList, List.forall_mem_append, List.forall_mem_cons, hmark, true_and,
    List.not_mem_nil, false_implies, implies_true, and_true]
  intro c hc
  obtain ⟨d, -, hd⟩ := List.mem_flatMap.mp hc
  exact hchar d c hd

theorem oneLine_property {name : String} (h : ∀ c ∈ trim name.toList, isInline c = true) :
    OneLine (property name) := by
  have htable : ∀ x ∈ properties, OneLine x.2 := by decide
  unfold property
  dsimp only
  split
  case h_1 mapped hlookup => exact htable _ (mem_of_lookup hlookup)
  case h_2 =>
      rw [oneLine_ofList, List.forall_mem_map]
      intro c hc
      split
      case isTrue => decide
      case isFalse => exact h c hc

theorem oneLine_function {name : String} (h : OneLine name) : OneLine (function name) := by
  have htable : ∀ x ∈ functions, OneLine x.2 := by decide
  unfold function
  cases hlookup : functions.lookup (Text.lowerCase name) with
  | none => exact h
  | some mapped => exact htable _ (mem_of_lookup hlookup)

end Vocabulary

/-! ## Conditions -/

namespace Condition

/-- A group is written in one line if its members are. -/
theorem oneLine_group {k : Connective} {members : List Condition} :
    OneLine (inline (.group k members)) ↔ ∀ m ∈ members, OneLine (inline m) := by
  have hjunction : ∀ {left separator : String} {members : List Condition}, OneLine left →
      OneLine separator →
      (OneLine (left ++ String.intercalate separator (inlineAll members) ++ ")") ↔
        ∀ m ∈ members, OneLine (inline m)) := by
    intro left separator members hleft hseparator
    have hclose : OneLine ")" := oneLine_of_all rfl
    simp [hleft, hclose, oneLine_intercalate hseparator, inlineAll_eq_map]
  have hbang : OneLine "!" := oneLine_of_all rfl
  have hnot : OneLine "!(" := oneLine_of_all rfl
  have hclose : OneLine ")" := oneLine_of_all rfl
  have hand : OneLine " && " := oneLine_of_all rfl
  match k, members with
  | .and, _ => exact hjunction (by decide) hand
  | .or, _ => exact hjunction (by decide) (by decide)
  | .not, [] => exact hjunction hnot hand
  | .not, [.leaf text] => simp [inline, hnot, hclose]
  | .not, [.group c members] =>
      rw [inline, oneLine_append, List.forall_mem_singleton]
      exact and_iff_right hbang
  | .not, f :: g :: fs =>
      rw [inline]
      · exact hjunction hnot hand
      · exact nofun
      · exact nofun

theorem oneLine_join {k : Connective} {f g : Condition} (hf : OneLine f.inline)
    (hg : OneLine g.inline) : OneLine (inline (f.join k g)) := by
  have hspread : ∀ {f : Condition}, OneLine f.inline → ∀ m ∈ f.spread k, OneLine (inline m) := by
    intro f hf
    cases f with
    | leaf text => exact List.forall_mem_singleton.mpr hf
    | group k' members =>
        rw [Filter.spread]
        split
        case isTrue => exact oneLine_group.mp hf
        case isFalse => exact List.forall_mem_singleton.mpr hf
  exact oneLine_group.mpr (List.forall_mem_append.mpr ⟨hspread hf, hspread hg⟩)

end Condition

/-! ## Expressions -/

namespace Expr

theorem oneLine_operand (child : Expr) {value : Condition} (h : OneLine value.inline) (p : Nat)
    (onRight : Bool) : OneLine (operand child value p onRight) := by
  have hopen : OneLine "(" := oneLine_of_all rfl
  have hclose : OneLine ")" := oneLine_of_all rfl
  unfold operand
  split
  case h_1 text _ _ _ =>
      have htext : OneLine text := h
      split
      case isTrue => simp [hopen, hclose, htext]
      case isFalse => exact htext
  case h_2 => exact h

theorem oneLine_member {e : Expr} {value : Condition} (h : OneLine value.inline) :
    OneLine (member e value).inline := by
  have hopen : OneLine "(" := oneLine_of_all rfl
  have hclose : OneLine ")" := oneLine_of_all rfl
  unfold member
  split
  case h_1 text =>
      have htext : OneLine text := h
      split
      case isTrue => simp [hopen, hclose, htext, Condition.inline]
      case isFalse => exact h
  case h_2 => exact h

theorem isInline_of_isWordStart {c : Char} {cs : List Char}
    (h : (isWordStart c && cs.all fun d => isWord d || d == '-') = true) :
    ∀ d ∈ c :: cs, isInline d = true := by
  obtain ⟨hc, hcs⟩ := Bool.and_eq_true_iff.mp h
  refine List.forall_mem_cons.mpr ⟨isInline_of_isWord (isWord_of_isWordStart hc), fun d hd => ?_⟩
  rcases Bool.or_eq_true_iff.mp (List.all_eq_true.mp hcs d hd) with hword | hdash
  · exact isInline_of_isWord hword
  · rw [beq_iff_eq.mp hdash]
    decide

/-- What may follow a point is a word, but that one line end may follow it. -/
theorem eq_of_isPlainKey {name : String} (h : isPlainKey name = true) :
    ∃ key : List Char, (name.toList = key ∨ name.toList = key ++ ['\n']) ∧
      ∀ c ∈ key, isInline c = true := by
  unfold isPlainKey at h
  dsimp only at h
  rcases Bool.or_eq_true_iff.mp h with h | h
  · refine ⟨name.toList, .inl rfl, ?_⟩
    split at h
    case h_1 => cases h
    case h_2 heq =>
        rw [heq]
        exact isInline_of_isWordStart h
  · obtain ⟨hlast, h⟩ := Bool.and_eq_true_iff.mp h
    refine ⟨name.toList.dropLast, .inr ?_, ?_⟩
    · have hmem : '\n' ∈ name.toList.getLast? := beq_iff_eq.mp hlast
      exact (List.dropLast_append_getLast? _ hmem).symm
    · split at h
      case h_1 => cases h
      case h_2 heq =>
          rw [heq]
          exact isInline_of_isWordStart h

theorem oneLine_partText {value bare : String} (hvalue : OneLine value) (hbare : OneLine bare)
    (name : String) : OneLine (partText value bare name) := by
  have hparts : ∀ part ∈ Vocabulary.dateParts, OneLine part := by decide
  have hmarks : OneLine "(" ∧ OneLine ")" ∧ OneLine "[" ∧ OneLine "]" := by decide
  have hpoint : OneLine "." := oneLine_of_all rfl
  unfold partText
  dsimp only
  split
  case isTrue hpart =>
      have hlower := hparts _ (List.contains_iff_mem.mp hpart)
      simp [hmarks, hbare, hlower]
  case isFalse =>
  split
  case isTrue hplain =>
      obtain ⟨key, hname, hkey⟩ := eq_of_isPlainKey hplain
      have hfront : ∀ c ∈ (value ++ ".").toList ++ key, isInline c = true :=
        List.forall_mem_append.mpr ⟨oneLine_append.mpr ⟨hvalue, hpoint⟩, hkey⟩
      refine Vocabulary.oneLine_property fun c hc => hfront c ?_
      rw [String.toList_append] at hc
      rcases hname with hname | hname <;> rw [hname] at hc
      · exact mem_of_mem_trim hc
      · rw [← List.append_assoc, trim_concat (by decide)] at hc
        exact mem_of_mem_trim hc
  case isFalse => simp [hmarks, hvalue, Vocabulary.oneLine_quote]

theorem oneLine_callText {name : String} (hname : OneLine name) {args : List String}
    (hargs : ∀ t ∈ args, OneLine t) : OneLine (callText name args) := by
  have hmarks : OneLine "(" ∧ OneLine ")" := by decide
  have hcomma : OneLine ", " := oneLine_of_all rfl
  unfold callText
  dsimp only
  simp only [oneLine_append, oneLine_intercalate hcomma]
  refine ⟨⟨⟨?_, hmarks.1⟩, hargs⟩, hmarks.2⟩
  split
  case isTrue => decide
  case isFalse =>
  split
  case isTrue => decide
  case isFalse => exact Vocabulary.oneLine_function hname

theorem oneLine_specialCall? {name : String} {args : List Expr} {text : String}
    (h : specialCall? name args = .ok (some text)) : OneLine text := by
  have htable : ∀ x ∈ Vocabulary.relativeDates, OneLine x.2 := by decide
  have hquoted : ∀ left s : String, OneLine left →
      OneLine (left ++ Vocabulary.quote s ++ ")") := by
    intro left s hleft
    have hclose : OneLine ")" := oneLine_of_all rfl
    simp [hleft, hclose, Vocabulary.oneLine_quote]
  unfold specialCall? at h
  dsimp only at h
  split at h
  case isTrue =>
      split at h
      case h_1 => exact htable _ (Vocabulary.mem_of_lookup (Except.ok.inj h))
      case h_2 => exact htable _ (Vocabulary.mem_of_lookup (Except.ok.inj h))
      case h_3 =>
          obtain rfl := Option.some.inj (Except.ok.inj h)
          exact hquoted "date(" _ (by decide)
      case h_4 => cases h
  case isFalse =>
  split at h
  case isTrue =>
      obtain ⟨r, -, h⟩ := bind_eq_ok.mp h
      cases r with
      | none => cases h
      | some d =>
          obtain ⟨written, -, h⟩ := bind_eq_ok.mp h
          obtain rfl := Option.some.inj (Except.ok.inj h)
          exact Vocabulary.oneLine_quote written
  case isFalse =>
  split at h
  case isFalse => cases h
  case isTrue =>
  split at h
  case h_2 => cases h
  case h_1 =>
  split at h
  case isTrue =>
      obtain rfl := Option.some.inj (Except.ok.inj h)
      exact hquoted "file.hasTag(" _ (by decide)
  case isFalse => cases h

theorem oneLine_literalText {value : Literal} {text : String}
    (h : literalText value = .ok text) : OneLine text := by
  cases value with
  | null =>
      cases h
      decide
  | bool b =>
      cases h
      cases b <;> decide
  | number k =>
      rw [literalText] at h
      split at h
      case isTrue => cases h
      case isFalse => exact Except.ok.inj h ▸ k.oneLine_text
  | text s =>
      cases h
      exact Vocabulary.oneLine_quote s
  | moment m =>
      cases h
      have hleft : OneLine "date(" := oneLine_of_all rfl
      have hclose : OneLine ")" := oneLine_of_all rfl
      simp [hleft, hclose, Vocabulary.oneLine_quote]
  | duration d =>
      obtain ⟨written, -, rfl⟩ := map_eq_ok.mp h
      exact Vocabulary.oneLine_quote written

section Plain

variable {T : Token → Prop}

/-- The unit of a duration in an expression of the query language is one of that language. -/
theorem NamedBy.unit_of_duration? {e : Expr} (he : e.NamedBy T) {d : Duration}
    (h : e.duration? = .ok (some d)) : d.unit ∈ TimeUnit.standard := by
  unfold duration? at h
  split at h
  case h_1 =>
      cases h
      exact he
  case h_2 =>
      split at h
      case isTrue =>
          cases h
          exact he.2.1
      case isFalse => cases h
  case h_3 =>
      split at h
      case isFalse => cases h
      case isTrue =>
      split at h
      case h_2 => cases h
      case h_1 numeral unit hspelled =>
          obtain ⟨n, -, hd⟩ := map_eq_ok.mp h
          obtain rfl := Option.some.inj hd
          obtain ⟨⟨numeral', word⟩, -, hspelled⟩ := Option.bind_eq_some_iff.mp hspelled
          obtain ⟨unit', hunit, hspelled⟩ := Option.bind_eq_some_iff.mp hspelled
          cases hspelled
          exact TimeUnit.mem_standard_of_ofSpelling? hunit
  case h_4 => cases h

theorem Identifies.oneLine (hT : ∀ t, T t → t.kind = .identifier → OneLine t.text) {name : String}
    (h : Identifies T name) : OneLine name := by
  obtain ⟨t, ht, hk, rfl⟩ := h
  exact hT t ht hk

/-- An operation is written in one line if its operands are. -/
theorem oneLine_binary {op : BinOp} {left right : Expr} (hop : op ∈ BinOp.standard)
    (hnamed : right.NamedBy T)
    (hleft : ∀ {c : Condition}, plain left = .ok c → OneLine c.inline)
    (hright : ∀ {c : Condition}, plain right = .ok c → OneLine c.inline) {c : Condition}
    (h : plain (.binary op left right) = .ok c) : OneLine c.inline := by
  have hsymbols : ∀ op ∈ BinOp.standard, OneLine op.baseSymbol := by decide
  have hspace : OneLine " " := oneLine_of_all rfl
  rw [plain] at h
  obtain ⟨value, hvalue, h⟩ := bind_eq_ok.mp h
  have htext := oneLine_operand left (hleft hvalue) op.precedence false
  have hpair : ∀ rightValue, plain right = .ok rightValue →
      OneLine (operand left value op.precedence false ++ " " ++ op.baseSymbol ++ " " ++
        operand right rightValue op.precedence true) := by
    intro rightValue hvalue'
    have hrightText := oneLine_operand right (hright hvalue') op.precedence true
    simp [htext, hspace, hsymbols op hop, hrightText]
  dsimp only at h
  split at h
  case isTrue =>
      obtain ⟨rightValue, hvalue', h⟩ := bind_eq_ok.mp h
      split at h
      case isTrue =>
          cases h
          exact Condition.oneLine_join (oneLine_member (hleft hvalue))
            (oneLine_member (hright hvalue'))
      case isFalse =>
          cases h
          exact hpair rightValue hvalue'
  case isFalse =>
      obtain ⟨shift, hshift, h⟩ := bind_eq_ok.mp h
      cases shift with
      | some amount =>
          obtain ⟨moved, hmoved, h⟩ := bind_eq_ok.mp h
          cases h
          have hunit := hnamed.unit_of_duration? (duration?_of_shift? hshift)
          have hsigned : (if op = .sub then amount.neg else amount).unit ∈
              TimeUnit.standard := by
            split <;> exact hunit
          have hwritten := Duration.oneLine_of_write hsigned (mapError_eq_ok.mp hmoved)
          have hplus : OneLine " + \"" := oneLine_of_all rfl
          have hquote : OneLine "\"" := oneLine_of_all rfl
          simp [Condition.inline, htext, hplus, hquote, hwritten]
      | none =>
          obtain ⟨rightValue, hvalue', h⟩ := bind_eq_ok.mp h
          cases h
          exact hpair rightValue hvalue'

mutual

/-- What is written for an expression of the query language is one line. -/
theorem oneLine_plain (hT : ∀ t, T t → t.kind = .identifier → OneLine t.text) (e : Expr)
    (he : e.NamedBy T) {c : Condition} (h : plain e = .ok c) : OneLine c.inline := by
  have hbrackets : OneLine "[" ∧ OneLine "]" := by decide
  match e with
  | .var name =>
      rw [plain] at h
      obtain rfl := Except.ok.inj h
      rw [Condition.inline]
      exact Vocabulary.oneLine_property fun c hc => he.oneLine hT c (mem_of_mem_trim hc)
  | .literal value =>
      obtain ⟨text, htext, h⟩ := bind_eq_ok.mp h
      cases h
      exact oneLine_literalText htext
  | .index object key =>
      rw [plain] at h
      obtain ⟨raw, hraw, h⟩ := bind_eq_ok.mp h
      have hobject := oneLine_plain hT object he.1 hraw
      have hvalue := oneLine_operand object hobject partPrecedence false
      dsimp only at h
      split at h
      case h_1 =>
          cases h
          exact oneLine_partText hvalue hobject _
      case h_2 =>
          obtain ⟨inside, hinside, h⟩ := bind_eq_ok.mp h
          cases h
          have hkey := oneLine_plain hT key he.2 hinside
          simp [Condition.inline, hbrackets, hvalue, hkey]
  | .binary op left right =>
      exact oneLine_binary he.1 he.2.2 (oneLine_plain hT left he.2.1)
        (oneLine_plain hT right he.2.2) h
  | .call name args =>
      rw [plain] at h
      obtain ⟨special, hspecial, h⟩ := bind_eq_ok.mp h
      cases special with
      | some text =>
          cases h
          exact oneLine_specialCall? hspecial
      | none =>
          obtain ⟨texts, htexts, h⟩ := bind_eq_ok.mp h
          cases h
          have hname : OneLine name := by
            rcases he.1 with rfl | hname
            · decide
            · exact hname.oneLine hT
          exact oneLine_callText hname (oneLine_plainAll hT args he.2 htexts)
  | .negated child =>
      rw [plain] at h
      obtain ⟨value, hvalue, h⟩ := bind_eq_ok.mp h
      cases h
      have hchild := oneLine_plain hT child he hvalue
      exact Condition.oneLine_group.mpr (List.forall_mem_singleton.mpr hchild)
  | .list items =>
      rw [plain] at h
      obtain ⟨texts, htexts, h⟩ := bind_eq_ok.mp h
      cases h
      have hcomma : OneLine ", " := oneLine_of_all rfl
      have hitems := oneLine_plainAll hT items he htexts
      simpa [Condition.inline, hbrackets, oneLine_intercalate hcomma] using hitems
  | .foreign node => cases h

theorem oneLine_plainAll (hT : ∀ t, T t → t.kind = .identifier → OneLine t.text) (es : List Expr)
    (he : AllNamedBy T es) {texts : List String} (h : plainAll es = .ok texts) :
    ∀ t ∈ texts, OneLine t := by
  match es with
  | [] =>
      cases h
      exact nofun
  | e :: es =>
      rw [plainAll] at h
      obtain ⟨value, hvalue, h⟩ := bind_eq_ok.mp h
      obtain ⟨rest, hrest, h⟩ := bind_eq_ok.mp h
      cases h
      exact List.forall_mem_cons.mpr
        ⟨oneLine_plain hT e he.1 hvalue, oneLine_plainAll hT es he.2 hrest⟩

end

end Plain

end Expr

end VaultQuery
