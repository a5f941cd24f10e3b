import VaultQuery.Proofs.Query.Agree
import VaultQuery.Proofs.Query.Brackets

/-!
What the readers of a query complain about, and whose names they read.  A reader complains about one
of the tokens it is given or about the end of its clause, and what it says of the token is what that
token can be blamed for (`Raised`); what it reads is named by the identifiers among its tokens
(`NamedBy`).  Both are proved of every reader together, since a reader that goes on after another
one has its tokens from it (`Answers`), and so of every query (`Query.ends_ofTokens`).
-/

namespace VaultQuery

/-! ## Complaints -/

/-- A complaint that repeats nothing of the text. -/
def Complaint.isWordless : Complaint → Bool
  | .nestingExceeded _ | .aliasExpected | .propertyExpected | .indexNotClosed | .parenNotClosed
  | .listNotClosed | .argumentsNotClosed | .expressionEnds | .sourceNotClosed | .sourceEnds
  | .duplicateFrom => true
  | _ => false

/-- A token whose text may be anything: it stands between quotes or brackets. -/
def Token.IsEnclosed (t : Token) : Prop :=
  t.kind = .string ∨ t.kind = .link

/-- The name of a clause in a complaint: a header, `FROM`, or the word that opens the clause. -/
def IsClauseName (T : Token → Prop) (name : String) : Prop :=
  name ∈ ["TASK", "CALENDAR", "LIST", "TABLE", "FROM"] ∨
    ∃ keyword, T keyword ∧ ¬ keyword.IsEnclosed ∧ name = keyword.text

/-- What a complaint about a token says of it.  Only what is left over, or stands in place of a
header, may be enclosed. -/
inductive Concerns (T : Token → Prop) (t : Token) : Complaint → Prop
  | wordless {complaint : Complaint} : complaint.isWordless = true → Concerns T t complaint
  | leftover {clause : String} : IsClauseName T clause → Concerns T t (.leftover t.text clause)
  | queryType : Concerns T t (.queryTypeExpected t.text)
  | unexpected : ¬ t.IsEnclosed → Concerns T t (.unexpectedToken t.text)
  | noSource : ¬ t.IsEnclosed → Concerns T t (.sourceExpected t.text)
  | unmatched : ¬ t.IsEnclosed → Concerns T t (.unmatched t.text)
  | noValue : ¬ t.IsEnclosed → Concerns T t (.valueExpected t.text)
  | moment {fault : MomentFault} : t.kind = .date → Moment.read t.text = .error fault →
      Concerns T t (.moment fault)

/-- The faults of readers of a text: complaints about tokens, nesting that the limit allows and that
is not followed, and numerals. -/
inductive Raised (T : Token → Prop) (text : String) (limit : Int) : Fault → Prop
  | about {t : Token} {complaint : Complaint} : T t → Concerns T t complaint →
      Raised T text limit (Clause.complaintAt text t complaint)
  | tooNested (fragment : String) : Clause.followedDepth < limit →
      Raised T text limit (.malformed ⟨.nestedTooDeeply, none, none, fragment⟩)
  | numeral (k : NumeralFault) : Raised T text limit (.numeral k)

/-! ## Readers -/

section Ends

variable {α β : Type} {P : Fault → Prop} {Q : α → Prop} {R : β → Prop}

/-- A result that has a property, or a fault that has one. -/
inductive Ends (P : Fault → Prop) (Q : α → Prop) : Except Fault α → Prop
  | ok {a : α} : Q a → Ends P Q (.ok a)
  | error {f : Fault} : P f → Ends P Q (.error f)

theorem Ends.bind {x : Except Fault α} {f : α → Except Fault β} (h : Ends P Q x)
    (hf : ∀ a, Q a → Ends P R (f a)) : Ends P R (x >>= f) := by
  cases h with
  | ok ha => exact hf _ ha
  | error hfault => exact .error hfault

theorem Ends.of_ok {x : Except Fault α} {a : α} (h : Ends P Q x) (hx : x = .ok a) : Q a := by
  cases h with
  | ok ha => exact Except.ok.inj hx ▸ ha
  | error => cases hx

theorem Ends.of_error {x : Except Fault α} {f : Fault} (h : Ends P Q x) (hx : x = .error f) :
    P f := by
  cases h with
  | ok => cases hx
  | error hfault => exact Except.error.inj hx ▸ hfault

end Ends

/-- On tokens that have a property, a reader reads something of its own kind and leaves such tokens,
or it fails as readers of that text do. -/
def Answers {α : Type} (T : Token → Prop) (text : String) (limit : Int) (Q : α → Prop)
    (r : Reader α) : Prop :=
  ∀ ts, (∀ t ∈ ts, T t) → Ends (Raised T text limit) (fun x => Q x.1 ∧ ∀ t ∈ x.2, T t) (r ts)

section Complain

variable {T : Token → Prop} {c : Clause} {ts : List Token}

theorem Clause.next_of_forall (hstop : T c.stop) (hts : ∀ t ∈ ts, T t) : T (c.next ts) := by
  cases ts with
  | nil => exact hstop
  | cons t ts => exact hts t List.mem_cons_self

theorem raised_complain (hstop : T c.stop) (hts : ∀ t ∈ ts, T t) {complaint : Complaint}
    (h : Concerns T (c.next ts) complaint) : Raised T c.text c.limit (c.complain ts complaint) :=
  .about (Clause.next_of_forall hstop hts) h

theorem raised_tooNested (hstop : T c.stop) (hts : ∀ t ∈ ts, T t) :
    Raised T c.text c.limit (c.tooNested ts) := by
  unfold Clause.tooNested
  split
  case isTrue => exact raised_complain hstop hts (.wordless rfl)
  case isFalse hfollowed => exact .tooNested _ (Int.not_le.mp hfollowed)

theorem ends_finish (hstop : T c.stop) (hts : ∀ t ∈ ts, T t) {name : String}
    (hname : IsClauseName T name) :
    Ends (Raised T c.text c.limit) (fun _ => True) (c.finish name ts) := by
  cases ts with
  | nil => exact .ok trivial
  | cons t ts => exact .error (raised_complain hstop hts (.leftover hname))

end Complain

namespace Reader

variable {α β γ : Type} {T : Token → Prop} {text : String} {limit : Int} {Q : α → Prop}
  {R : β → Prop}

theorem answers_expect {c : Clause} (hstop : T c.stop) (kind : Token.Kind) {complaint : Complaint}
    (h : complaint.isWordless = true) :
    Answers T c.text c.limit (fun t => T t ∧ t.kind = kind) (expect c kind complaint) := by
  intro ts hts
  cases ts with
  | nil => exact .error (raised_complain hstop hts (.wordless h))
  | cons t ts =>
      obtain ⟨ht, hrest⟩ := List.forall_mem_cons.mp hts
      rw [expect]
      split
      case isTrue hkind => exact .ok ⟨⟨ht, hkind⟩, hrest⟩
      case isFalse => exact .error (raised_complain hstop hts (.wordless h))

theorem answers_moreItems {item : Reader α} (h : Answers T text limit Q item) (fuel : Nat) :
    Answers T text limit (fun xs => ∀ x ∈ xs, Q x) (moreItems item fuel) := by
  induction fuel with
  | zero => exact fun ts hts => .ok ⟨List.forall_mem_nil _, hts⟩
  | succ fuel ih =>
      intro ts hts
      cases ts with
      | nil => exact .ok ⟨List.forall_mem_nil _, hts⟩
      | cons t ts =>
          rw [moreItems]
          split
          case isFalse => exact .ok ⟨List.forall_mem_nil _, hts⟩
          case isTrue =>
              refine (h ts (List.forall_mem_cons.mp hts).2).bind fun x hx => ?_
              refine (ih x.2 hx.2).bind fun xs hxs => ?_
              exact .ok ⟨List.forall_mem_cons.mpr ⟨hx.1, hxs.1⟩, hxs.2⟩

theorem answers_items {item : Reader α} (h : Answers T text limit Q item) :
    Answers T text limit (fun xs => ∀ x ∈ xs, Q x) (items item) := by
  intro ts hts
  refine (h ts hts).bind fun x hx => ?_
  refine (answers_moreItems h x.2.length x.2 hx.2).bind fun xs hxs => ?_
  exact .ok ⟨List.forall_mem_cons.mpr ⟨hx.1, hxs.1⟩, hxs.2⟩

/-- What is made of what is read. -/
theorem answers_made {r : Reader α} (h : Answers T text limit Q r) (make : α → β)
    (hmake : ∀ a, Q a → R (make a)) :
    Answers T text limit R (fun ts => r ts >>= fun x => pure (make x.1, x.2)) := by
  intro ts hts
  refine (h ts hts).bind fun x hx => ?_
  exact .ok ⟨hmake x.1 hx.1, hx.2⟩

/-- What is made of what stands before a closing bracket. -/
theorem answers_closed {c : Clause} (hstop : T c.stop) {r : Reader α}
    (h : Answers T c.text c.limit Q r) (make : α → β) (hmake : ∀ a, Q a → R (make a))
    (kind : Token.Kind) (complaint : Complaint) (hcomplaint : complaint.isWordless = true) :
    Answers T c.text c.limit R (fun ts => r ts >>= fun x => expect c kind complaint x.2 >>= fun y =>
      pure (make x.1, y.2)) := by
  intro ts hts
  refine (h ts hts).bind fun x hx => ?_
  refine (answers_expect hstop kind hcomplaint x.2 hx.2).bind fun y hy => ?_
  exact .ok ⟨hmake x.1 hx.1, hy.2⟩

theorem answers_chain {operator? : Token.Kind → Option γ} {join : γ → α → α → α}
    {operand : Reader α}
    (hjoin : ∀ kind op a b, operator? kind = some op → Q a → Q b → Q (join op a b))
    (h : Answers T text limit Q operand) :
    Answers T text limit Q (chain operator? join operand) := by
  have hmore : ∀ fuel a, Q a →
      Answers T text limit Q (moreOperands operator? join operand fuel a) := by
    intro fuel
    induction fuel with
    | zero => exact fun a ha ts hts => .ok ⟨ha, hts⟩
    | succ fuel ih =>
        intro a ha ts hts
        cases ts with
        | nil => exact .ok ⟨ha, hts⟩
        | cons t ts =>
            rw [moreOperands]
            split
            case h_1 => exact .ok ⟨ha, hts⟩
            case h_2 op hop =>
                refine (h ts (List.forall_mem_cons.mp hts).2).bind fun b hb => ?_
                exact ih _ (hjoin _ op a b.1 hop ha hb.1) b.2 hb.2
  intro ts hts
  refine (h ts hts).bind fun a ha => ?_
  exact hmore _ a.1 ha.1 a.2 ha.2

end Reader

open Reader

/-! ## Names -/

theorem TimeUnit.mem_standard_of_ofSpelling? {word : String} {unit : TimeUnit}
    (h : ofSpelling? word = some unit) : unit ∈ standard := by
  unfold ofSpelling? at h
  exact List.mem_of_find?_eq_some h

namespace Expr

/-- A name that an identifier spells. -/
def Identifies (T : Token → Prop) (name : String) : Prop :=
  ∃ t, T t ∧ t.kind = .identifier ∧ name = t.text

mutual

/-- An expression of the query language whose names are spelt by identifiers; a link is a call by a
name of its own. -/
def NamedBy (T : Token → Prop) : Expr → Prop
  | .var name => Identifies T name
  | .literal (.duration d) => d.unit ∈ TimeUnit.standard
  | .literal _ => True
  | .index object key => NamedBy T object ∧ NamedBy T key
  | .binary op left right => op ∈ BinOp.standard ∧ NamedBy T left ∧ NamedBy T right
  | .call name args => (name = "link" ∨ Identifies T name) ∧ AllNamedBy T args
  | .negated child => NamedBy T child
  | .list items => AllNamedBy T items
  | .foreign _ => False

/-- Several expressions of this kind. -/
def AllNamedBy (T : Token → Prop) : List Expr → Prop
  | [] => True
  | e :: es => NamedBy T e ∧ AllNamedBy T es

end

section NamedBy

variable {T : Token → Prop} {c : Clause} {inner : Option Inner} {limit : Int}

theorem allNamedBy_iff {es : List Expr} : AllNamedBy T es ↔ ∀ e ∈ es, NamedBy T e := by
  induction es with
  | nil => simp [AllNamedBy]
  | cons e es ih => simp [AllNamedBy, ih]

theorem NamedBy.minus {e : Expr} (h : NamedBy T e) : NamedBy T e.minus := by
  have hmul : BinOp.mul ∈ BinOp.standard := by decide
  unfold Expr.minus
  split
  case h_1 => trivial
  case h_2 => exact h
  case h_3 => exact ⟨hmul, trivial, h⟩

theorem mem_standard_of_operator? {operator? : Token.Kind → Option BinOp}
    (h : ∀ kind ∈ Token.Kind.all, ∀ op ∈ operator? kind, op ∈ BinOp.standard) {kind : Token.Kind}
    {op : BinOp} (hop : operator? kind = some op) : op ∈ BinOp.standard :=
  h kind (by cases kind <;> decide) op hop

/-- The readers of expressions one level further in, if there is one. -/
def AnswersInner (T : Token → Prop) (text : String) (limit : Int) (inner : Option Inner) : Prop :=
  ∀ i ∈ inner, Answers T text limit (NamedBy T) i.expression ∧
    Answers T text limit (NamedBy T) i.unary

theorem answers_enter {α : Type} {Q : α → Prop} (hstop : T c.stop)
    (hinner : AnswersInner T c.text c.limit inner) {body : Inner → Reader α}
    (hbody : ∀ i, Answers T c.text c.limit (NamedBy T) i.expression →
      Answers T c.text c.limit (NamedBy T) i.unary → Answers T c.text c.limit Q (body i)) :
    Answers T c.text c.limit Q (enter c inner body) := by
  intro ts hts
  cases inner with
  | none => exact .error (raised_tooNested hstop hts)
  | some i => exact hbody i (hinner i rfl).1 (hinner i rfl).2 ts hts

theorem ends_numeral (text word : String) :
    Ends (Raised T text limit) (fun _ => True) ((Numeral.read word).mapError Fault.numeral) := by
  cases Numeral.read word with
  | ok n => exact .ok trivial
  | error k => exact .error (.numeral k)

theorem ends_amountAndUnit (text : String) (negative : Bool) {n u : Token} {ts : List Token}
    (hunit : (TimeUnit.ofSpelling? u.text).isSome = true) (hts : ∀ t ∈ ts, T t) :
    Ends (Raised T text limit) (fun x => x.1.unit ∈ TimeUnit.standard ∧ ∀ t ∈ x.2, T t)
      (amountAndUnit negative (n :: u :: ts)) := by
  obtain ⟨unit, hunit⟩ := Option.isSome_iff_exists.mp hunit
  rw [amountAndUnit, hunit]
  refine (ends_numeral text n.text).bind fun amount _ => ?_
  exact .ok ⟨TimeUnit.mem_standard_of_ofSpelling? hunit, hts⟩

theorem ends_duration (text : String) {ts : List Token} (hat : atDuration ts = true)
    (hts : ∀ t ∈ ts, T t) :
    Ends (Raised T text limit) (fun x => x.1.unit ∈ TimeUnit.standard ∧ ∀ t ∈ x.2, T t)
      (duration ts) := by
  obtain ⟨xs, u, rest, rfl, hx, -, hunit⟩ := atDuration_iff.mp hat
  have hrest : ∀ t ∈ rest, T t :=
    fun t ht => hts t (List.mem_append_right _ (List.mem_cons_of_mem u ht))
  cases hx with
  | @plain n hn =>
      have hnot : n.kind ≠ .minus := by simp [hn]
      rw [List.cons_append, duration, if_neg hnot]
      exact ends_amountAndUnit text false hunit hrest
  | @minus m n hm hn =>
      rw [List.cons_append, duration, if_pos hm]
      exact ends_amountAndUnit text true hunit hrest

theorem answers_arguments {text : String} {i : Inner}
    (h : Answers T text limit (NamedBy T) i.expression) (name : String) :
    Answers T text limit (fun es => ∀ e ∈ es, NamedBy T e) (arguments name i) := by
  intro ts hts
  rw [arguments]
  split
  case isTrue => exact .ok ⟨List.forall_mem_nil _, hts⟩
  case isFalse =>
  split
  case isTrue hdur =>
      refine (ends_duration text (Bool.and_eq_true_iff.mp hdur).2 hts).bind fun d hd => ?_
      exact .ok ⟨List.forall_mem_singleton.mpr hd.1, hd.2⟩
  case isFalse => exact answers_items h ts hts

theorem answers_listItems {text : String} {i : Inner}
    (h : Answers T text limit (NamedBy T) i.expression) :
    Answers T text limit (fun es => ∀ e ∈ es, NamedBy T e) (listItems i) := by
  intro ts hts
  rw [listItems]
  split
  case isTrue => exact .ok ⟨List.forall_mem_nil _, hts⟩
  case isFalse => exact answers_items h ts hts

theorem answers_callTail (hstop : T c.stop) (hinner : AnswersInner T c.text c.limit inner)
    {name : String} (hname : Identifies T name) :
    Answers T c.text c.limit (NamedBy T) (callTail c inner name) :=
  answers_closed hstop (answers_enter hstop hinner fun _ he _ => answers_arguments he name)
    (Expr.call name) (fun _ hes => ⟨.inr hname, allNamedBy_iff.mpr hes⟩) .parenClose
    .argumentsNotClosed rfl

theorem answers_primary (hstop : T c.stop) (hinner : AnswersInner T c.text c.limit inner) :
    Answers T c.text c.limit (NamedBy T) (primary c inner) := by
  intro ts hts
  cases ts with
  | nil => exact .error (raised_complain hstop hts (.wordless rfl))
  | cons t ts =>
      obtain ⟨ht, hrest⟩ := List.forall_mem_cons.mp hts
      dsimp only [primary]
      split
      case h_1 => exact .ok ⟨trivial, hrest⟩
      case h_2 =>
          refine (ends_numeral c.text t.text).bind fun n _ => ?_
          exact .ok ⟨trivial, hrest⟩
      case h_3 => exact .ok ⟨trivial, hrest⟩
      case h_4 => exact .ok ⟨trivial, hrest⟩
      case h_5 hdate =>
          split
          case h_1 => exact .ok ⟨trivial, hrest⟩
          case h_2 fault hfault => exact .error (raised_complain hstop hts (.moment hdate hfault))
      case h_6 => exact .ok ⟨⟨.inl rfl, trivial, trivial⟩, hrest⟩
      case h_7 hname =>
          have hnamed : Identifies T t.text := ⟨t, ht, hname, rfl⟩
          split
          case h_1 p rest =>
              split
              case isTrue =>
                  exact answers_callTail hstop hinner hnamed rest (List.forall_mem_cons.mp hrest).2
              case isFalse => exact .ok ⟨hnamed, hrest⟩
          case h_2 => exact .ok ⟨hnamed, hrest⟩
      case h_8 =>
          exact answers_closed hstop (answers_enter hstop hinner fun _ he _ => he) id
            (fun _ he => he) .parenClose .parenNotClosed rfl ts hrest
      case h_9 =>
          exact answers_closed hstop
            (answers_enter hstop hinner fun _ he _ => answers_listItems he) Expr.list
            (fun _ hes => allNamedBy_iff.mpr hes) .bracketClose .listNotClosed rfl ts hrest
      case h_10 hstring _ _ _ _ hlink _ _ _ =>
          have hopen : ¬ t.IsEnclosed := not_or.mpr ⟨hstring, hlink⟩
          exact .error (raised_complain hstop hts (.unexpected hopen))

theorem answers_parts (hstop : T c.stop) (hinner : AnswersInner T c.text c.limit inner)
    (fuel : Nat) {e : Expr} (he : NamedBy T e) :
    Answers T c.text c.limit (NamedBy T) (parts c inner fuel e) := by
  induction fuel generalizing e with
  | zero => exact fun ts hts => .ok ⟨he, hts⟩
  | succ fuel ih =>
      intro ts hts
      cases ts with
      | nil => exact .ok ⟨he, hts⟩
      | cons t ts =>
          have hrest := (List.forall_mem_cons.mp hts).2
          rw [parts]
          split
          case isTrue =>
              refine (answers_expect hstop .identifier rfl ts hrest).bind fun name hname => ?_
              have hpart : NamedBy T (.index e (.literal (.text name.1.text))) := ⟨he, trivial⟩
              exact ih hpart name.2 hname.2
          case isFalse =>
          split
          case isTrue =>
              have hinside := answers_enter hstop hinner fun _ he _ => he
              refine (hinside ts hrest).bind fun key hkey => ?_
              have hpart : NamedBy T (.index e key.1) := ⟨he, hkey.1⟩
              refine (answers_expect hstop .bracketClose rfl key.2 hkey.2).bind fun t ht => ?_
              exact ih hpart t.2 ht.2
          case isFalse => exact .ok ⟨he, hts⟩

theorem answers_access (hstop : T c.stop) (hinner : AnswersInner T c.text c.limit inner) :
    Answers T c.text c.limit (NamedBy T) (access c inner) := by
  intro ts hts
  refine (answers_primary hstop hinner ts hts).bind fun e he => ?_
  exact answers_parts hstop hinner e.2.length he.1 e.2 he.2

theorem answers_unary (hstop : T c.stop) (hinner : AnswersInner T c.text c.limit inner) :
    Answers T c.text c.limit (NamedBy T) (unary c inner) := by
  intro ts hts
  cases ts with
  | nil => exact answers_access hstop hinner [] hts
  | cons t ts =>
      have hrest := (List.forall_mem_cons.mp hts).2
      have hinside := answers_enter hstop hinner fun _ _ hu => hu
      rw [unary]
      split
      case isTrue => exact answers_made hinside negated (fun _ h => h) ts hrest
      case isFalse =>
      split
      case isTrue => exact answers_made hinside minus (fun _ h => h.minus) ts hrest
      case isFalse => exact answers_access hstop hinner (t :: ts) hts

theorem answers_binary {text : String} {operator? : Token.Kind → Option BinOp}
    (hop : ∀ kind ∈ Token.Kind.all, ∀ op ∈ operator? kind, op ∈ BinOp.standard)
    {operand : Reader Expr} (h : Answers T text limit (NamedBy T) operand) :
    Answers T text limit (NamedBy T) (chain operator? .binary operand) :=
  answers_chain (fun _ _ _ _ hkind hl hr => ⟨mem_standard_of_operator? hop hkind, hl, hr⟩) h

theorem answers_logical (hstop : T c.stop) (hinner : AnswersInner T c.text c.limit inner) :
    Answers T c.text c.limit (NamedBy T) (logical c inner) :=
  answers_binary (by decide) (answers_binary (by decide) (answers_binary (by decide)
    (answers_binary (by decide) (answers_unary hstop hinner))))

theorem answersInner_inner? (hstop : T c.stop) (levels : Nat) :
    AnswersInner T c.text c.limit (inner? c levels) := by
  induction levels with
  | zero => exact nofun
  | succ levels ih =>
      rintro i ⟨⟩
      exact ⟨answers_logical hstop ih, answers_unary hstop ih⟩

theorem answers_expression (hstop : T c.stop) :
    Answers T c.text c.limit (NamedBy T) (expression c) :=
  answers_logical hstop (answersInner_inner? hstop c.budget)

theorem answers_namedField (hstop : T c.stop) :
    Answers T c.text c.limit (fun field => NamedBy T field.field) (namedField c) := by
  intro ts hts
  refine (answers_expression hstop ts hts).bind fun e he => ?_
  obtain ⟨e, rest⟩ := e
  obtain ⟨he, hrest⟩ := he
  dsimp only
  split
  case h_1 => exact .ok ⟨he, hrest⟩
  case h_2 t more =>
      have hmore := (List.forall_mem_cons.mp hrest).2
      split
      case isFalse => exact .ok ⟨he, hrest⟩
      case isTrue =>
          split
          case h_1 => exact .error (raised_complain hstop hmore (.wordless rfl))
          case h_2 a after =>
              split
              case isTrue => exact .ok ⟨he, (List.forall_mem_cons.mp hmore).2⟩
              case isFalse => exact .error (raised_complain hstop hmore (.wordless rfl))

end NamedBy

end Expr

/-! ## Sources -/

namespace Source

section Answers

variable {T : Token → Prop} {c : Clause} {inner : Option Inner}

/-- The readers of sources one level further in, if there is one. -/
def AnswersInner (T : Token → Prop) (text : String) (limit : Int) (inner : Option Inner) : Prop :=
  ∀ i ∈ inner, Answers T text limit (fun _ => True) i.source ∧
    Answers T text limit (fun _ => True) i.atom

theorem answers_enter (hstop : T c.stop) (hinner : AnswersInner T c.text c.limit inner)
    {body : Inner → Reader Source}
    (hbody : ∀ i, Answers T c.text c.limit (fun _ => True) i.source →
      Answers T c.text c.limit (fun _ => True) i.atom →
      Answers T c.text c.limit (fun _ => True) (body i)) :
    Answers T c.text c.limit (fun _ => True) (enter c inner body) := by
  intro ts hts
  cases inner with
  | none => exact .error (raised_tooNested hstop hts)
  | some i => exact hbody i (hinner i rfl).1 (hinner i rfl).2 ts hts

theorem answers_atom (hstop : T c.stop) (hinner : AnswersInner T c.text c.limit inner) :
    Answers T c.text c.limit (fun _ => True) (atom c inner) := by
  have hnegated := answers_made (R := fun _ => True)
    (answers_enter hstop hinner fun _ _ ha => ha) negated fun _ _ => trivial
  have hclosed := answers_closed (R := fun _ => True) hstop
    (answers_enter hstop hinner fun _ hs _ => hs) id (fun _ _ => trivial) .parenClose
    .sourceNotClosed rfl
  intro ts hts
  cases ts with
  | nil => exact .error (raised_complain hstop hts (.wordless rfl))
  | cons t ts =>
      have hrest := (List.forall_mem_cons.mp hts).2
      dsimp only [atom]
      split
      case h_1 => exact hnegated ts hrest
      case h_2 => exact hnegated ts hrest
      case h_3 => exact .ok ⟨trivial, hrest⟩
      case h_4 => exact .ok ⟨trivial, hrest⟩
      case h_5 => exact .ok ⟨trivial, hrest⟩
      case h_6 => exact .ok ⟨trivial, hrest⟩
      case h_7 => exact hclosed ts hrest
      case h_8 _ _ hstring _ hlink _ _ =>
          have hopen : ¬ t.IsEnclosed := not_or.mpr ⟨hstring, hlink⟩
          exact .error (raised_complain hstop hts (.noSource hopen))

theorem answers_joinedAtoms (hstop : T c.stop) (hinner : AnswersInner T c.text c.limit inner) :
    Answers T c.text c.limit (fun _ => True) (joinedAtoms c inner) :=
  answers_chain (fun _ _ _ _ _ _ _ => trivial) (answers_atom hstop hinner)

theorem answersInner_inner? (hstop : T c.stop) (levels : Nat) :
    AnswersInner T c.text c.limit (inner? c levels) := by
  induction levels with
  | zero => exact nofun
  | succ levels ih =>
      rintro i ⟨⟩
      exact ⟨answers_joinedAtoms hstop ih, answers_atom hstop ih⟩

theorem answers_source (hstop : T c.stop) : Answers T c.text c.limit (fun _ => True) (source c) :=
  answers_joinedAtoms hstop (answersInner_inner? hstop c.budget)

end Answers

end Source

/-! ## Segments -/

/-- The end that a clause has after its last token. -/
def Token.endAfter (t : Token) : Token :=
  ⟨.endOfText, "", t.line, t.column, t.stop, t.stop⟩

/-- One of several tokens, or the end of a clause after one of them. -/
def Token.Among (tokens : List Token) (t : Token) : Prop :=
  t ∈ tokens ∨ ∃ u ∈ tokens, t = u.endAfter

theorem Clause.among_stop {tokens body : List Token} (hne : body ≠ [])
    (hbody : ∀ t ∈ body, t ∈ tokens) (text : String) (limit : Int) :
    Token.Among tokens (ofTokens text limit body).stop := by
  show Token.Among tokens ((body.dropWhile _).headD (missingEnd body))
  cases hrest : body.dropWhile fun t => t.kind != .endOfText with
  | nil =>
      have hlast := List.getLast?_eq_some_getLast hne
      rw [List.headD_nil, missingEnd, hlast]
      exact .inr ⟨_, hbody _ (List.getLast_mem hne), rfl⟩
  | cons t rest =>
      have hmem : t ∈ body.dropWhile fun t => t.kind != .endOfText := by simp [hrest]
      exact .inl (hbody t ((List.dropWhile_sublist _).subset hmem))

theorem Clause.mem_of_mem_tokens {text : String} {limit : Int} {body : List Token} {t : Token}
    (h : t ∈ (ofTokens text limit body).tokens) : t ∈ body :=
  (List.takeWhile_sublist _).subset h

/-- An operation of the query language, on expressions that identifiers name. -/
def Operation.NamedBy (T : Token → Prop) (op : Operation) : Prop :=
  (∀ node, op ≠ .foreign node) ∧ ∀ e ∈ op.expressions, e.NamedBy T

/-- A query of operations and expressions of the query language. -/
def Query.NamedBy (T : Token → Prop) (q : Query) : Prop :=
  (∀ e ∈ q.header.expressions, e.NamedBy T) ∧ ∀ op ∈ q.operations, op.NamedBy T

namespace Segment

/-- A segment of several tokens, whose first word is not enclosed. -/
structure Drawn (tokens : List Token) (s : Segment) : Prop where
  keyword : s.keyword ∈ tokens
  word : ¬ s.keyword.IsEnclosed
  body : ∀ t ∈ s.body, t ∈ tokens

section Ends

variable {T : Token → Prop} {c : Clause} {tokens : List Token} {text : String} {limit : Int}
  {s : Segment}

theorem not_isEnclosed_of_isClause {t : Token} (h : t.kind.isClause = true) : ¬ t.IsEnclosed := by
  rintro (hk | hk) <;> rw [hk] at h <;> cases h

theorem not_isEnclosed_of_isHeader {t : Token} (h : t.kind.isHeader = true) : ¬ t.IsEnclosed := by
  rintro (hk | hk) <;> rw [hk] at h <;> cases h

theorem not_isEnclosed_of_atFault {ts : List Token} {t : Token} (h : Token.AtFault ts t) :
    t ∈ ts ∧ ¬ t.IsEnclosed := by
  cases h with
  | closing hts hcloser =>
      refine ⟨by simp [hts], ?_⟩
      rintro (hk | hk) <;> rw [hk] at hcloser <;> cases hcloser
  | opening _ hinnermost =>
      obtain ⟨before, inside, hts, hopener, -⟩ := hinnermost
      refine ⟨by simp [hts], ?_⟩
      rintro (hk | hk) <;> rw [hk] at hopener <;> cases hopener

theorem drawn_of_cut {header : Token} (hheader : header.kind.isHeader = true) {body : List Token}
    {ss : List Segment} (h : cut text [] header [] body = .ok ss) :
    ∀ s ∈ ss, s.Drawn (header :: body) := by
  obtain ⟨own, others, rfl, rfl, -, hothers⟩ := parts_of_cut h
  refine List.forall_mem_cons.mpr ⟨⟨List.mem_cons_self, not_isEnclosed_of_isHeader hheader, ?_⟩, ?_⟩
  · intro t ht
    exact List.mem_cons_of_mem _ (List.mem_append_left _ ht)
  · intro s hs
    have hmem : ∀ t ∈ s.tokens, t ∈ header :: (own ++ others.flatMap tokens) := fun t ht =>
      List.mem_cons_of_mem _ (List.mem_append_right _ (List.mem_flatMap.mpr ⟨s, hs, ht⟩))
    exact ⟨hmem _ List.mem_cons_self, not_isEnclosed_of_isClause (hothers s hs).2,
      fun t ht => hmem t (List.mem_cons_of_mem _ ht)⟩

theorem ends_readAll {α : Type} {Q : α → Prop} {r : Reader α} (hstop : T c.stop)
    (htokens : ∀ t ∈ c.tokens, T t) {name : String} (hname : IsClauseName T name)
    (h : Answers T c.text c.limit Q r) : Ends (Raised T c.text c.limit) Q (readAll c name r) := by
  refine (h c.tokens htokens).bind fun x hx => ?_
  refine (ends_finish hstop hx.2 hname).bind fun _ _ => ?_
  exact .ok hx.1

theorem mem_of_mem_withoutId {ts : List Token} {t : Token} (h : t ∈ (withoutId ts).2) : t ∈ ts := by
  cases ts with
  | nil => exact h
  | cons u ts =>
      rw [withoutId] at h
      split at h
      case isTrue => exact List.mem_cons_of_mem u h
      case isFalse => exact h

theorem answers_tableFields (hstop : T c.stop) :
    Answers T c.text c.limit (fun h => ∀ e ∈ h.expressions, e.NamedBy T) (tableFields c) := by
  intro ts hts
  have hrest : ∀ t ∈ (withoutId ts).2, T t := fun t ht => hts t (mem_of_mem_withoutId ht)
  unfold tableFields
  dsimp only
  split
  case isTrue => exact .ok ⟨nofun, by simp⟩
  case isFalse =>
      refine (answers_items (Expr.answers_namedField hstop) _ hrest).bind fun fields hfields => ?_
      exact .ok ⟨List.forall_mem_map.mpr hfields.1, hfields.2⟩

theorem answers_listFormat (hstop : T c.stop) :
    Answers T c.text c.limit (fun h => ∀ e ∈ h.expressions, e.NamedBy T) (listFormat c) := by
  intro ts hts
  have hrest : ∀ t ∈ (withoutId ts).2, T t := fun t ht => hts t (mem_of_mem_withoutId ht)
  unfold listFormat
  dsimp only
  split
  case isTrue => exact .ok ⟨nofun, by simp⟩
  case isFalse =>
      refine (Expr.answers_expression hstop _ hrest).bind fun format hformat => ?_
      exact .ok ⟨List.forall_mem_singleton.mpr hformat.1, hformat.2⟩

theorem answers_sortField (hstop : T c.stop) :
    Answers T c.text c.limit (fun field => field.field.NamedBy T) (sortField c) := by
  intro ts hts
  refine (Expr.answers_expression hstop ts hts).bind fun e he => ?_
  obtain ⟨e, rest⟩ := e
  obtain ⟨he, hrest⟩ := he
  dsimp only
  split
  case h_1 => exact .ok ⟨he, hrest⟩
  case h_2 t rest =>
      split
      case h_1 => exact .ok ⟨he, (List.forall_mem_cons.mp hrest).2⟩
      case h_2 => exact .ok ⟨he, hrest⟩

section Drawn

variable (hs : s.Drawn tokens)
include hs

theorem Drawn.among_stop (hne : s.body ≠ []) (text : String) (limit : Int) :
    Token.Among tokens (s.clause text limit).stop :=
  Clause.among_stop hne hs.body text limit

theorem Drawn.among_tokens (text : String) (limit : Int) :
    ∀ t ∈ (s.clause text limit).tokens, Token.Among tokens t :=
  fun t ht => .inl (hs.body t (Clause.mem_of_mem_tokens ht))

theorem Drawn.isClauseName : IsClauseName (Token.Among tokens) s.keyword.text :=
  .inr ⟨s.keyword, .inl hs.keyword, hs.word, rfl⟩

theorem ends_filledClause (text : String) (limit : Int) :
    Ends (Raised (Token.Among tokens) text limit) (fun c => s.body ≠ [] ∧ c = s.clause text limit)
      (s.filledClause text limit) := by
  unfold filledClause
  split
  case isTrue => exact .error (.about (.inl hs.keyword) (.noValue hs.word))
  case isFalse hfull => exact .ok ⟨by simpa using hfull, rfl⟩

/-- What is read as the whole of a segment that is not empty. -/
theorem ends_whole {α : Type} {Q : α → Prop} {name : String} {r : Clause → Reader α}
    (hne : s.body ≠ []) (hname : IsClauseName (Token.Among tokens) name)
    (h : ∀ c : Clause, Token.Among tokens c.stop →
      Answers (Token.Among tokens) c.text c.limit Q (r c))
    (text : String) (limit : Int) :
    Ends (Raised (Token.Among tokens) text limit) Q
      (readAll (s.clause text limit) name (r (s.clause text limit))) := by
  have hstop := hs.among_stop hne text limit
  exact ends_readAll hstop (hs.among_tokens text limit) hname (h _ hstop)

theorem ends_header (text : String) (limit : Int) :
    Ends (Raised (Token.Among tokens) text limit) (fun h => ∀ e ∈ h.expressions,
      e.NamedBy (Token.Among tokens)) (s.header text limit) := by
  unfold header
  split
  case h_1 =>
      by_cases hne : s.body = []
      · rw [clause, hne]
        exact .ok nofun
      · have hstop := hs.among_stop hne text limit
        refine (ends_finish hstop (hs.among_tokens text limit) (.inl (by simp))).bind fun _ _ => ?_
        exact .ok nofun
  case h_2 =>
      refine (ends_filledClause hs text limit).bind fun c hc => ?_
      obtain ⟨hne, rfl⟩ := hc
      have hname : IsClauseName (Token.Among tokens) "CALENDAR" := .inl (by simp)
      have hfield := ends_whole hs hne hname (fun _ => Expr.answers_namedField) text limit
      refine hfield.bind fun field hfield => ?_
      exact .ok (List.forall_mem_singleton.mpr hfield)
  case h_3 =>
      by_cases hne : s.body = []
      · rw [clause, hne]
        exact .ok nofun
      · exact ends_whole hs hne (.inl (by simp)) (fun _ => answers_listFormat) text limit
  case h_4 =>
      by_cases hne : s.body = []
      · rw [clause, hne]
        exact .ok nofun
      · exact ends_whole hs hne (.inl (by simp)) (fun _ => answers_tableFields) text limit

theorem ends_source (text : String) (limit : Int) :
    Ends (Raised (Token.Among tokens) text limit) (fun _ => True) (s.source text limit) := by
  refine (ends_filledClause hs text limit).bind fun c hc => ?_
  obtain ⟨hne, rfl⟩ := hc
  exact ends_whole hs hne (.inl (by simp)) (fun _ => Source.answers_source) text limit

theorem ends_operation (text : String) (limit : Int) :
    Ends (Raised (Token.Among tokens) text limit) (Operation.NamedBy (Token.Among tokens))
      (s.operation text limit) := by
  refine (ends_filledClause hs text limit).bind fun c hc => ?_
  obtain ⟨hne, rfl⟩ := hc
  have hexpression := ends_whole hs hne hs.isClauseName (fun _ => Expr.answers_expression) text
    limit
  have hfield := ends_whole hs hne hs.isClauseName (fun _ => Expr.answers_namedField) text limit
  split
  case h_1 =>
      refine hexpression.bind fun e he => ?_
      exact .ok ⟨nofun, List.forall_mem_singleton.mpr he⟩
  case h_2 =>
      have hkeys := ends_whole hs hne hs.isClauseName
        (fun _ hstop => answers_items (answers_sortField hstop)) text limit
      refine hkeys.bind fun fields hfields => ?_
      exact .ok ⟨nofun, List.forall_mem_map.mpr hfields⟩
  case h_3 =>
      refine hexpression.bind fun e he => ?_
      exact .ok ⟨nofun, List.forall_mem_singleton.mpr he⟩
  case h_4 =>
      refine hfield.bind fun field hfield => ?_
      exact .ok ⟨nofun, List.forall_mem_singleton.mpr hfield⟩
  case h_5 =>
      refine hfield.bind fun field hfield => ?_
      exact .ok ⟨nofun, List.forall_mem_singleton.mpr hfield⟩

end Drawn

theorem ends_clauses (text : String) (limit : Int) (found : Option Source) {ss : List Segment}
    (hss : ∀ s ∈ ss, s.Drawn tokens) :
    Ends (Raised (Token.Among tokens) text limit)
      (fun x => ∀ op ∈ x.2, op.NamedBy (Token.Among tokens)) (clauses text limit found ss) := by
  induction ss generalizing found with
  | nil => exact .ok nofun
  | cons s ss ih =>
      obtain ⟨hs, hss⟩ := List.forall_mem_cons.mp hss
      unfold clauses
      split
      case isTrue =>
          split
          case h_1 => exact .error (.about (.inl hs.keyword) (.wordless rfl))
          case h_2 => exact (ends_source hs text limit).bind fun src _ => ih (some src) hss
      case isFalse =>
          refine (ends_operation hs text limit).bind fun op hop => ?_
          refine (ih found hss).bind fun x hx => ?_
          exact .ok (List.forall_mem_cons.mpr ⟨hop, hx⟩)

end Ends

end Segment

/-! ## Queries -/

namespace Query

variable {text : String} {limit : Int} {tokens : List Token}

theorem ends_segments (text : String) (hne : tokens ≠ []) :
    Ends (Raised (Token.Among tokens) text limit) (fun ss => ∀ s ∈ ss, s.Drawn tokens)
      (segments text tokens) := by
  have hstop := Clause.among_stop hne (fun t ht => ht) text 0
  have hmem : ∀ t ∈ (Clause.ofTokens text 0 tokens).tokens, t ∈ tokens :=
    fun t => Clause.mem_of_mem_tokens
  unfold segments
  dsimp only
  split
  case h_1 => exact .error (.about hstop .queryType)
  case h_2 first rest htokens =>
      rw [htokens] at hmem
      split
      case isFalse => exact .error (.about (.inl (hmem first List.mem_cons_self)) .queryType)
      case isTrue hheader =>
      rcases Segment.cut_cases text Token.passed_nil first [] rest with ⟨-, ss, hss⟩ |
        ⟨t, hfault, hcut⟩
      · rw [hss]
        refine .ok fun s hs => ?_
        have hdrawn := Segment.drawn_of_cut hheader hss s hs
        exact ⟨hmem _ hdrawn.keyword, hdrawn.word, fun t ht => hmem t (hdrawn.body t ht)⟩
      · rw [hcut]
        obtain ⟨ht, hopen⟩ := Segment.not_isEnclosed_of_atFault hfault
        exact .error (.about (.inl (hmem t (List.mem_cons_of_mem first ht))) (.unmatched hopen))

/-- A query that is read from tokens is named by their identifiers, and one that is not read is
complained about. -/
theorem ends_ofTokens (text : String) (limit : Int) (hne : tokens ≠ []) :
    Ends (Raised (Token.Among tokens) text limit) (NamedBy (Token.Among tokens))
      (ofTokens text limit tokens) := by
  rw [ofTokens_eq]
  refine (ends_segments text hne).bind fun ss hss => ?_
  cases ss with
  | nil => exact .ok ⟨nofun, nofun⟩
  | cons head tail =>
      obtain ⟨hhead, htail⟩ := List.forall_mem_cons.mp hss
      refine (Segment.ends_header hhead text limit).bind fun header hheader => ?_
      refine (Segment.ends_clauses text limit none htail).bind fun x hx => ?_
      exact .ok ⟨hheader, hx⟩

end Query

end VaultQuery
