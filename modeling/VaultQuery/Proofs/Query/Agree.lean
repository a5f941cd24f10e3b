import VaultQuery.Proofs.Expr.Derived
import VaultQuery.Proofs.Expr.Leaf
import VaultQuery.Proofs.Source.Truth
import Mathlib.Data.List.Forall2

/-!
Two readings of corresponding tokens go the same way.  Tokens correspond if they have the same kind
and text; their places may differ.  Then every reader gives the same value for both, but for names
that are taken from the text, and leaves corresponding tokens, or it fails for both
(`Query.agree_ofTokens`).  A reading compared with itself says what a query is made of: its leaves
are spelt by its tokens, and a fault that is no complaint about the text comes from a numeral among
them.
-/

namespace VaultQuery

/-! ## Results that agree -/

section Agree

variable {Same : Token → Token → Prop}

/-- Faults of two readings of corresponding tokens: complaints about the texts, or the same fault
of the same numeral. -/
inductive Fault.Alike (Same : Token → Token → Prop) : Fault → Fault → Prop
  | malformed (e e' : Located) : Fault.Alike Same (.malformed e) (.malformed e')
  | numeral {t t' : Token} {k : NumeralFault} (h : Same t t') (hk : t.kind = .number)
      (hn : Numeral.read t.text = .error k) : Fault.Alike Same (.numeral k) (.numeral k)

/-- Results that are related, or faults that are alike. -/
inductive Agree (Same : Token → Token → Prop) {α : Type} (R : α → α → Prop) :
    Except Fault α → Except Fault α → Prop
  | ok {a a' : α} (h : R a a') : Agree Same R (.ok a) (.ok a')
  | error {f f' : Fault} (h : Fault.Alike Same f f') : Agree Same R (.error f) (.error f')

variable {α β : Type} {R : α → α → Prop} {S : β → β → Prop}

theorem Agree.bind {x x' : Except Fault α} {f f' : α → Except Fault β} (h : Agree Same R x x')
    (hf : ∀ a a', R a a' → Agree Same S (f a) (f' a')) : Agree Same S (x >>= f) (x' >>= f') := by
  cases h with
  | ok h => exact hf _ _ h
  | error h => exact .error h

theorem Agree.mono {x x' : Except Fault α} {R' : α → α → Prop} (h : Agree Same R x x')
    (hR : ∀ a a', R a a' → R' a a') : Agree Same R' x x' := by
  cases h with
  | ok h => exact .ok (hR _ _ h)
  | error h => exact .error h

theorem Agree.exists_of_ok {x x' : Except Fault α} {a : α} (h : Agree Same R x x')
    (ha : x = .ok a) : ∃ a', x' = .ok a' ∧ R a a' := by
  cases h with
  | ok h =>
      cases ha
      exact ⟨_, rfl, h⟩
  | error => cases ha

theorem Agree.map {x x' : Except Fault α} {f f' : α → β} (h : Agree Same R x x')
    (hf : ∀ a a', R a a' → S (f a) (f' a')) : Agree Same S (x.map f) (x'.map f') := by
  cases h with
  | ok h => exact .ok (hf _ _ h)
  | error h => exact .error h

/-- The same value on both sides, which has a property. -/
def Shared (Q : α → Prop) (a a' : α) : Prop :=
  a = a' ∧ Q a

theorem Agree.made {x x' : Except Fault α} {f f' : α → β} (h : Agree Same R x x')
    (hf : ∀ a a', R a a' → S (f a) (f' a')) :
    Agree Same S (x >>= fun a => .ok (f a)) (x' >>= fun a => .ok (f' a)) :=
  h.bind fun a a' ha => .ok (hf a a' ha)

theorem shared_of_forall₂ {Q : α → Prop} {xs xs' : List α} (h : List.Forall₂ (Shared Q) xs xs') :
    Shared (fun xs => ∀ x ∈ xs, Q x) xs xs' := by
  induction h with
  | nil => exact ⟨rfl, by simp⟩
  | cons hx _ ih => exact ⟨by rw [hx.1, ih.1], by simpa using ⟨hx.2, ih.2⟩⟩

/-- A value and the tokens left after it correspond to those of another reading. -/
def AgreeRest (Same : Token → Token → Prop) (R : α → α → Prop) (x x' : α × List Token) : Prop :=
  R x.1 x'.1 ∧ List.Forall₂ Same x.2 x'.2

/-- Two readers agree on corresponding tokens. -/
def Parallel (Same : Token → Token → Prop) (R : α → α → Prop) (r r' : Reader α) : Prop :=
  ∀ ts ts', List.Forall₂ Same ts ts' → Agree Same (AgreeRest Same R) (r ts) (r' ts')

/-- Corresponding tokens have the same kind and text. -/
structure Faithful (Same : Token → Token → Prop) : Prop where
  kind : ∀ {t t'}, Same t t' → t'.kind = t.kind
  text : ∀ {t t'}, Same t t' → t'.text = t.text

/-- Two clauses of one depth over corresponding tokens. -/
structure Aligned (Same : Token → Token → Prop) (c c' : Clause) : Prop extends Faithful Same where
  limit : c'.limit = c.limit
  tokens : List.Forall₂ Same c.tokens c'.tokens

/-- Two clauses of one depth over corresponding tokens, which give corresponding names to what
stands from one token to another. -/
structure Matching (Same : Token → Token → Prop) (Named : String → String → Prop)
    (c c' : Clause) : Prop extends Aligned Same c c' where
  between : ∀ {t t' u u'}, Same t t' → Same u u' →
    Named (c.textBetween t u) (c'.textBetween t' u')

/-! ## Readers -/

theorem Agree.malformed (e e' : Located) :
    Agree Same R (.error (.malformed e)) (.error (.malformed e')) :=
  .error (.malformed e e')

theorem Agree.complain (c c' : Clause) (ts ts' : List Token) (complaint complaint' : Complaint) :
    Agree Same R (.error (c.complain ts complaint)) (.error (c'.complain ts' complaint')) :=
  .malformed _ _

theorem Agree.tooNested {c c' : Clause} (hm : Aligned Same c c') (ts ts' : List Token) :
    Agree Same R (.error (c.tooNested ts)) (.error (c'.tooNested ts')) := by
  rw [Clause.tooNested, Clause.tooNested, hm.limit]
  split
  case isTrue => exact .complain ..
  case isFalse => exact .malformed _ _

theorem Agree.finish (c c' : Clause) (name : String) {ts ts' : List Token}
    (h : List.Forall₂ Same ts ts') :
    Agree Same (fun _ _ => True) (c.finish name ts) (c'.finish name ts') := by
  cases h with
  | nil => exact .ok trivial
  | cons _ _ => exact .complain ..

theorem Aligned.budget {c c' : Clause} (h : Aligned Same c c') : c'.budget = c.budget := by
  rw [Clause.budget, Clause.budget, h.limit]

namespace Reader

theorem parallel_expect (hs : Faithful Same) (c c' : Clause) (kind : Token.Kind)
    (complaint complaint' : Complaint) :
    Parallel Same (fun t t' => Same t t' ∧ t.kind = kind) (expect c kind complaint)
      (expect c' kind complaint') := by
  intro ts ts' h
  cases h with
  | nil => exact .complain ..
  | @cons t t' ts ts' ht hts =>
      rw [expect, expect, hs.kind ht]
      split
      case isTrue hk => exact .ok ⟨⟨ht, hk⟩, hts⟩
      case isFalse => exact .complain ..

theorem parallel_moreItems (hs : Faithful Same) {item item' : Reader α}
    (h : Parallel Same R item item') (fuel : Nat) :
    Parallel Same (List.Forall₂ R) (moreItems item fuel) (moreItems item' fuel) := by
  induction fuel with
  | zero => exact fun ts ts' hts => .ok ⟨.nil, hts⟩
  | succ fuel ih =>
      intro ts ts' hts
      cases hts with
      | nil => exact .ok ⟨.nil, .nil⟩
      | @cons t t' ts ts' ht hts =>
          rw [moreItems, moreItems, hs.kind ht]
          split
          case isTrue =>
              refine (h _ _ hts).bind fun x x' hx => ?_
              refine (ih _ _ hx.2).bind fun xs xs' hxs => ?_
              exact .ok ⟨.cons hx.1 hxs.1, hxs.2⟩
          case isFalse => exact .ok ⟨.nil, .cons ht hts⟩

theorem parallel_items (hs : Faithful Same) {item item' : Reader α}
    (h : Parallel Same R item item') :
    Parallel Same (List.Forall₂ R) (items item) (items item') := by
  intro ts ts' hts
  refine (h _ _ hts).bind ?_
  rintro ⟨x, us⟩ ⟨x', us'⟩ ⟨hx, hus⟩
  have hmore := parallel_moreItems hs h us.length _ _ hus
  show Agree Same _ (moreItems item us.length us >>= _) (moreItems item' us'.length us' >>= _)
  rw [← hus.length_eq]
  refine hmore.bind fun xs xs' hxs => ?_
  exact .ok ⟨.cons hx hxs.1, hxs.2⟩

variable {Q : α → Prop} {P : β → Prop}

theorem parallel_shared (hs : Faithful Same) {item item' : Reader α}
    (h : Parallel Same (Shared Q) item item') :
    Parallel Same (Shared fun xs => ∀ x ∈ xs, Q x) (items item) (items item') := by
  intro ts ts' hts
  exact (parallel_items hs h ts ts' hts).mono fun _ _ hxs => ⟨shared_of_forall₂ hxs.1, hxs.2⟩

/-- What is made of what is read. -/
theorem parallel_made {r r' : Reader α} (h : Parallel Same (Shared Q) r r') (make : α → β)
    (hmake : ∀ a, Q a → P (make a)) :
    Parallel Same (Shared P) (fun ts => r ts >>= fun x => pure (make x.1, x.2))
      (fun ts => r' ts >>= fun x => pure (make x.1, x.2)) := by
  intro ts ts' hts
  refine (h ts ts' hts).bind ?_
  rintro ⟨a, us⟩ ⟨_, us'⟩ ⟨⟨rfl, ha⟩, hus⟩
  exact .ok ⟨⟨rfl, hmake a ha⟩, hus⟩

/-- What is made of what stands before a closing bracket. -/
theorem parallel_closed (hs : Faithful Same) {r r' : Reader α}
    (h : Parallel Same (Shared Q) r r') (make : α → β) (hmake : ∀ a, Q a → P (make a))
    (c c' : Clause) (kind : Token.Kind) (complaint : Complaint) :
    Parallel Same (Shared P)
      (fun ts => r ts >>= fun x => expect c kind complaint x.2 >>= fun y => pure (make x.1, y.2))
      (fun ts => r' ts >>= fun x => expect c' kind complaint x.2 >>= fun y =>
        pure (make x.1, y.2)) := by
  intro ts ts' hts
  refine (h ts ts' hts).bind ?_
  rintro ⟨a, us⟩ ⟨_, us'⟩ ⟨⟨rfl, ha⟩, hus⟩
  refine (parallel_expect hs c c' kind complaint complaint us us' hus).bind ?_
  rintro ⟨t, vs⟩ ⟨t', vs'⟩ ⟨-, hvs⟩
  exact .ok ⟨⟨rfl, hmake a ha⟩, hvs⟩

variable {γ : Type} {operator? : Token.Kind → Option γ} {join : γ → α → α → α}

theorem parallel_moreOperands (hs : Faithful Same) {operand operand' : Reader α}
    (hj : ∀ kind op a b, operator? kind = some op → Q a → Q b → Q (join op a b))
    (h : Parallel Same (Shared Q) operand operand') (fuel : Nat) {a : α} (ha : Q a) :
    Parallel Same (Shared Q) (moreOperands operator? join operand fuel a)
      (moreOperands operator? join operand' fuel a) := by
  induction fuel generalizing a with
  | zero => exact fun ts ts' hts => .ok ⟨⟨rfl, ha⟩, hts⟩
  | succ fuel ih =>
      intro ts ts' hts
      cases hts with
      | nil => exact .ok ⟨⟨rfl, ha⟩, .nil⟩
      | @cons t t' ts ts' ht hts =>
          rw [moreOperands, moreOperands, hs.kind ht]
          split
          case h_1 => exact .ok ⟨⟨rfl, ha⟩, .cons ht hts⟩
          case h_2 op hop =>
              refine (h _ _ hts).bind ?_
              rintro ⟨b, us⟩ ⟨b', us'⟩ ⟨⟨rfl, hb⟩, hus⟩
              exact ih (hj _ op _ _ hop ha hb) _ _ hus

theorem parallel_chain (hs : Faithful Same) {operand operand' : Reader α}
    (hj : ∀ kind op a b, operator? kind = some op → Q a → Q b → Q (join op a b))
    (h : Parallel Same (Shared Q) operand operand') :
    Parallel Same (Shared Q) (chain operator? join operand) (chain operator? join operand') := by
  intro ts ts' hts
  refine (h _ _ hts).bind ?_
  rintro ⟨a, us⟩ ⟨a', us'⟩ ⟨⟨rfl, ha⟩, hus⟩
  have hmore := parallel_moreOperands hs hj h us.length ha _ _ hus
  show Agree Same _ (moreOperands operator? join operand us.length a us)
    (moreOperands operator? join operand' us'.length a us')
  rwa [← hus.length_eq]

end Reader

end Agree

/-! ## Names that differ -/

section Renamed

variable {Named : String → String → Prop}

/-- The fields of a header that have names. -/
def Header.fields : Header → List NamedField
  | .table fields _ => fields
  | .calendar field => [field]
  | .list _ _ | .task => []

/-- The field of an operation that has a name. -/
def Operation.fields : Operation → List NamedField
  | .group field | .flatten field => [field]
  | _ => []

/-- The fields of a query that have names, in order. -/
def Query.fields (q : Query) : List NamedField :=
  q.header.fields ++ q.operations.flatMap Operation.fields

/-- The same field, under a corresponding name if it has no alias. -/
inductive NamedField.Renamed (Named : String → String → Prop) : NamedField → NamedField → Prop
  | own {name name' : String} (field : Expr) :
      Named name name' → Renamed Named ⟨name, field, none⟩ ⟨name', field, none⟩
  | aliased (text : String) (field : Expr) :
      Renamed Named ⟨text, field, some text⟩ ⟨text, field, some text⟩

/-- The same header but for the names of its fields. -/
inductive Header.Renamed (Named : String → String → Prop) : Header → Header → Prop
  | same {h : Header} : h.fields = [] → Renamed Named h h
  | table {fields fields' : List NamedField} (showId : Bool) :
      List.Forall₂ (NamedField.Renamed Named) fields fields' →
      Renamed Named (.table fields showId) (.table fields' showId)
  | calendar {field field' : NamedField} : field.Renamed Named field' →
      Renamed Named (.calendar field) (.calendar field')

/-- The same operation but for the name of its field. -/
inductive Operation.Renamed (Named : String → String → Prop) : Operation → Operation → Prop
  | same {op : Operation} : op.fields = [] → Renamed Named op op
  | group {field field' : NamedField} : field.Renamed Named field' →
      Renamed Named (.group field) (.group field')
  | flatten {field field' : NamedField} : field.Renamed Named field' →
      Renamed Named (.flatten field) (.flatten field')

/-- The same query but for the names of its fields. -/
structure Query.Renamed (Named : String → String → Prop) (q q' : Query) : Prop where
  header : q.header.Renamed Named q'.header
  source : q'.source = q.source
  operations : List.Forall₂ (Operation.Renamed Named) q.operations q'.operations

/-- No other name corresponds to the one that a field takes from the text. -/
def NamedField.IsFixed (Named : String → String → Prop) (f : NamedField) : Prop :=
  f.alias? = none → ∀ name, Named f.name name → name = f.name

theorem NamedField.Renamed.eq {f f' : NamedField} (h : f.Renamed Named f')
    (hf : f.IsFixed Named) : f' = f := by
  cases h with
  | own field hname => rw [hf rfl _ hname]
  | aliased => rfl

theorem Header.Renamed.eq {h h' : Header} (hr : h.Renamed Named h')
    (hf : ∀ f ∈ h.fields, f.IsFixed Named) : h' = h := by
  cases hr with
  | same => rfl
  | table showId hfields =>
      refine congrArg (Header.table · showId) ?_
      induction hfields with
      | nil => rfl
      | cons hfield _ ih =>
          obtain ⟨hhead, htail⟩ := List.forall_mem_cons.mp hf
          rw [hfield.eq hhead, ih htail]
  | calendar hfield => rw [hfield.eq (hf _ List.mem_cons_self)]

theorem Operation.Renamed.eq {op op' : Operation} (hr : op.Renamed Named op')
    (hf : ∀ f ∈ op.fields, f.IsFixed Named) : op' = op := by
  cases hr with
  | same => rfl
  | group hfield => rw [hfield.eq (hf _ List.mem_cons_self)]
  | flatten hfield => rw [hfield.eq (hf _ List.mem_cons_self)]

theorem Query.Renamed.eq {q q' : Query} (hr : q.Renamed Named q')
    (hf : ∀ f ∈ q.fields, f.IsFixed Named) : q' = q := by
  obtain ⟨header, source, operations⟩ := q
  obtain ⟨header', source', operations'⟩ := q'
  obtain ⟨hheader, rfl, hoperations⟩ := hr
  obtain ⟨hfields, hmore⟩ := List.forall_mem_append.mp hf
  obtain rfl := hheader.eq hfields
  refine congrArg (Query.mk _ _) ?_
  clear hheader hf hfields
  dsimp only at hoperations hmore
  induction hoperations with
  | nil => rfl
  | cons hop _ ih =>
      obtain ⟨hhead, htail⟩ := List.forall_mem_append.mp hmore
      rw [hop.eq hhead, ih htail]

theorem Header.Renamed.forall₂_fields {h h' : Header} (hr : h.Renamed Named h') :
    List.Forall₂ (NamedField.Renamed Named) h.fields h'.fields := by
  cases hr with
  | same hnone =>
      rw [hnone]
      exact .nil
  | table _ hfields => exact hfields
  | calendar hfield => exact .cons hfield .nil

theorem Operation.Renamed.forall₂_fields {op op' : Operation} (hr : op.Renamed Named op') :
    List.Forall₂ (NamedField.Renamed Named) op.fields op'.fields := by
  cases hr with
  | same hnone =>
      rw [hnone]
      exact .nil
  | group hfield | flatten hfield => exact .cons hfield .nil

theorem Query.Renamed.forall₂_fields {q q' : Query} (hr : q.Renamed Named q') :
    List.Forall₂ (NamedField.Renamed Named) q.fields q'.fields :=
  List.rel_append hr.header.forall₂_fields
    (List.rel_flatMap hr.operations fun _ _ hop => hop.forall₂_fields)

/-- A query that is its own renaming has names that correspond to themselves. -/
theorem Query.Renamed.named_self {q : Query} (hr : q.Renamed Named q) {f : NamedField}
    (hf : f ∈ q.fields) (hnone : f.alias? = none) : Named f.name f.name := by
  have hfield := List.forall₂_same.mp hr.forall₂_fields f hf
  cases hfield with
  | own _ hname => exact hname
  | aliased => cases hnone

end Renamed

/-! ## Expressions -/

namespace Expr

section Parallel

variable {Same : Token → Token → Prop}

/-- A token that corresponds to one of the other text. -/
def Known (Same : Token → Token → Prop) (t : Token) : Prop :=
  ∃ t', Same t t'

/-- Two readers of expressions that agree, and read leaves that known tokens spell. -/
def ParallelExpr (Same : Token → Token → Prop) (r r' : Reader Expr) : Prop :=
  Parallel Same (Shared (IsSpelt (Known Same))) r r'

/-- Readers one level further in that agree, unless no level is left. -/
inductive ParallelInner (Same : Token → Token → Prop) : Option Inner → Option Inner → Prop
  | none : ParallelInner Same none none
  | some {i i' : Inner} (he : ParallelExpr Same i.expression i'.expression)
      (hu : ParallelExpr Same i.unary i'.unary) : ParallelInner Same (some i) (some i')

variable {c c' : Clause} {inner inner' : Option Inner}

theorem agree_enter (hm : Aligned Same c c') (hi : ParallelInner Same inner inner') {α : Type}
    {R : α → α → Prop} {body : Inner → Reader α}
    (hbody : ∀ i i', ParallelExpr Same i.expression i'.expression →
      ParallelExpr Same i.unary i'.unary → Parallel Same R (body i) (body i')) :
    Parallel Same R (enter c inner body) (enter c' inner' body) := by
  intro ts ts' hts
  cases hi with
  | none => exact .tooNested hm ..
  | some he hu => exact hbody _ _ he hu ts ts' hts

theorem atDuration_eq (hs : Faithful Same) {ts ts' : List Token} (h : List.Forall₂ Same ts ts') :
    atDuration ts' = atDuration ts := by
  cases h with
  | nil => rfl
  | cons ha h =>
      cases h with
      | nil => rfl
      | cons hb h =>
          cases h with
          | nil => simp only [atDuration, hs.kind ha, hs.kind hb, hs.text hb]
          | cons hu _ =>
              simp only [atDuration, hs.kind ha, hs.kind hb, hs.text hb, hs.kind hu, hs.text hu]

theorem agree_numeral (hs : Faithful Same) {t t' : Token} (ht : Same t t')
    (hk : t.kind = .number) :
    Agree Same (Shared fun n => Numeral.read t.text = .ok n)
      ((Numeral.read t.text).mapError .numeral) ((Numeral.read t'.text).mapError .numeral) := by
  rw [hs.text ht]
  cases hn : Numeral.read t.text with
  | ok n => exact .ok ⟨rfl, rfl⟩
  | error k => exact .error (.numeral ht hk hn)

theorem agree_amountAndUnit (hs : Faithful Same) (negative : Bool) {n n' u u' : Token}
    {ts ts' : List Token} (hn : Same n n') (hk : n.kind = .number) (hu : Same u u')
    (hts : List.Forall₂ Same ts ts') :
    Agree Same (AgreeRest Same (Shared fun d => Spelt (Known Same) (.literal (.duration d))))
      (amountAndUnit negative (n :: u :: ts)) (amountAndUnit negative (n' :: u' :: ts')) := by
  rw [amountAndUnit, amountAndUnit, hs.text hu]
  refine (agree_numeral hs hn hk).bind ?_
  rintro amount _ ⟨rfl, ha⟩
  refine .ok ⟨⟨rfl, ?_⟩, hts⟩
  cases negative with
  | false => exact .duration ⟨_, hn⟩ hk ha _
  | true => exact .negDuration (.duration ⟨_, hn⟩ hk ha _)

theorem agree_duration (hs : Faithful Same) {ts ts' : List Token} (hat : atDuration ts = true)
    (h : List.Forall₂ Same ts ts') :
    Agree Same (AgreeRest Same (Shared fun d => Spelt (Known Same) (.literal (.duration d))))
      (duration ts) (duration ts') := by
  obtain ⟨xs, u, rest, rfl, hx, hu, hspelling⟩ := atDuration_iff.mp hat
  cases hx with
  | @plain n hn =>
      obtain ⟨n', us', hsame, h', rfl⟩ := List.forall₂_cons_left_iff.mp h
      obtain ⟨u', rest', hsame', h'', rfl⟩ := List.forall₂_cons_left_iff.mp h'
      have hm : n.kind ≠ .minus := by simp [hn]
      rw [List.cons_append, duration, duration, hs.kind hsame, if_neg hm, if_neg hm]
      exact agree_amountAndUnit hs false hsame hn hsame' h''
  | @minus m n hm hn =>
      obtain ⟨m', us', hsame, h', rfl⟩ := List.forall₂_cons_left_iff.mp h
      obtain ⟨n', vs', hsame', h'', rfl⟩ := List.forall₂_cons_left_iff.mp h'
      obtain ⟨u', rest', hsame'', hrest, rfl⟩ := List.forall₂_cons_left_iff.mp h''
      rw [List.cons_append, duration, duration, hs.kind hsame, if_pos hm, if_pos hm]
      exact agree_amountAndUnit hs true hsame' hn hsame'' hrest

theorem head?_any_eq (hs : Faithful Same) {ts ts' : List Token} (h : List.Forall₂ Same ts ts')
    (kind : Token.Kind) : ts'.head?.any (·.kind == kind) = ts.head?.any (·.kind == kind) := by
  cases h with
  | nil => rfl
  | cons ht _ => simp [hs.kind ht]

theorem parallel_arguments (hs : Faithful Same) (name : String) {i i' : Inner}
    (h : ParallelExpr Same i.expression i'.expression) :
    Parallel Same (Shared fun es => ∀ e ∈ es, IsSpelt (Known Same) e) (arguments name i)
      (arguments name i') := by
  intro ts ts' hts
  rw [arguments, arguments, head?_any_eq hs hts, atDuration_eq hs hts]
  split
  case isTrue => exact .ok ⟨⟨rfl, by simp⟩, hts⟩
  case isFalse =>
  split
  case isTrue hdur =>
      refine (agree_duration hs (Bool.and_eq_true_iff.mp hdur).2 hts).bind ?_
      rintro ⟨d, us⟩ ⟨_, us'⟩ ⟨⟨rfl, hd⟩, hus⟩
      refine .ok ⟨⟨rfl, ?_⟩, hus⟩
      simpa using IsSpelt.leaf hd
  case isFalse => exact Reader.parallel_shared hs h ts ts' hts

theorem parallel_listItems (hs : Faithful Same) {i i' : Inner}
    (h : ParallelExpr Same i.expression i'.expression) :
    Parallel Same (Shared fun es => ∀ e ∈ es, IsSpelt (Known Same) e) (listItems i)
      (listItems i') := by
  intro ts ts' hts
  rw [listItems, listItems, head?_any_eq hs hts]
  split
  case isTrue => exact .ok ⟨⟨rfl, by simp⟩, hts⟩
  case isFalse => exact Reader.parallel_shared hs h ts ts' hts

theorem parallel_callTail (hm : Aligned Same c c') (hi : ParallelInner Same inner inner')
    (name : String) : ParallelExpr Same (callTail c inner name) (callTail c' inner' name) :=
  Reader.parallel_closed hm.toFaithful
    (agree_enter hm hi fun _ _ he _ => parallel_arguments hm.toFaithful name he)
    (Expr.call name) (fun _ h => IsSpelt.call name h) c c' .parenClose .argumentsNotClosed

theorem parallel_primary (hm : Aligned Same c c') (hi : ParallelInner Same inner inner') :
    ParallelExpr Same (primary c inner) (primary c' inner') := by
  intro ts ts' hts
  cases hts with
  | nil => exact .complain ..
  | @cons t t' ts ts' ht hts =>
      rw [primary.eq_def, primary.eq_def]
      simp only [hm.kind ht, hm.text ht]
      split
      case h_1 hk => exact .ok ⟨⟨rfl, .leaf (.text ⟨_, ht⟩ (.inl hk))⟩, hts⟩
      case h_2 hk =>
          have hn := agree_numeral hm.toFaithful ht hk
          rw [hm.text ht] at hn
          refine hn.bind ?_
          rintro n _ ⟨rfl, hn⟩
          exact .ok ⟨⟨rfl, .leaf (.number ⟨_, ht⟩ hk hn)⟩, hts⟩
      case h_3 => exact .ok ⟨⟨rfl, .leaf (.bool _)⟩, hts⟩
      case h_4 => exact .ok ⟨⟨rfl, .leaf .null⟩, hts⟩
      case h_5 =>
          split
          case h_1 m _ => exact .ok ⟨⟨rfl, .leaf (.moment m)⟩, hts⟩
          case h_2 => exact .complain ..
      case h_6 hk =>
          refine .ok ⟨⟨rfl, .call _ ?_⟩, hts⟩
          simpa using IsSpelt.leaf (.text ⟨_, ht⟩ (.inr (.inl hk)))
      case h_7 hk =>
          cases hts with
          | nil => exact .ok ⟨⟨rfl, .leaf (.var ⟨_, ht⟩ hk)⟩, .nil⟩
          | @cons p p' rest rest' hp hrest =>
              simp only [hm.kind hp]
              split
              case isTrue => exact parallel_callTail hm hi _ _ _ hrest
              case isFalse => exact .ok ⟨⟨rfl, .leaf (.var ⟨_, ht⟩ hk)⟩, .cons hp hrest⟩
      case h_8 =>
          exact Reader.parallel_closed hm.toFaithful (agree_enter hm hi fun _ _ he _ => he)
            id (fun _ h => h) c c' .parenClose .parenNotClosed _ _ hts
      case h_9 =>
          exact Reader.parallel_closed hm.toFaithful
            (agree_enter hm hi fun _ _ he _ => parallel_listItems hm.toFaithful he)
            Expr.list (fun _ h => IsSpelt.list h) c c' .bracketClose .listNotClosed _ _ hts
      case h_10 => exact .complain ..

theorem parallel_parts (hm : Aligned Same c c') (hi : ParallelInner Same inner inner')
    (fuel : Nat) {e : Expr} (he : IsSpelt (Known Same) e) :
    ParallelExpr Same (parts c inner fuel e) (parts c' inner' fuel e) := by
  induction fuel generalizing e with
  | zero => exact fun ts ts' hts => .ok ⟨⟨rfl, he⟩, hts⟩
  | succ fuel ih =>
      intro ts ts' hts
      cases hts with
      | nil => exact .ok ⟨⟨rfl, he⟩, .nil⟩
      | @cons t t' ts ts' ht hts =>
          rw [parts, parts, hm.kind ht]
          split
          case isTrue =>
              refine (Reader.parallel_expect hm.toFaithful c c' _ _ _ _ _ hts).bind ?_
              rintro ⟨name, us⟩ ⟨name', us'⟩ ⟨⟨hname, hk⟩, hus⟩
              show Agree Same _ (parts c inner fuel (.index e (.literal (.text name.text))) us)
                (parts c' inner' fuel (.index e (.literal (.text name'.text))) us')
              rw [hm.text hname]
              exact ih (.index he (.leaf (.text ⟨_, hname⟩ (.inr (.inr hk))))) _ _ hus
          case isFalse =>
          split
          case isTrue =>
              refine (agree_enter hm hi (fun _ _ he _ => he) _ _ hts).bind ?_
              rintro ⟨key, us⟩ ⟨_, us'⟩ ⟨⟨rfl, hkey⟩, hus⟩
              refine (Reader.parallel_expect hm.toFaithful c c' _ _ _ _ _ hus).bind ?_
              rintro ⟨t, vs⟩ ⟨t', vs'⟩ ⟨-, hvs⟩
              exact ih (.index he hkey) _ _ hvs
          case isFalse => exact .ok ⟨⟨rfl, he⟩, .cons ht hts⟩

theorem parallel_access (hm : Aligned Same c c') (hi : ParallelInner Same inner inner') :
    ParallelExpr Same (access c inner) (access c' inner') := by
  intro ts ts' hts
  refine (parallel_primary hm hi _ _ hts).bind ?_
  rintro ⟨e, us⟩ ⟨_, us'⟩ ⟨⟨rfl, he⟩, hus⟩
  show Agree Same _ (parts c inner us.length e us) (parts c' inner' us'.length e us')
  rw [← hus.length_eq]
  exact parallel_parts hm hi us.length he _ _ hus

theorem parallel_unary (hm : Aligned Same c c') (hi : ParallelInner Same inner inner') :
    ParallelExpr Same (unary c inner) (unary c' inner') := by
  intro ts ts' hts
  cases hts with
  | nil => exact parallel_access hm hi _ _ .nil
  | @cons t t' ts ts' ht hts =>
      have hinside := agree_enter hm hi (fun _ _ _ hu => hu)
      rw [unary, unary, hm.kind ht]
      split
      case isTrue => exact Reader.parallel_made hinside negated (fun _ h => h.negated) _ _ hts
      case isFalse =>
      split
      case isTrue => exact Reader.parallel_made hinside minus (fun _ h => h.minus) _ _ hts
      case isFalse => exact parallel_access hm hi _ _ (.cons ht hts)

theorem parallel_binary (hs : Faithful Same) (operator? : Token.Kind → Option BinOp)
    {operand operand' : Reader Expr} (h : ParallelExpr Same operand operand') :
    ParallelExpr Same (Reader.chain operator? .binary operand)
      (Reader.chain operator? .binary operand') :=
  Reader.parallel_chain hs (fun _ op _ _ _ ha hb => .binary op ha hb) h

theorem parallel_logical (hm : Aligned Same c c') (hi : ParallelInner Same inner inner') :
    ParallelExpr Same (logical c inner) (logical c' inner') := by
  have hs := hm.toFaithful
  exact parallel_binary hs _ (parallel_binary hs _ (parallel_binary hs _
    (parallel_binary hs _ (parallel_unary hm hi))))

theorem parallel_inner? (hm : Aligned Same c c') (levels : Nat) :
    ParallelInner Same (inner? c levels) (inner? c' levels) := by
  induction levels with
  | zero => exact .none
  | succ levels ih => exact .some (parallel_logical hm ih) (parallel_unary hm ih)

theorem parallel_expression (hm : Aligned Same c c') :
    ParallelExpr Same (expression c) (expression c') := by
  rw [expression, expression, hm.budget]
  exact parallel_logical hm (parallel_inner? hm c.budget)

theorem agree_last {ts ts' rest rest' : List Token} (h : List.Forall₂ Same ts ts')
    (hrest : List.Forall₂ Same rest rest') {t t' : Token} (ht : Same t t') :
    Same ((ts.take (ts.length - rest.length)).getLast?.getD t)
      ((ts'.take (ts'.length - rest'.length)).getLast?.getD t') := by
  rw [← h.length_eq, ← hrest.length_eq]
  have htake := List.forall₂_take (ts.length - rest.length) h
  generalize ts.take (ts.length - rest.length) = us at htake ⊢
  generalize ts'.take (ts.length - rest.length) = us' at htake ⊢
  clear h hrest
  induction htake generalizing t t' with
  | nil => exact ht
  | cons hu _ ih => simpa [List.getLast?_cons] using ih hu

theorem parallel_namedField {Named : String → String → Prop} (hm : Matching Same Named c c') :
    Parallel Same (fun f f' => f.Renamed Named f' ∧ IsSpelt (Known Same) f.field) (namedField c)
      (namedField c') := by
  intro ts ts' hts
  cases hts with
  | nil => exact .complain c c' [] [] .expressionEnds .expressionEnds
  | @cons t t' ts ts' ht hts =>
      have hall := List.Forall₂.cons ht hts
      refine (parallel_expression hm.toAligned _ _ hall).bind ?_
      rintro ⟨e, rest⟩ ⟨_, rest'⟩ ⟨⟨rfl, he⟩, hrest⟩
      have hname := hm.between ht (agree_last hall hrest ht)
      dsimp only [Clause.next, List.headD_cons]
      cases hrest with
      | nil => exact .ok ⟨⟨.own e hname, he⟩, .nil⟩
      | @cons u u' more more' hu hmore =>
          dsimp only
          rw [hm.kind hu]
          split
          case isFalse => exact .ok ⟨⟨.own e hname, he⟩, .cons hu hmore⟩
          case isTrue =>
          cases hmore with
          | nil => exact .complain ..
          | @cons a a' after after' ha hafter =>
              dsimp only
              rw [hm.kind ha, hm.text ha]
              split
              case isTrue => exact .ok ⟨⟨.aliased a.text e, he⟩, hafter⟩
              case isFalse => exact .complain ..

end Parallel

end Expr

/-! ## Sources -/

namespace Source

section Parallel

variable {Same : Token → Token → Prop}

/-- Two readers of sources that agree, and join sources by conjunction and disjunction only. -/
def ParallelSource (Same : Token → Token → Prop) (r r' : Reader Source) : Prop :=
  Parallel Same (Shared fun s => s.isStandard = true) r r'

/-- Readers one level further in that agree, unless no level is left. -/
inductive ParallelInner (Same : Token → Token → Prop) : Option Inner → Option Inner → Prop
  | none : ParallelInner Same none none
  | some {i i' : Inner} (hs : ParallelSource Same i.source i'.source)
      (ha : ParallelSource Same i.atom i'.atom) : ParallelInner Same (some i) (some i')

variable {c c' : Clause} {inner inner' : Option Inner}

theorem agree_enter (hm : Aligned Same c c') (hi : ParallelInner Same inner inner')
    {body : Inner → Reader Source}
    (hbody : ∀ i i', ParallelSource Same i.source i'.source →
      ParallelSource Same i.atom i'.atom → ParallelSource Same (body i) (body i')) :
    ParallelSource Same (enter c inner body) (enter c' inner' body) := by
  intro ts ts' hts
  cases hi with
  | none => exact .tooNested hm ..
  | some hs ha => exact hbody _ _ hs ha ts ts' hts

theorem parallel_atom (hm : Aligned Same c c') (hi : ParallelInner Same inner inner') :
    ParallelSource Same (atom c inner) (atom c' inner') := by
  intro ts ts' hts
  cases hts with
  | nil => exact .complain ..
  | @cons t t' ts ts' ht hts =>
      have hnegated : ParallelSource Same _ _ :=
        Reader.parallel_made (agree_enter hm hi fun _ _ _ ha => ha) negated fun _ h => h
      have hclosed : ParallelSource Same _ _ :=
        Reader.parallel_closed hm.toFaithful (agree_enter hm hi fun _ _ hs _ => hs) id
          (fun _ h => h) c c' .parenClose .sourceNotClosed
      rw [atom.eq_def, atom.eq_def]
      simp only [hm.kind ht, hm.text ht]
      split
      case h_1 => exact hnegated _ _ hts
      case h_2 => exact hnegated _ _ hts
      case h_3 =>
          refine .ok ⟨⟨rfl, ?_⟩, hts⟩
          split <;> rfl
      case h_4 => exact .ok ⟨⟨rfl, rfl⟩, hts⟩
      case h_5 => exact .ok ⟨⟨rfl, rfl⟩, hts⟩
      case h_6 => exact .ok ⟨⟨rfl, rfl⟩, hts⟩
      case h_7 => exact hclosed _ _ hts
      case h_8 => exact .complain ..

theorem connective?_of_joint? {kind : Token.Kind} {joint : Joint} (h : joint? kind = some joint) :
    (connective? joint).isSome = true := by
  cases kind <;> simp [joint?] at h <;> subst h <;> rfl

theorem parallel_joinedAtoms (hm : Aligned Same c c') (hi : ParallelInner Same inner inner') :
    ParallelSource Same (joinedAtoms c inner) (joinedAtoms c' inner') := by
  refine Reader.parallel_chain hm.toFaithful ?_ (parallel_atom hm hi)
  intro kind joint left right hjoint hl hr
  simp [isStandard, connective?_of_joint? hjoint, hl, hr]

theorem parallel_inner? (hm : Aligned Same c c') (levels : Nat) :
    ParallelInner Same (inner? c levels) (inner? c' levels) := by
  induction levels with
  | zero => exact .none
  | succ levels ih => exact .some (parallel_joinedAtoms hm ih) (parallel_atom hm ih)

theorem parallel_source (hm : Aligned Same c c') : ParallelSource Same (source c) (source c') := by
  rw [source, source, hm.budget]
  exact parallel_joinedAtoms hm (parallel_inner? hm c.budget)

end Parallel

end Source

/-! ## Segments -/

namespace Segment

section Agree

variable {Same : Token → Token → Prop} {c c' : Clause}

theorem agree_readAll (hm : Aligned Same c c') (name : String) {α : Type} {R : α → α → Prop}
    {r r' : Reader α} (h : Parallel Same R r r') :
    Agree Same R (readAll c name r) (readAll c' name r') := by
  refine (h _ _ hm.tokens).bind ?_
  rintro ⟨x, ts⟩ ⟨x', ts'⟩ ⟨hx, hts⟩
  exact (Agree.finish c c' name hts).bind fun _ _ _ => .ok hx

theorem isEmpty_eq {ts ts' : List Token} (h : List.Forall₂ Same ts ts') :
    ts'.isEmpty = ts.isEmpty := by
  cases h <;> rfl

theorem agree_withoutId (hs : Faithful Same) {ts ts' : List Token} (h : List.Forall₂ Same ts ts') :
    (withoutId ts).1 = (withoutId ts').1 ∧
      List.Forall₂ Same (withoutId ts).2 (withoutId ts').2 := by
  cases h with
  | nil => exact ⟨rfl, .nil⟩
  | @cons t t' ts ts' ht hts =>
      rw [withoutId, withoutId, hs.kind ht]
      split
      case isTrue => exact ⟨rfl, hts⟩
      case isFalse => exact ⟨rfl, .cons ht hts⟩

/-- Two segments of corresponding tokens. -/
def SameSegment (Same : Token → Token → Prop) (s s' : Segment) : Prop :=
  Same s.keyword s'.keyword ∧ List.Forall₂ Same s.body s'.body

theorem agree_cut (hs : Faithful Same) (text text' : String) {ts ts' : List Token}
    (hts : List.Forall₂ Same ts ts') {opened opened' body body' : List Token}
    (hopened : List.Forall₂ Same opened opened') {keyword keyword' : Token}
    (hk : Same keyword keyword') (hbody : List.Forall₂ Same body body') :
    Agree Same (List.Forall₂ (SameSegment Same)) (cut text opened keyword body ts)
      (cut text' opened' keyword' body' ts') := by
  induction hts generalizing opened opened' keyword keyword' body body' with
  | nil =>
      cases hopened with
      | nil => exact .ok (.cons ⟨hk, List.rel_reverse hbody⟩ .nil)
      | cons _ _ => exact .malformed _ _
  | @cons t t' ts ts' ht hts ih =>
      rw [cut.eq_def, cut.eq_def]
      dsimp only
      rw [hs.kind ht]
      split
      case isTrue => exact ih (.cons ht hopened) hk (.cons ht hbody)
      case isFalse =>
      cases t.kind.opener? with
      | some kind =>
          cases hopened with
          | nil => exact .malformed _ _
          | @cons o o' os os' ho hos =>
              dsimp only
              rw [hs.kind ho]
              split
              case isTrue => exact ih hos hk (.cons ht hbody)
              case isFalse => exact .malformed _ _
      | none =>
          cases hopened with
          | cons ho hos => exact ih (.cons ho hos) hk (.cons ht hbody)
          | nil =>
              dsimp only
              split
              case isTrue =>
                  exact (ih .nil ht .nil).map fun _ _ h => .cons ⟨hk, List.rel_reverse hbody⟩ h
              case isFalse => exact ih .nil hk (.cons ht hbody)

end Agree

end Segment

/-- The expressions of a header. -/
def Header.expressions : Header → List Expr
  | .table fields _ => fields.map (·.field)
  | .list format _ => format.toList
  | .task => []
  | .calendar field => [field.field]

/-- The expressions of an operation. -/
def Operation.expressions : Operation → List Expr
  | .keep clause => [clause]
  | .sort fields => fields.map (·.field)
  | .limit amount => [amount]
  | .group field | .flatten field => [field.field]
  | .extract fields => fields.map (·.2)
  | .foreign _ => []

/-- The expressions of a query, in order. -/
def Query.expressions (q : Query) : List Expr :=
  q.header.expressions ++ q.operations.flatMap Operation.expressions

/-- Every leaf of every one of several expressions is spelt by a known token. -/
def AllSpelt (Same : Token → Token → Prop) (es : List Expr) : Prop :=
  ∀ e ∈ es, e.IsSpelt (Expr.Known Same)

theorem allSpelt_single {Same : Token → Token → Prop} {e : Expr}
    (h : e.IsSpelt (Expr.Known Same)) : AllSpelt Same [e] := by
  intro x hx
  rw [List.mem_singleton] at hx
  exact hx ▸ h

namespace Segment

section Agree

variable {Same : Token → Token → Prop} {c c' : Clause}

/-- What may stand after the word `WITHOUT ID`. -/
theorem parallel_withoutId (hs : Faithful Same) {α β : Type} {R : α → α → Prop}
    {S : β → β → Prop} {r r' : Reader α} (h : Parallel Same R r r') (bare : Bool → β)
    (make : α → Bool → β) (hbare : ∀ showId, S (bare showId) (bare showId))
    (hmake : ∀ a a' showId, R a a' → S (make a showId) (make a' showId)) :
    Parallel Same S
      (fun ts => if (withoutId ts).2.isEmpty then pure (bare (withoutId ts).1, [])
        else r (withoutId ts).2 >>= fun x => pure (make x.1 (withoutId ts).1, x.2))
      (fun ts => if (withoutId ts).2.isEmpty then pure (bare (withoutId ts).1, [])
        else r' (withoutId ts).2 >>= fun x => pure (make x.1 (withoutId ts).1, x.2)) := by
  intro ts ts' hts
  obtain ⟨hid, hrest⟩ := agree_withoutId hs hts
  dsimp only
  rw [isEmpty_eq hrest, ← hid]
  split
  case isTrue => exact .ok ⟨hbare _, .nil⟩
  case isFalse =>
      refine (h _ _ hrest).bind ?_
      rintro ⟨a, us⟩ ⟨a', us'⟩ ⟨ha, hus⟩
      exact .ok ⟨hmake a a' _ ha, hus⟩

variable {Named : String → String → Prop}

/-- Headers that are the same but for names, with leaves that known tokens spell. -/
def AgreeHeader (Same : Token → Token → Prop) (Named : String → String → Prop)
    (h h' : Header) : Prop :=
  h.Renamed Named h' ∧ AllSpelt Same h.expressions

/-- Operations that are the same but for names, with leaves that known tokens spell. -/
def AgreeOperation (Same : Token → Token → Prop) (Named : String → String → Prop)
    (op op' : Operation) : Prop :=
  op.Renamed Named op' ∧ AllSpelt Same op.expressions

theorem allSpelt_map {fs fs' : List NamedField}
    (h : List.Forall₂ (fun f f' => f.Renamed Named f' ∧ f.field.IsSpelt (Expr.Known Same)) fs fs') :
    AllSpelt Same (fs.map (·.field)) := by
  induction h with
  | nil => simp [AllSpelt]
  | cons hf _ ih => exact List.forall_mem_cons.mpr ⟨hf.2, ih⟩

theorem allSpelt_flatMap {ops ops' : List Operation}
    (h : List.Forall₂ (AgreeOperation Same Named) ops ops') :
    AllSpelt Same (ops.flatMap Operation.expressions) := by
  induction h with
  | nil => simp [AllSpelt]
  | cons hop _ ih => exact List.forall_mem_append.mpr ⟨hop.2, ih⟩

theorem parallel_tableFields (hm : Matching Same Named c c') :
    Parallel Same (AgreeHeader Same Named) (tableFields c) (tableFields c') := by
  have hfields := Reader.parallel_items hm.toFaithful (Expr.parallel_namedField hm)
  refine parallel_withoutId hm.toFaithful hfields (Header.table []) Header.table ?_ ?_
  · intro showId
    exact ⟨.same rfl, by simp [AllSpelt, Header.expressions]⟩
  · intro fields fields' showId h
    exact ⟨.table showId (h.imp fun _ _ hf => hf.1), allSpelt_map h⟩

theorem parallel_listFormat (hm : Aligned Same c c') :
    Parallel Same (AgreeHeader Same Named) (listFormat c) (listFormat c') := by
  refine parallel_withoutId hm.toFaithful (Expr.parallel_expression hm) (Header.list none)
    (fun format => Header.list (some format)) ?_ ?_
  · intro showId
    exact ⟨.same rfl, by simp [AllSpelt, Header.expressions]⟩
  · rintro format _ showId ⟨rfl, h⟩
    exact ⟨.same rfl, allSpelt_single h⟩

theorem parallel_sortField (hm : Aligned Same c c') :
    Parallel Same (Shared fun f => f.field.IsSpelt (Expr.Known Same)) (sortField c)
      (sortField c') := by
  intro ts ts' hts
  refine (Expr.parallel_expression hm _ _ hts).bind ?_
  rintro ⟨e, us⟩ ⟨_, us'⟩ ⟨⟨rfl, he⟩, hus⟩
  cases hus with
  | nil => exact .ok ⟨⟨rfl, he⟩, .nil⟩
  | @cons t t' us us' ht hus =>
      dsimp only
      rw [hm.kind ht, hm.text ht]
      split
      case h_1 => exact .ok ⟨⟨rfl, he⟩, hus⟩
      case h_2 => exact .ok ⟨⟨rfl, he⟩, .cons ht hus⟩

variable {text text' : String} {limit : Int} {s s' : Segment}

theorem agree_filledClause (h : SameSegment Same s s')
    (hc : Matching Same Named (s.clause text limit) (s'.clause text' limit)) :
    Agree Same (Matching Same Named) (s.filledClause text limit)
      (s'.filledClause text' limit) := by
  rw [filledClause, filledClause, isEmpty_eq h.2]
  split
  case isTrue => exact .malformed _ _
  case isFalse => exact .ok hc

theorem agree_header (h : SameSegment Same s s')
    (hc : Matching Same Named (s.clause text limit) (s'.clause text' limit)) :
    Agree Same (AgreeHeader Same Named) (s.header text limit) (s'.header text' limit) := by
  rw [header, header, hc.kind h.1]
  split
  case h_1 =>
      refine (Agree.finish _ _ _ hc.tokens).bind fun _ _ _ => ?_
      exact .ok ⟨.same rfl, by simp [AllSpelt, Header.expressions]⟩
  case h_2 =>
      refine (agree_filledClause h hc).bind fun c c' hm => ?_
      exact (agree_readAll hm.toAligned "CALENDAR" (Expr.parallel_namedField hm)).made
        fun _ _ hf => ⟨.calendar hf.1, allSpelt_single hf.2⟩
  case h_3 => exact agree_readAll hc.toAligned "LIST" (parallel_listFormat hc.toAligned)
  case h_4 => exact agree_readAll hc.toAligned "TABLE" (parallel_tableFields hc)

theorem agree_source (h : SameSegment Same s s')
    (hc : Matching Same Named (s.clause text limit) (s'.clause text' limit)) :
    Agree Same (Shared fun s => s.isStandard = true) (s.source text limit)
      (s'.source text' limit) :=
  (agree_filledClause h hc).bind fun _ _ hm =>
    agree_readAll hm.toAligned "FROM" (Source.parallel_source hm.toAligned)

theorem agree_operation (h : SameSegment Same s s')
    (hc : Matching Same Named (s.clause text limit) (s'.clause text' limit)) :
    Agree Same (AgreeOperation Same Named) (s.operation text limit)
      (s'.operation text' limit) := by
  refine (agree_filledClause h hc).bind fun c c' hm => ?_
  rw [hc.kind h.1, hc.text h.1]
  have ha := hm.toAligned
  have hexpression := agree_readAll ha s.keyword.text (Expr.parallel_expression ha)
  have hfield := agree_readAll ha s.keyword.text (Expr.parallel_namedField hm)
  have hplain : ∀ {make : Expr → Operation}, (∀ e, (make e).fields = []) →
      (∀ e, (make e).expressions = [e]) → ∀ e e', Shared (Expr.IsSpelt (Expr.Known Same)) e e' →
        AgreeOperation Same Named (make e) (make e') := by
    rintro make hnone hmake e _ ⟨rfl, he⟩
    refine ⟨.same (hnone e), ?_⟩
    rw [hmake]
    exact allSpelt_single he
  split
  case h_1 => exact hexpression.made (hplain (fun _ => rfl) fun _ => rfl)
  case h_2 =>
      have hkeys := Reader.parallel_shared hm.toFaithful (parallel_sortField ha)
      refine (agree_readAll ha s.keyword.text hkeys).made ?_
      rintro fs _ ⟨rfl, hfs⟩
      exact ⟨.same rfl, by simpa [AllSpelt, Operation.expressions] using hfs⟩
  case h_3 => exact hexpression.made (hplain (fun _ => rfl) fun _ => rfl)
  case h_4 => exact hfield.made fun _ _ hf => ⟨.group hf.1, allSpelt_single hf.2⟩
  case h_5 => exact hfield.made fun _ _ hf => ⟨.flatten hf.1, allSpelt_single hf.2⟩

end Agree

end Segment

/-! ## Queries -/

section Agree

/-- Two texts in which corresponding tokens have the same kind and text, and which give
corresponding names to what stands from one to another. -/
structure Concordant (Same : Token → Token → Prop) (Named : String → String → Prop)
    (s s' : String) : Prop extends Faithful Same where
  between : ∀ (limit : Int) {body body' : List Token} {t t' u u' : Token},
    List.Forall₂ Same body body' → Same t t' → Same u u' →
      Named ((Clause.ofTokens s limit body).textBetween t u)
        ((Clause.ofTokens s' limit body').textBetween t' u')

variable {Same : Token → Token → Prop} {Named : String → String → Prop} {text text' : String}

theorem matching_ofTokens (h : Concordant Same Named text text') (limit : Int)
    {body body' : List Token} (hbody : List.Forall₂ Same body body') :
    Matching Same Named (Clause.ofTokens text limit body)
      (Clause.ofTokens text' limit body') where
  toFaithful := h.toFaithful
  limit := rfl
  between := h.between limit hbody
  tokens := by
    show List.Forall₂ Same (body.takeWhile _) (body'.takeWhile _)
    induction hbody with
    | nil => exact .nil
    | @cons t t' ts ts' ht _ ih =>
        rw [List.takeWhile_cons, List.takeWhile_cons, h.kind ht]
        split
        case isTrue => exact .cons ht ih
        case isFalse => exact .nil

/-- The source and the operations of two readings, the same but for names. -/
structure Segment.AgreeClauses (Same : Token → Token → Prop) (Named : String → String → Prop)
    (x x' : Option Source × List Operation) : Prop where
  source : x'.1 = x.1
  isStandard : ∀ s ∈ x.1, s.isStandard = true
  operations : List.Forall₂ (AgreeOperation Same Named) x.2 x'.2

theorem Segment.agree_clauses (h : Concordant Same Named text text') (limit : Int)
    {ss ss' : List Segment} (hss : List.Forall₂ (SameSegment Same) ss ss') {found : Option Source}
    (hfound : ∀ s ∈ found, s.isStandard = true) :
    Agree Same (AgreeClauses Same Named) (clauses text limit found ss)
      (clauses text' limit found ss') := by
  induction hss generalizing found with
  | nil => exact .ok ⟨rfl, hfound, .nil⟩
  | @cons s s' ss ss' hs hss ih =>
      have hc := matching_ofTokens h limit hs.2
      rw [clauses.eq_def, clauses.eq_def]
      dsimp only
      rw [h.kind hs.1]
      split
      case isTrue =>
          cases found with
          | some src => exact .malformed _ _
          | none =>
              refine (agree_source hs hc).bind ?_
              rintro src _ ⟨rfl, hsrc⟩
              exact ih (by simpa using hsrc)
      case isFalse =>
          refine (agree_operation hs hc).bind fun op op' hop => ?_
          refine (ih hfound).bind fun x x' hx => ?_
          exact .ok ⟨hx.source, hx.isStandard, .cons hop hx.operations⟩

/-- Readings of corresponding tokens give the same query but for its names, or fail both.  Its
leaves are spelt by the tokens, and its sources are joined by conjunction and disjunction only. -/
theorem Query.agree_ofTokens (h : Concordant Same Named text text') (limit : Int)
    {tokens tokens' : List Token}
    (hwhole : List.Forall₂ Same (Clause.ofTokens text limit tokens).tokens
      (Clause.ofTokens text' limit tokens').tokens) :
    Agree Same (fun q q' => q.Renamed Named q' ∧ AllSpelt Same q.expressions ∧
        q.source.isStandard = true)
      (ofTokens text limit tokens) (ofTokens text' limit tokens') := by
  rw [ofTokens, ofTokens]
  dsimp only
  generalize (Clause.ofTokens text limit tokens).tokens = ws at hwhole ⊢
  generalize (Clause.ofTokens text' limit tokens').tokens = ws' at hwhole ⊢
  cases hwhole with
  | nil => exact .malformed _ _
  | @cons first first' rest rest' hfirst hrest =>
      dsimp only
      rw [h.kind hfirst]
      split
      case isFalse => exact .malformed _ _
      case isTrue =>
      refine (Segment.agree_cut h.toFaithful text text' hrest .nil hfirst .nil).bind ?_
      intro segments segments' hsegments
      cases hsegments with
      | nil =>
          exact .ok ⟨⟨.same rfl, rfl, .nil⟩,
            by simp [AllSpelt, Query.expressions, Header.expressions], rfl⟩
      | @cons head head' tail tail' hhead htail =>
          refine (Segment.agree_header hhead (matching_ofTokens h limit hhead.2)).bind ?_
          intro header header' hheader
          have hnone : ∀ s ∈ (none : Option Source), s.isStandard = true := by simp
          refine (Segment.agree_clauses h limit htail hnone).bind ?_
          rintro ⟨found, operations⟩ ⟨found', operations'⟩ ⟨hsource, hfound, hoperations⟩
          obtain rfl : found' = found := hsource
          refine .ok ⟨⟨hheader.1, rfl, hoperations.imp fun _ _ hop => hop.1⟩, ?_, ?_⟩
          · exact List.forall_mem_append.mpr ⟨hheader.2, Segment.allSpelt_flatMap hoperations⟩
          · cases found' with
            | none => rfl
            | some s => exact hfound s rfl

end Agree

end VaultQuery
