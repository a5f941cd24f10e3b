import VaultQuery.Proofs.Expr.Lower
import VaultQuery.Proofs.Term.Regroup
import VaultQuery.Proofs.Vocabulary

/-!
The text of an expression reads as the expression.  `Expr.term` is what an expression means in the
expression language of a base: the same tree, with operators, properties and functions under the
names that a base has for them.  `baseText_reads_as_term` says that the text which is written for an
expression is read back as that term, up to the grouping of conjunctions under conjunctions and of
disjunctions under disjunctions, so no parenthesis is missing or misplaced.
-/

namespace VaultQuery

namespace Vocabulary

/-- The name of a function in a call of a base: links have one spelling. -/
def callName (name : String) : String :=
  if Text.lowerCase name == "link" then "link" else function name

end Vocabulary

namespace Expr

/-! ## Expressions without rewriting of their own -/

/-- The question whether a page has a tag, which a base asks with a call of its own. -/
def isTagQuestion (name : String) : List Expr → Bool
  | [tags, .literal (.text _)] => Text.lowerCase name == "contains" && tags.isTags
  | _ => false

/-- A call that keeps its form: neither a date, a duration, a question about emptiness nor one about
tags. -/
def isPlainCall (name : String) (args : List Expr) : Bool :=
  Sign.isWordText name && !(["date", "dur", "notempty"].contains (Text.lowerCase name)) &&
    !isTagQuestion name args

mutual

/-- An expression that keeps its form in a base: built from named variables, chains of their
properties, texts, truth values, null, natural numbers, lists, negations, operations and calls that
have no rewriting of their own. -/
def isPlain : Expr → Bool
  | .var name => Vocabulary.isIdentifier name && !(["true", "false", "null"].contains name)
  | .literal .null | .literal (.bool _) | .literal (.text _) => true
  | .literal (.number (.int n)) => 0 ≤ n
  | .index object (.literal (.text key)) =>
    isPlain object && !object.isFormula && Vocabulary.isIdentifier key &&
      !Vocabulary.dateParts.contains (Text.lowerCase key)
  | .binary op left right => BinOp.standard.contains op && isPlain left && isPlain right
  | .call name args => isPlainCall name args && allPlain args
  | .negated child => isPlain child
  | .list items => allPlain items
  | _ => false

/-- Several expressions that keep their form. -/
def allPlain : List Expr → Bool
  | [] => true
  | e :: es => isPlain e && allPlain es

end

/-! ## What an expression means -/

/-- The path of a chain of properties. -/
def path : Expr → String
  | .var name => name
  | .index object (.literal (.text key)) => path object ++ "." ++ key
  | _ => ""

mutual

/-- The expression as a term of a base, where `rename` gives the names of functions. -/
def term (rename : String → String) : Expr → Term
  | .var name => .name (Vocabulary.property name)
  | .literal (.bool b) => .bool b
  | .literal (.number (.int n)) => .number n.toNat
  | .literal (.text s) => .text s
  | .index object (.literal (.text key)) =>
    .member (term rename object) (Vocabulary.partName object.path key)
  | .index object key => .item (term rename object) (term rename key)
  | .binary op left right => .binary op.baseSymbol (term rename left) (term rename right)
  | .call name args => .call (rename name) (terms rename args)
  | .negated child => .not (term rename child)
  | .list items => .list (terms rename items)
  | _ => .null

/-- Several expressions as terms. -/
def terms (rename : String → String) : List Expr → List Term
  | [] => []
  | e :: es => term rename e :: terms rename es

end

/-! ## Operands -/

/-- The rank at which the text of an expression is written. -/
def rank : Expr → Nat
  | .binary op _ _ => 7 - op.precedence
  | _ => 0

theorem precedence_of_standard {op : BinOp} (h : BinOp.standard.contains op = true) :
    1 ≤ op.precedence ∧ op.precedence ≤ 5 := by
  cases op with
  | other symbol => simp [BinOp.standard] at h
  | _ => decide

theorem rank?_baseSymbol {op : BinOp} (h : BinOp.standard.contains op = true) :
    Term.rank? op.baseSymbol = some (6 - op.precedence + 1) := by
  cases op with
  | other symbol => simp [BinOp.standard] at h
  | _ => rfl

theorem precedence_of_not_isLogical {op : BinOp} (h : BinOp.standard.contains op = true)
    (hop : op.isLogical = false) : 3 ≤ op.precedence := by
  cases op with
  | other symbol => simp [BinOp.standard] at h
  | and => cases hop
  | or => cases hop
  | _ => decide

end Expr

namespace Condition

/-- The operator that stands between the members of a group. -/
def symbol : Connective → String
  | .or => "||"
  | _ => "&&"

theorem isJunction_symbol (c : Connective) : Term.isJunction (symbol c) = true := by
  cases c <;> rfl

theorem inline_junction {c : Connective} (hc : c ≠ .not) (members : List Condition) :
    inline (.group c members) =
      "(" ++ String.intercalate (" " ++ symbol c ++ " ") (inlineAll members) ++ ")" := by
  cases c with
  | not => exact absurd rfl hc
  | _ => rfl

theorem inlineAll_eq_map (members : List Condition) : inlineAll members = members.map inline := by
  induction members with
  | nil => rfl
  | cons m ms ih => rw [inlineAll, ih, List.map_cons]

theorem head_inline_group (c : Connective) (members : List Condition) :
    (inline (.group c members)).toList.head? ≠ some '=' := by
  match c, members with
  | .and, _ => simp [inline]
  | .or, _ => simp [inline]
  | .not, [] => simp [inline]
  | .not, [.leaf _] => simp [inline]
  | .not, [.group _ _] => simp [inline]
  | .not, _ :: _ :: _ => simp [inline]

theorem inline_negation (members : List Condition) :
    ∃ s, inline (.group .not members) = "!" ++ s ∧ s.toList.head? ≠ some '=' := by
  match members with
  | [.leaf text] =>
      exact ⟨"(" ++ text ++ ")", by simp [inline, ← String.toList_inj], by simp⟩
  | [.group c members] => exact ⟨inline (.group c members), rfl, head_inline_group c members⟩
  | [] => exact ⟨"()", rfl, by decide⟩
  | f :: g :: fs =>
      refine ⟨"(" ++ String.intercalate " && " (inlineAll (f :: g :: fs)) ++ ")", ?_, by simp⟩
      simp [inline, ← String.toList_inj]

/-- `Renders k c t`: a filter shows a term.  A condition is a text of rank `k`, a negation is read
as one expression, and the members of any other group are operands of one chain. -/
inductive Renders (k : Nat) : Condition → Term → Prop
  | leaf {text : String} {t : Term} : Term.Shows k text t → Renders k (.leaf text) t
  | negation {members : List Condition} {t : Term} :
      Term.Shows 1 (inline (.group .not members)) t → Renders k (.group .not members) t
  | junction {c : Connective} {members : List Condition} {ts : List Term} {t : Term} :
      c ≠ .not → ts ≠ [] →
      List.Forall₂ (fun m u => Term.Shows 4 (inline m) u) members ts →
      (Term.chain (symbol c) ts).regrouped = t.regrouped → Renders k (.group c members) t

theorem Renders.shows_junction {k : Nat} {c : Connective} (hc : c ≠ .not)
    {members : List Condition} {t : Term} (h : Renders k (.group c members) t) :
    Term.Shows 0 (inline (.group c members)) t := by
  cases h with
  | negation => exact absurd rfl hc
  | @junction _ _ ts _ _ hne hall ht =>
      have htexts : List.Forall₂ (Term.Shows 4) (inlineAll members) ts := by
        rw [inlineAll_eq_map, List.forall₂_map_left_iff]
        exact hall
      have hchain : Term.Shows Term.loosest
          (String.intercalate (" " ++ symbol c ++ " ") (inlineAll members))
          (Term.chain (symbol c) ts) := by
        cases c with
        | not => exact absurd rfl hc
        | and => exact (Term.shows_chain rfl rfl hne htexts).mono (by decide)
        | or => exact Term.shows_chain rfl rfl hne (htexts.imp fun _ _ h => h.mono (by decide))
      obtain ⟨u, hu, hr⟩ := hchain.paren (Nat.le_refl _)
      rw [inline_junction hc]
      exact ⟨u, hu, hr.trans ht⟩

theorem Renders.shows_group {k : Nat} {c : Connective} {members : List Condition} {t : Term}
    (h : Renders k (.group c members) t) : Term.Shows 1 (inline (.group c members)) t := by
  by_cases hc : c = .not
  · subst hc
    cases h with
    | negation h => exact h
    | junction hc => exact absurd rfl hc
  · exact (h.shows_junction hc).mono (by decide)

theorem Renders.shows {j k : Nat} {f : Condition} {t : Term} (h : Renders k f t) (hk : k ≤ j)
    (hj : 1 ≤ j) : Term.Shows j f.inline t := by
  cases f with
  | leaf text =>
      cases h with
      | leaf h => exact h.mono hk
  | group c members => exact h.shows_group.mono hj

/-- The members that a filter adds to a group form a chain of its term. -/
theorem Renders.spread {k : Nat} (hk : k ≤ 4) {f : Condition} {t : Term} (h : Renders k f t)
    {c : Connective} (hc : c ≠ .not) :
    ∃ ts, ts ≠ [] ∧ List.Forall₂ (fun m u => Term.Shows 4 (inline m) u) (f.spread c) ts ∧
      (Term.chain (symbol c) ts).regrouped = t.regrouped := by
  cases f with
  | leaf text =>
      cases h with
      | leaf h => exact ⟨[t], by simp, .cons (h.mono hk) .nil, rfl⟩
  | group c' members =>
      by_cases heq : c' = c
      · subst heq
        cases h with
        | negation => exact absurd rfl hc
        | junction _ hne hall ht =>
            rw [Filter.spread, if_pos rfl]
            exact ⟨_, hne, hall, ht⟩
      · rw [Filter.spread, if_neg heq]
        exact ⟨[t], by simp, .cons (h.shows_group.mono (by decide)) .nil, rfl⟩

theorem Renders.join {j k k' : Nat} (hk : k ≤ 4) (hk' : k' ≤ 4) {f g : Condition} {t u : Term}
    (hf : Renders k f t) (hg : Renders k' g u) {c : Connective} (hc : c ≠ .not) :
    Renders j (f.join c g) (.binary (symbol c) t u) := by
  obtain ⟨ts, hts, hf, ht⟩ := hf.spread hk hc
  obtain ⟨us, hus, hg, hu⟩ := hg.spread hk' hc
  refine .junction hc (by simp [hts]) (List.rel_append hf hg) ?_
  rw [Term.regrouped_chain_append (isJunction_symbol c) hts hus, ht, hu, Term.regrouped,
    if_pos (isJunction_symbol c)]

end Condition

namespace Expr

open Condition (Renders)

theorem rank_le_loosest {e : Expr} (h : e.isPlain = true) : e.rank ≤ Term.loosest := by
  cases e with
  | binary op left right =>
      rw [isPlain, Bool.and_eq_true, Bool.and_eq_true] at h
      have hop := precedence_of_standard h.1.1
      simp only [rank, Term.loosest]
      omega
  | _ => exact Nat.zero_le _

theorem operand_group (e : Expr) (c : Connective) (members : List Condition) (p : Nat)
    (onRight : Bool) :
    operand e (.group c members) p onRight = Condition.inline (.group c members) := by
  cases e <;> rfl

/-- An operand is written so that it binds as tightly as its place asks for: on the left at the rank
of its parent, and on the right one rank tighter. -/
theorem operand_shows {e : Expr} (he : e.isPlain = true) {value : Condition} {t : Term}
    (h : Renders e.rank value t) {p : Nat} (hp : p ≤ 5) (onRight : Bool) :
    Term.Shows ((if onRight then 6 else 7) - p) (operand e value p onRight) t := by
  have hplace : 1 ≤ (if onRight then 6 else 7) - p := by split <;> omega
  cases value with
  | group c members =>
      rw [operand_group]
      exact h.shows_group.mono hplace
  | leaf text =>
      cases h with
      | leaf h =>
          cases e with
          | binary op left right =>
              simp only [operand]
              by_cases hprec : (op.precedence < p || onRight && op.precedence == p) = true
              · rw [if_pos hprec]
                exact (h.paren (rank_le_loosest he)).mono (Nat.zero_le _)
              · rw [if_neg hprec]
                refine h.mono ?_
                cases onRight <;> simp [rank] at hprec ⊢ <;> omega
          | _ => exact h.mono (Nat.zero_le _)

/-- The members of a group bind tighter than any logical operator. -/
theorem member_renders {e : Expr} (he : e.isPlain = true) {value : Condition} {t : Term}
    (h : Renders e.rank value t) : ∃ k ≤ 4, Renders k (member e value) t := by
  cases value with
  | group c members =>
      refine ⟨0, by decide, ?_⟩
      cases h with
      | negation h => exact .negation h
      | junction hc hne hall ht => exact .junction hc hne hall ht
  | leaf text =>
      cases h with
      | leaf h =>
          simp only [member]
          split
          case isTrue => exact ⟨0, by decide, .leaf (h.paren (rank_le_loosest he))⟩
          case isFalse hlogical =>
              refine ⟨e.rank, ?_, .leaf h⟩
              cases e with
              | binary op left right =>
                  rw [isPlain, Bool.and_eq_true, Bool.and_eq_true] at he
                  have hop : op.isLogical = false := by simpa [Expr.isLogical] using hlogical
                  have hprec := precedence_of_not_isLogical he.1.1 hop
                  simp only [rank]
                  omega
              | _ => exact Nat.zero_le _

theorem leftText_shows {e : Expr} (he : e.isPlain = true) {value : Condition} {t : Term}
    (h : Renders e.rank value t) {p : Nat} (hp : p ≤ 5) :
    Term.Shows (7 - p) (leftText p e value) t := by
  unfold leftText
  split
  case isFalse => exact operand_shows he h hp false
  case isTrue hc =>
      refine h.shows ?_ (by omega)
      cases e with
      | binary op left right =>
          simp only [continues, Bool.and_eq_true, beq_iff_eq] at hc
          rw [rank, hc.2]
      | _ => simp [continues] at hc

/-- Two operands of a logical operator, as one text or as the members of a group. -/
theorem logicalPair_renders {op : BinOp} (hop : op.isLogical = true) {left right : Expr}
    (hl : left.isPlain = true) (hr : right.isPlain = true) {value rightValue : Condition}
    {t u : Term} (ht : Renders left.rank value t) (hu : Renders right.rank rightValue u) :
    Renders (rank (.binary op left right)) (logicalPair op left right value rightValue)
      (.binary op.baseSymbol t u) := by
  have hsymbol : op.baseSymbol = Condition.symbol (connective op) ∧ connective op ≠ .not := by
    cases op <;> first | exact ⟨rfl, by decide⟩ | cases hop
  unfold logicalPair
  split
  case isTrue =>
      obtain ⟨k, hk, hvalue⟩ := member_renders hl ht
      obtain ⟨k', hk', hright⟩ := member_renders hr hu
      rw [hsymbol.1]
      exact hvalue.join hk hk' hright hsymbol.2
  case isFalse =>
      have hstandard : BinOp.standard.contains op = true := by
        cases op <;> first | rfl | cases hop
      have hprec := precedence_of_standard hstandard
      have hrank : rank (.binary op left right) = 6 - op.precedence + 1 := by
        simp only [rank]
        omega
      have hleft := operand_shows hl ht hprec.2 false
      have hright := operand_shows hr hu hprec.2 true
      rw [hrank]
      exact .leaf (.binary (rank?_baseSymbol hstandard) (hleft.mono (by simp; omega)) hright)

/-! ## Paths -/

/-- What the text of a chain of properties is like: no further renaming touches it. -/
structure IsPathText (e : Expr) (s : String) : Prop where
  untouched : Vocabulary.IsUntouched s
  file : s = "file" ↔ e.path = "file"

theorem ne_file_of_point {s : String} (h : '.' ∈ s.toList) : s ≠ "file" := by
  rintro rfl
  exact absurd h (by decide)

theorem IsPathText.part {object : Expr} {s : String} (h : IsPathText object s) {word : String}
    (hword : Sign.isWordText word = true) (key : String) :
    IsPathText (.index object (.literal (.text key))) (s ++ "." ++ word) where
  untouched := by
    obtain ⟨hdash, hfront⟩ := h.untouched
    have hword : '-' ∉ word.toList := fun hmem =>
      absurd (Sign.isWord_of_mem_isWordText hword hmem) (by decide)
    have hpoint : Text.isBlank '.' = false := by decide
    refine ⟨by simp [hdash, hword], ?_⟩
    cases hs : s.toList with
    | nil => simp [hs, hpoint]
    | cons c cs => simpa [hs] using hfront c (by simp [hs])
  file := iff_of_false (ne_file_of_point (by simp)) (ne_file_of_point (by simp [path]))

theorem partText_of_isIdentifier {key : String} (hkey : Vocabulary.isIdentifier key = true)
    (hdate : Vocabulary.dateParts.contains (Text.lowerCase key) = false) (object bare : String) :
    partText object bare key = Vocabulary.property (object ++ "." ++ key) := by
  simp only [partText, hdate, Vocabulary.isPlainKey_of_isIdentifier hkey, if_true,
    Bool.false_eq_true, if_false]

theorem objectText_leaf {e : Expr} (h : e.isFormula = false) (text : String) :
    objectText e (.leaf text) = text := by
  cases e with
  | var name => rfl
  | index object key => rfl
  | _ => simp [isFormula] at h

/-- A chain of properties is written as its path, one property at a time. -/
theorem lower_path (rename : String → String) {limit : Nat} (e : Expr) {place : Place}
    {depth : Nat} {c : Condition} (hplain : e.isPlain = true) (hpath : e.isFormula = false)
    (h : lower limit place depth e = .ok c) :
    ∃ s, c = .leaf s ∧ Term.Written 0 s (e.term rename) ∧ IsPathText e s := by
  match e with
  | .var name =>
      simp only [isPlain, Bool.and_eq_true, Bool.not_eq_true'] at hplain
      obtain ⟨hname, hreserved⟩ := hplain
      have hword := Vocabulary.isWordText_underscored hname
      have hofWord : Term.ofWord (Vocabulary.underscored name) =
          .name (Vocabulary.underscored name) := by
        simp only [List.contains_cons, List.contains_nil, Bool.or_false, Bool.or_eq_false_iff,
          beq_eq_false_iff_ne] at hreserved
        simp only [Term.ofWord, Vocabulary.underscored_eq_iff (t := "true") (by decide) (by decide),
          Vocabulary.underscored_eq_iff (t := "false") (by decide) (by decide),
          Vocabulary.underscored_eq_iff (t := "null") (by decide) (by decide), hreserved, if_false]
      obtain rfl := of_lower_var h
      rw [Vocabulary.property_isIdentifier hname, term, Vocabulary.property_isIdentifier hname]
      refine ⟨_, rfl, hofWord ▸ Term.written_word hword, ?_⟩
      exact {
        untouched := ⟨Vocabulary.dash_notMem_underscored name, fun c hc =>
          Text.isBlank_eq_false_of_isWord
            (Sign.isWord_of_mem_isWordText hword (List.mem_of_head? hc))⟩
        file := Vocabulary.underscored_eq_iff (by decide) (by decide) }
  | .index object (.literal (.text key)) =>
      simp only [isPlain, Bool.and_eq_true, Bool.not_eq_true'] at hplain
      obtain ⟨⟨⟨hobject, hformula⟩, hkey⟩, hdate⟩ := hplain
      obtain ⟨raw, hraw, rfl⟩ := of_lower_part h
      obtain ⟨s, rfl, hs, htext⟩ := lower_path rename object hobject hformula hraw
      have hproperty := (Vocabulary.property_part_eq_iff hkey).mpr htext.untouched
      rw [objectText_leaf hformula, partText_of_isIdentifier hkey hdate, hproperty]
      refine ⟨_, rfl, ?_, ?_⟩
      · rw [term, ← Vocabulary.partName_congr htext.file]
        exact hs.member (Vocabulary.isWordText_partName s hkey)
      · exact htext.part (Vocabulary.isWordText_partName s hkey) key

/-! ## Calls -/

theorem specialCall?_of_isPlainCall {name : String} {args : List Expr}
    (h : isPlainCall name args = true) : specialCall? name args = .ok none := by
  simp only [isPlainCall, Bool.and_eq_true, Bool.not_eq_true', List.contains_cons,
    List.contains_nil, Bool.or_false, Bool.or_eq_false_iff] at h
  obtain ⟨⟨-, hdate, hdur, -⟩, htags⟩ := h
  unfold specialCall?
  simp only [hdate, hdur, Bool.false_eq_true, if_false]
  split
  case isFalse => rfl
  case isTrue hcontains =>
      split
      case h_2 => rfl
      case h_1 tags tag =>
          simp only [isTagQuestion, hcontains, Bool.true_and] at htags
          rw [htags]
          rfl

theorem isWordText_function {name : String} (h : Sign.isWordText name = true) :
    Sign.isWordText (Vocabulary.function name) = true := by
  have htable : ∀ p ∈ Vocabulary.functions, Sign.isWordText p.2 = true := by decide
  unfold Vocabulary.function
  cases hl : Vocabulary.functions.lookup (Text.lowerCase name) with
  | none => exact h
  | some mapped =>
      obtain ⟨front, back, hsplit, -⟩ := List.lookup_eq_some_iff.mp hl
      exact htable (Text.lowerCase name, mapped) (by simp [hsplit])

theorem callText_of_isPlainCall {name : String} {args : List Expr}
    (h : isPlainCall name args = true) (texts : List String) :
    callText name texts =
        Vocabulary.callName name ++ "(" ++ String.intercalate ", " texts ++ ")" ∧
      Sign.isWordText (Vocabulary.callName name) = true := by
  simp only [isPlainCall, Bool.and_eq_true, Bool.not_eq_true', List.contains_cons,
    List.contains_nil, Bool.or_false, Bool.or_eq_false_iff] at h
  obtain ⟨⟨hword, -, -, hempty⟩, -⟩ := h
  refine ⟨by simp only [callText, Vocabulary.callName, hempty, Bool.false_eq_true, if_false], ?_⟩
  unfold Vocabulary.callName
  split
  · decide
  · exact isWordText_function hword

theorem duration?_of_isPlain {e : Expr} (h : e.isPlain = true) : e.duration? = .ok none := by
  fun_cases duration? e <;> simp_all [isPlain, isPlainCall]

theorem literalText_shows {n : Int} (hn : 0 ≤ n) {text : String}
    (h : literalText (.number (.int n)) = .ok text) : Term.Shows 0 text (.number n.toNat) := by
  have hdigits : (Number.int n).text = String.ofList (Nat.toDigits 10 n.toNat) := by
    have habs : n.natAbs = n.toNat := by omega
    rw [Number.text, intText, if_neg (by omega), habs]
  rw [literalText, hdigits] at h
  split at h
  case isTrue => cases h
  case isFalse =>
      obtain rfl := Except.ok.inj h
      exact (Term.written_number n.toNat).shows

/-! ## The whole expression -/

mutual

/-- The condition of an expression that keeps its form shows the term of the expression. -/
theorem lower_renders {limit : Nat} (e : Expr) {place : Place} {depth : Nat} {c : Condition}
    (hplain : e.isPlain = true) (h : lower limit place depth e = .ok c) :
    Renders e.rank c (e.term Vocabulary.callName) := by
  match e with
  | .var name =>
      obtain ⟨s, rfl, hs, -⟩ := lower_path Vocabulary.callName (.var name) hplain rfl h
      exact .leaf hs.shows
  | .index object (.literal (.text key)) =>
      have hpath : object.isFormula = false := by
        simp only [isPlain, Bool.and_eq_true, Bool.not_eq_true'] at hplain
        exact hplain.1.1.2
      obtain ⟨s, rfl, hs, -⟩ := lower_path Vocabulary.callName _ hplain hpath h
      exact .leaf hs.shows
  | .literal .null =>
      obtain ⟨text, ht, rfl⟩ := of_lower_literal h
      obtain rfl := Except.ok.inj ht
      exact .leaf (Term.written_word (by decide)).shows
  | .literal (.bool b) =>
      obtain ⟨text, ht, rfl⟩ := of_lower_literal h
      obtain rfl := Except.ok.inj ht
      cases b <;> exact .leaf (Term.written_word (by decide)).shows
  | .literal (.text s) =>
      obtain ⟨text, ht, rfl⟩ := of_lower_literal h
      obtain rfl := Except.ok.inj ht
      exact .leaf (Term.written_quote s).shows
  | .literal (.number (.int n)) =>
      obtain ⟨text, ht, rfl⟩ := of_lower_literal h
      exact .leaf (literalText_shows (of_decide_eq_true hplain) ht)
  | .binary op left right =>
      simp only [isPlain, Bool.and_eq_true] at hplain
      obtain ⟨⟨hstandard, hl⟩, hr⟩ := hplain
      cases hop : op.isLogical with
      | true =>
          obtain ⟨value, rightValue, hv, hw, rfl⟩ := of_lower_logical hop h
          exact logicalPair_renders hop hl hr (lower_renders left hl hv) (lower_renders right hr hw)
      | false =>
          obtain ⟨value, rightValue, hv, hw, rfl⟩ :=
            of_lower_operation hop (duration?_of_isPlain hr) h
          have hprec := precedence_of_standard hstandard
          have hleft := leftText_shows hl (lower_renders left hl hv) hprec.2
          have hright := operand_shows hr (lower_renders right hr hw) hprec.2 true
          have hrank : rank (.binary op left right) = 6 - op.precedence + 1 := by
            simp only [rank]
            omega
          rw [hrank]
          exact .leaf (.binary (rank?_baseSymbol hstandard) (hleft.mono (by omega)) hright)
  | .call name args =>
      simp only [isPlain, Bool.and_eq_true] at hplain
      obtain ⟨hcall, hargs⟩ := hplain
      rcases of_lower_call h with ⟨text, hs, -⟩ | ⟨texts, -, ht, rfl⟩
      · rw [specialCall?_of_isPlainCall hcall] at hs
        cases hs
      · obtain ⟨htext, hword⟩ := callText_of_isPlainCall hcall texts
        rw [htext]
        exact .leaf (Term.shows_call hword (lowerAll_shows args hargs ht))
  | .negated child =>
      obtain ⟨value, hv, rfl⟩ := of_lower_negated h
      have hchild := lower_renders child hplain hv
      cases value with
      | leaf text =>
          cases hchild with
          | leaf hchild =>
              have hparen := hchild.paren (rank_le_loosest hplain)
              have htext : Condition.inline (.group .not [.leaf text]) =
                  "!" ++ ("(" ++ text ++ ")") := by
                simp [Condition.inline, ← String.toList_inj]
              refine .negation ?_
              rw [htext]
              exact (hparen.mono (by decide)).not (by simp)
      | group c members =>
          exact .negation (hchild.shows_group.not (Condition.head_inline_group c members))
  | .list items =>
      obtain ⟨texts, ht, rfl⟩ := of_lower_list h
      exact .leaf (Term.shows_list (lowerAll_shows items hplain ht))

theorem lowerAll_shows {limit : Nat} (es : List Expr) {depth : Nat} {texts : List String}
    (hplain : allPlain es = true) (h : lowerAll limit depth es = .ok texts) :
    List.Forall₂ (Term.Shows Term.loosest) texts (terms Vocabulary.callName es) := by
  match es with
  | [] =>
      obtain rfl := Except.ok.inj h
      exact .nil
  | e :: es =>
      simp only [allPlain, Bool.and_eq_true] at hplain
      obtain ⟨value, rest, hv, hr, rfl⟩ := of_lowerAll_cons h
      have hhead := lower_renders e hplain.1 hv
      exact .cons (hhead.shows (rank_le_loosest hplain.1) (by decide))
        (lowerAll_shows es hplain.2 hr)

end

/-- The text of an expression is read back as the expression, up to the grouping of conjunctions
under conjunctions and of disjunctions under disjunctions. -/
theorem baseText_reads_as_term {limit depth : Nat} {e : Expr} {text : String}
    (hplain : e.isPlain = true) (h : e.baseText limit depth = .ok text) :
    ∃ t, Term.read? text = some t ∧
      t.regrouped = (e.term Vocabulary.callName).regrouped := by
  unfold baseText at h
  cases hc : e.condition limit depth with
  | error fault =>
      rw [hc] at h
      cases h
  | ok c =>
      rw [hc] at h
      obtain rfl := Except.ok.inj h
      obtain ⟨t, ht, hreg⟩ := (lower_renders e hplain hc).shows (rank_le_loosest hplain) (by decide)
      exact ⟨t, Term.read?_eq_some_iff.mpr ht, hreg⟩

/-- A conjunction of three members that is nested to the right. -/
def nestedConjunction : Expr :=
  .binary .and (.binary .gt (.var "x-y") (.literal (.number (.int 1))))
    (.binary .and (.negated (.binary .or (.var "b") (.var "c")))
      (.binary .lt
        (.binary .sub (.index (.var "file") (.literal (.text "ext")))
          (.binary .sub (.literal (.number (.int 1))) (.literal (.number (.int 2)))))
        (.call "LINK" [.literal (.text "q"), .list [.var "y"]])))

/-- The text of `nestedConjunction`. -/
def nestedConjunctionText : String :=
  "(x_y > 1 && !(b || c) && file.extension - (1 - 2) < link(\"q\", [y]))"

theorem baseText_reads_as_term_nested :
    nestedConjunction.isPlain = true ∧
      nestedConjunction.baseText 10 0 = .ok nestedConjunctionText ∧
      ∃ t, Term.read? nestedConjunctionText = some t ∧
        t.regrouped = (nestedConjunction.term Vocabulary.callName).regrouped :=
  ⟨rfl, rfl, @baseText_reads_as_term 10 0 nestedConjunction nestedConjunctionText rfl rfl⟩

/-- A link has one spelling in a base, whatever its case in the query; a function that is not in the
vocabulary keeps its own. -/
theorem link_call_loses_its_case :
    (Expr.call "LINK" [.var "a"]).isPlain = true ∧
      (Expr.call "LINK" [.var "a"]).baseText 10 0 = .ok "link(a)" ∧
      ∀ t, Term.read? "link(a)" = some t →
        t.regrouped ≠ ((Expr.call "LINK" [.var "a"]).term Vocabulary.function).regrouped := by
  refine ⟨rfl, rfl, fun t ht heq => ?_⟩
  have hargs : List.Forall₂ (Term.Written Term.loosest) ["a"] [.name "a"] :=
    .cons ((Term.written_word (w := "a") rfl).mono (by decide)) .nil
  have hcall := (Term.written_call (w := "link") rfl hargs).mono (k := Term.loosest) (by decide)
  have htext : "link" ++ "(" ++ String.intercalate ", " ["a"] ++ ")" = "link(a)" := by decide
  rw [htext, ← Term.read?_eq_some_iff, ht] at hcall
  obtain rfl := Option.some.inj hcall
  have hterm : (Expr.call "LINK" [.var "a"]).term Vocabulary.function =
      .call "LINK" [.name "a"] := rfl
  rw [hterm] at heq
  simp [Term.regrouped] at heq

end Expr

end VaultQuery
