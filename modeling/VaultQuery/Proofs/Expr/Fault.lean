import VaultQuery.Proofs.Expr.Leaf
import VaultQuery.Proofs.Expr.Plain
import VaultQuery.Proofs.Token.Shape

/-!
How the lowering of an expression can fail.  Without a limit only a numeral that is too long and a
leaf that does not belong there stand in its way (`onlyFaults_plain`), and a limit adds the
obstacles of its depth (`onlyFaults_lower`).  And only a number is written as an integer
(`isWorded_of_lower`), so a limit that is no number is never read as one.
-/

namespace VaultQuery

/-! ## Faults -/

section OnlyFaults

variable {α β : Type} {P : Fault → Prop}

/-- Every fault of a result has a property. -/
def OnlyFaults (P : Fault → Prop) (x : Except Fault α) : Prop :=
  ∀ f, x = .error f → P f

theorem onlyFaults_ok (a : α) : OnlyFaults P (.ok a : Except Fault α) :=
  nofun

theorem onlyFaults_error {f : Fault} (h : P f) : OnlyFaults P (.error f : Except Fault α) := by
  rintro _ ⟨rfl⟩
  exact h

theorem OnlyFaults.bind {x : Except Fault α} {f : α → Except Fault β} (hx : OnlyFaults P x)
    (hf : ∀ a, x = .ok a → OnlyFaults P (f a)) : OnlyFaults P (x >>= f) := by
  cases x with
  | ok a => exact hf a rfl
  | error e => exact onlyFaults_error (hx e rfl)

theorem OnlyFaults.map {x : Except Fault α} (hx : OnlyFaults P x) (f : α → β) :
    OnlyFaults P (x.map f) := by
  cases x with
  | ok a => exact onlyFaults_ok (f a)
  | error e => exact onlyFaults_error (hx e rfl)

/-- A walk has the faults that it has without a limit, and those of the visits that do not fit. -/
theorem Bounded.onlyFaults {ν : Type} {changes : ν → Nat} {limit : Nat} {visits : List (Nat × ν)}
    {x y : Except Fault α} (h : Bounded changes limit visits x y) (hy : OnlyFaults P y)
    (hdeep : ∀ v ∈ visits, limit < v.1 → P (.obstacle (.tooDeep limit)))
    (hchain : ∀ v ∈ visits, limit < v.1 + changes v.2 → P (.obstacle (.chainTooDeep limit))) :
    OnlyFaults P x := by
  cases h with
  | within => exact hy
  | tooDeep y hv hlt => exact onlyFaults_error (hdeep _ hv hlt)
  | chainTooDeep y hv hlt => exact onlyFaults_error (hchain _ hv hlt)

theorem onlyFaults_numeral {x : Except NumeralFault α}
    (h : (∀ k, P (.numeral k)) ∨ ∃ a, x = .ok a) : OnlyFaults P (x.mapError Fault.numeral) := by
  cases x with
  | ok a => exact onlyFaults_ok a
  | error k =>
      rcases h with h | ⟨a, ha⟩
      · exact onlyFaults_error (h k)
      · cases ha

end OnlyFaults

/-- The faults that an expression can have if no integer of it has more than `n` digits: one of that
many digits may be too long to be read or written. -/
def Fault.Allowed (n : Nat) : Fault → Prop
  | .obstacle _ | .unsupported _ => True
  | .numeral _ => digitLimit ≤ n
  | _ => False

/-! ## Numerals of an expression -/

/-- No integer of a literal has more than `n` digits. -/
def Literal.Within (n : Nat) : Literal → Prop
  | .number k => k.Within n
  | .duration d => d.amount.Within n
  | .text s => ∀ x ∈ Duration.spelled? s, Numeral.integerDigits x.1.toList ≤ n
  | _ => True

namespace Expr

/-- No integer of an expression has more than `n` digits. -/
def Within (n : Nat) (e : Expr) : Prop :=
  ∀ value, .literal value ∈ e.leaves → value.Within n

variable {n : Nat}

/-- What tokens spell has no more digits than they have. -/
theorem within_of_spelt {T : Token → Prop} (hT : ∀ t, T t → t.Lexed ∧ t.integerDigits ≤ n)
    (hn : 1 ≤ n) {value : Literal} (h : Spelt T (.literal value)) : value.Within n := by
  generalize he : Expr.literal value = e at h
  have hread : ∀ {t k}, T t → t.kind = .number → Numeral.read t.text = .ok k → k.Within n := by
    intro t k ht hk hr
    rcases (hT t ht).1.read_number hk with ⟨k', hr', hw⟩ | ⟨-, hr'⟩
    · rw [hr] at hr'
      obtain rfl := Except.ok.inj hr'
      exact hw.mono (hT t ht).2
    · rw [hr] at hr'
      cases hr'
  induction h generalizing value with
  | var => cases he
  | @text t ht hk =>
      cases he
      intro x hx
      have hle := (hT t ht).2
      have hnot : t.kind ≠ .number := by
        rcases hk with hk | hk | hk <;> simp [hk]
      rw [Token.integerDigits, if_neg hnot, Option.mem_def.mp hx] at hle
      exact hle
  | number ht hk hr =>
      cases he
      exact hread ht hk hr
  | duration ht hk hr =>
      cases he
      exact hread ht hk hr
  | null | bool | moment =>
      cases he
      trivial
  | sign =>
      cases he
      exact Nat.one_lt_pow (by omega) (by decide)
  | negNumber _ ih =>
      cases he
      exact Number.Within.neg (ih rfl)
  | negDuration _ ih =>
      cases he
      exact Number.Within.neg (ih rfl)

theorem IsSpelt.within {T : Token → Prop} (hT : ∀ t, T t → t.Lexed ∧ t.integerDigits ≤ n)
    (hn : 1 ≤ n) {e : Expr} (h : e.IsSpelt T) : e.Within n :=
  fun _ hvalue => within_of_spelt hT hn (h _ hvalue)

section Parts

variable {a b : Expr} {op : BinOp} {name : String} {es : List Expr}

theorem Within.literal {value : Literal} (h : (Expr.literal value).Within n) : value.Within n :=
  h value (by simp [leaves])

theorem Within.object (h : (Expr.index a b).Within n) : a.Within n :=
  fun value hvalue => h value (by simp [leaves, hvalue])

theorem Within.key (h : (Expr.index a b).Within n) : b.Within n :=
  fun value hvalue => h value (by simp [leaves, hvalue])

theorem Within.left (h : (Expr.binary op a b).Within n) : a.Within n :=
  fun value hvalue => h value (by simp [leaves, hvalue])

theorem Within.right (h : (Expr.binary op a b).Within n) : b.Within n :=
  fun value hvalue => h value (by simp [leaves, hvalue])

theorem Within.child (h : (Expr.negated a).Within n) : a.Within n :=
  fun value hvalue => h value (by simp [leaves, hvalue])

theorem Within.argument (h : (Expr.call name es).Within n) {e : Expr} (he : e ∈ es) :
    e.Within n :=
  fun value hvalue => h value (by rw [leaves, mem_leavesOf]; exact ⟨e, he, hvalue⟩)

theorem Within.item (h : (Expr.list es).Within n) {e : Expr} (he : e ∈ es) : e.Within n :=
  fun value hvalue => h value (by rw [leaves, mem_leavesOf]; exact ⟨e, he, hvalue⟩)

end Parts

end Expr

/-! ## Numerals that can be written -/

/-- A number with fewer digits than an integer may have, so that it can be written in any unit. -/
def Number.IsShort (k : Number) : Prop :=
  k.Within (digitLimit - 1)

theorem Number.Within.isShort {n : Nat} {k : Number} (h : k.Within n) (hn : n < digitLimit) :
    k.IsShort :=
  h.mono (Nat.le_sub_one_of_lt hn)

theorem Number.IsShort.neg {k : Number} (h : k.IsShort) : k.neg.IsShort :=
  Within.neg h

/-- A literal whose number or duration is short. -/
def Literal.IsShort : Literal → Prop
  | .number k => k.IsShort
  | .duration d => d.amount.IsShort
  | _ => True

namespace Expr

mutual

/-- An expression whose numbers and durations are short, those that a call of `dur` spells
included. -/
def IsShort : Expr → Prop
  | .literal value => value.IsShort
  | .index object key => IsShort object ∧ IsShort key
  | .binary _ left right => IsShort left ∧ IsShort right
  | .call name args =>
    (∀ s, args = [.literal (.text s)] → Text.lowerCase name = "dur" →
      ∀ x ∈ Duration.spelled? s, Numeral.integerDigits x.1.toList < digitLimit) ∧ AllShort args
  | .negated child => IsShort child
  | .list items => AllShort items
  | .var _ | .foreign _ => True

/-- Several expressions whose numbers and durations are short. -/
def AllShort : List Expr → Prop
  | [] => True
  | e :: es => IsShort e ∧ AllShort es

end

mutual

theorem isShort_of_within {n : Nat} (hn : n < digitLimit) (e : Expr) (h : e.Within n) :
    e.IsShort := by
  match e with
  | .var _ | .foreign _ => trivial
  | .literal value =>
      have hvalue := h.literal
      cases value with
      | number k => exact Number.Within.isShort hvalue hn
      | duration d => exact Number.Within.isShort hvalue hn
      | _ => trivial
  | .index object key =>
      exact ⟨isShort_of_within hn object h.object, isShort_of_within hn key h.key⟩
  | .binary op left right =>
      exact ⟨isShort_of_within hn left h.left, isShort_of_within hn right h.right⟩
  | .call name args =>
      refine ⟨?_, allShort_of_within hn args fun e he => h.argument he⟩
      rintro s rfl - x hx
      exact Nat.lt_of_le_of_lt ((h.argument List.mem_cons_self).literal x hx) hn
  | .negated child => exact isShort_of_within hn child h.child
  | .list items => exact allShort_of_within hn items fun e he => h.item he

theorem allShort_of_within {n : Nat} (hn : n < digitLimit) (es : List Expr)
    (h : ∀ e ∈ es, e.Within n) : AllShort es := by
  match es with
  | [] => trivial
  | e :: es =>
      exact ⟨isShort_of_within hn e (h e List.mem_cons_self),
        allShort_of_within hn es fun x hx => h x (List.mem_cons_of_mem e hx)⟩

end

theorem read_spelled {s numeral : String} {unit : TimeUnit}
    (h : Duration.spelled? s = some (numeral, unit)) :
    (∃ k, Numeral.read numeral = .ok k ∧ k.Within (Numeral.integerDigits numeral.toList)) ∨
      digitLimit < Numeral.integerDigits numeral.toList ∧
        Numeral.read numeral = .error (.tooManyDigits (Numeral.integerDigits numeral.toList)) := by
  obtain ⟨⟨numeral', word⟩, hsplit, hrest⟩ := Option.bind_eq_some_iff.mp h
  obtain ⟨unit', -, hpair⟩ := Option.bind_eq_some_iff.mp hrest
  obtain ⟨rfl, rfl⟩ := Prod.mk.inj (Option.some.inj hpair)
  obtain ⟨negative, ds, fs, hds, hne, hfs, rfl⟩ := Duration.plain_of_split? hsplit
  rw [String.toList_ofList]
  exact Numeral.read_plain negative hds hne hfs

/-- It is known which duration a short expression denotes, and that is a short one. -/
theorem exists_duration? {e : Expr} (h : e.IsShort) :
    ∃ r, e.duration? = .ok r ∧ ∀ d ∈ r, d.amount.IsShort := by
  unfold duration?
  split
  case h_1 d =>
      refine ⟨some d, rfl, ?_⟩
      rintro _ ⟨⟩
      exact h
  case h_2 name d =>
      refine ⟨_, rfl, fun d' hd' => ?_⟩
      split at hd'
      case isTrue =>
          cases hd'
          exact h.2.1
      case isFalse => cases hd'
  case h_3 name s =>
      split
      case isFalse => exact ⟨none, rfl, nofun⟩
      case isTrue hname =>
      split
      case h_2 => exact ⟨none, rfl, nofun⟩
      case h_1 numeral unit hspelled =>
          have hlt := h.1 s rfl (eq_of_beq hname) _ hspelled
          rcases read_spelled hspelled with ⟨k, hk, hw⟩ | ⟨hmany, -⟩
          · refine ⟨some ⟨k, unit⟩, by rw [hk]; rfl, ?_⟩
            rintro _ ⟨⟩
            exact hw.isShort hlt
          · exact absurd hmany (Nat.lt_asymm hlt)
  case h_4 => exact ⟨none, rfl, nofun⟩

theorem isShort_of_duration? {e : Expr} (h : e.IsShort) {d : Duration}
    (hd : e.duration? = .ok (some d)) : d.amount.IsShort := by
  obtain ⟨r, hr, hshort⟩ := exists_duration? h
  rw [hd] at hr
  obtain rfl := Except.ok.inj hr
  exact hshort d rfl

/-! ## Faults of the plain lowering -/

section Plain

-- a fault of the kind looked at is excused for all numerals, or else the expression is short
variable {P : Fault → Prop}

theorem onlyFaults_write {d : Duration} (h : (∀ k, P (.numeral k)) ∨ d.amount.IsShort) :
    OnlyFaults P (d.write.mapError Fault.numeral) :=
  onlyFaults_numeral (h.imp_right fun h => ⟨_, Duration.write_eq_ok h (by decide)⟩)

theorem onlyFaults_literalText {value : Literal} (h : (∀ k, P (.numeral k)) ∨ value.IsShort) :
    OnlyFaults P (literalText value) := by
  cases value with
  | null => exact onlyFaults_ok _
  | bool b => exact onlyFaults_ok _
  | text s => exact onlyFaults_ok _
  | moment m => exact onlyFaults_ok _
  | number k =>
      rw [literalText]
      split
      case isFalse => exact onlyFaults_ok _
      case isTrue hlong =>
          rcases h with h | h
          · exact onlyFaults_error (h _)
          · have hwithin : k.Within digitLimit := Number.Within.mono h (by decide)
            rw [Number.isOverlong_of_within hwithin] at hlong
            cases hlong
  | duration d => exact (onlyFaults_write h).map _

theorem onlyFaults_duration? {e : Expr} (h : (∀ k, P (.numeral k)) ∨ e.IsShort) :
    OnlyFaults P (e.duration?.mapError Fault.numeral) := by
  refine onlyFaults_numeral (h.imp_right fun h => ?_)
  obtain ⟨r, hr, -⟩ := exists_duration? h
  exact ⟨r, hr⟩

theorem onlyFaults_specialCall? {name : String} {args : List Expr}
    (h : (∀ k, P (.numeral k)) ∨ (Expr.call name args).IsShort) :
    OnlyFaults P (specialCall? name args) := by
  unfold specialCall?
  dsimp only
  split
  case isTrue =>
      split
      case h_1 => exact onlyFaults_ok _
      case h_2 => exact onlyFaults_ok _
      case h_3 => exact onlyFaults_ok _
      case h_4 => exact onlyFaults_ok _
  case isFalse =>
  split
  case isTrue =>
      refine (onlyFaults_duration? h).bind fun r hr => ?_
      cases r with
      | none => exact onlyFaults_ok _
      | some d =>
          have hshort := h.imp_right fun h => isShort_of_duration? h (mapError_eq_ok.mp hr)
          exact (onlyFaults_write hshort).bind fun _ _ => onlyFaults_ok _
  case isFalse =>
  split
  case isTrue =>
      split
      case h_1 => split <;> exact onlyFaults_ok _
      case h_2 => exact onlyFaults_ok _
  case isFalse => exact onlyFaults_ok _

theorem onlyFaults_shift? (op : BinOp) (left : Expr) {right : Expr}
    (h : (∀ k, P (.numeral k)) ∨ right.IsShort) : OnlyFaults P (shift? op left right) := by
  refine OnlyFaults.map ?_ _
  split
  case isTrue => exact onlyFaults_duration? h
  case isFalse => exact onlyFaults_ok _

theorem duration?_of_shift? {op : BinOp} {left right : Expr} {d : Duration}
    (hd : shift? op left right = .ok (some d)) : right.duration? = .ok (some d) := by
  obtain ⟨moved, hmoved, hdate⟩ := map_eq_ok.mp hd
  split at hdate
  case isFalse => cases hdate
  case isTrue =>
  subst hdate
  split at hmoved
  case isTrue => exact mapError_eq_ok.mp hmoved
  case isFalse => cases hmoved

mutual

/-- An expression has a condition, unless a leaf does not belong in it or a numeral of it is too
long. -/
theorem onlyFaults_plain (e : Expr)
    (hforeign : ∀ node, .foreign node ∈ e.leaves → P (.obstacle (.foreignField node.label)))
    (hlong : (∀ k, P (.numeral k)) ∨ e.IsShort) : OnlyFaults P (plain e) := by
  match e with
  | .var name => exact onlyFaults_ok _
  | .literal value => exact (onlyFaults_literalText hlong).bind fun _ _ => onlyFaults_ok _
  | .index object key =>
      have hobject := onlyFaults_plain object
        (fun node hnode => hforeign node (List.mem_append_left _ hnode)) (hlong.imp_right And.left)
      have hkey := onlyFaults_plain key
        (fun node hnode => hforeign node (List.mem_append_right _ hnode))
        (hlong.imp_right And.right)
      rw [plain]
      refine hobject.bind fun raw _ => ?_
      dsimp only
      split
      case h_1 => exact onlyFaults_ok _
      case h_2 => exact hkey.bind fun _ _ => onlyFaults_ok _
  | .binary op left right =>
      have hleft := onlyFaults_plain left
        (fun node hnode => hforeign node (List.mem_append_left _ hnode)) (hlong.imp_right And.left)
      have hright := onlyFaults_plain right
        (fun node hnode => hforeign node (List.mem_append_right _ hnode))
        (hlong.imp_right And.right)
      rw [plain]
      refine hleft.bind fun value _ => ?_
      dsimp only
      split
      case isTrue =>
          refine hright.bind fun rightValue _ => ?_
          split <;> exact onlyFaults_ok _
      case isFalse =>
          have hshift := onlyFaults_shift? op left (hlong.imp_right And.right)
          refine hshift.bind fun shift hshift => ?_
          cases shift with
          | none => exact hright.bind fun _ _ => onlyFaults_ok _
          | some amount =>
              have hmoved := hlong.imp_right fun h =>
                isShort_of_duration? h.2 (duration?_of_shift? hshift)
              have hsigned : (∀ k, P (.numeral k)) ∨
                  (if op = .sub then amount.neg else amount).amount.IsShort := by
                refine hmoved.imp_right fun h => ?_
                split
                case isTrue => exact h.neg
                case isFalse => exact h
              exact (onlyFaults_write hsigned).bind fun _ _ => onlyFaults_ok _
  | .call name args =>
      have hargs := onlyFaults_plainAll args hforeign (hlong.imp_right And.right)
      refine (onlyFaults_specialCall? hlong).bind fun special _ => ?_
      cases special with
      | some text => exact onlyFaults_ok _
      | none => exact hargs.bind fun _ _ => onlyFaults_ok _
  | .negated child =>
      exact (onlyFaults_plain child hforeign hlong).bind fun _ _ => onlyFaults_ok _
  | .list items =>
      exact (onlyFaults_plainAll items hforeign hlong).bind fun _ _ => onlyFaults_ok _
  | .foreign node => exact onlyFaults_error (hforeign node List.mem_cons_self)

theorem onlyFaults_plainAll (es : List Expr)
    (hforeign : ∀ node, .foreign node ∈ leavesOf es → P (.obstacle (.foreignField node.label)))
    (hlong : (∀ k, P (.numeral k)) ∨ AllShort es) : OnlyFaults P (plainAll es) := by
  match es with
  | [] => exact onlyFaults_ok _
  | e :: es =>
      have hfirst := onlyFaults_plain e
        (fun node hnode => hforeign node (List.mem_append_left _ hnode)) (hlong.imp_right And.left)
      have hrest := onlyFaults_plainAll es
        (fun node hnode => hforeign node (List.mem_append_right _ hnode))
        (hlong.imp_right And.right)
      exact hfirst.bind fun _ _ => hrest.bind fun _ _ => onlyFaults_ok _

end

end Plain

/-- An expression whose numerals can be written has a plain lowering, if its leaves belong in it. -/
theorem exists_plain {e : Expr} (hshort : e.IsShort) (hnative : ∀ node, .foreign node ∉ e.leaves) :
    ∃ c, plain e = .ok c := by
  have hfaults : OnlyFaults (fun _ => False) (plain e) :=
    onlyFaults_plain e (fun node hnode => hnative node hnode) (.inr hshort)
  cases hplain : plain e with
  | ok c => exact ⟨c, rfl⟩
  | error f => exact (hfaults f hplain).elim

/-- An expression has a condition, unless an obstacle stands in the way or a numeral of it is too
long. -/
theorem onlyFaults_lower (limit : Nat) (place : Place) (depth : Nat) (e : Expr)
    (h : e.Within n) : OnlyFaults (Fault.Allowed n) (lower limit place depth e) := by
  have hlong : (∀ k, Fault.Allowed n (.numeral k)) ∨ e.IsShort := by
    rcases Nat.lt_or_ge n digitLimit with hn | hn
    · exact .inr (isShort_of_within hn e h)
    · exact .inl fun _ => hn
  exact (bounded_lower e place depth).onlyFaults (onlyFaults_plain e (fun _ _ => trivial) hlong)
    (fun _ _ _ => trivial) (fun _ _ _ => trivial)

end Expr

/-! ## Texts that are no integers -/

namespace Text

/-- A text with a character that no integer has. -/
def IsWorded (s : String) : Prop :=
  ∃ c ∈ s.toList, c ≠ '-' ∧ isDigit c = false

instance (s : String) : Decidable (IsWorded s) :=
  decidable_of_iff (s.toList.any (fun c => c != '-' && !isDigit c) = true) (by simp [IsWorded])

theorem IsWorded.append_left {s : String} (h : IsWorded s) (t : String) : IsWorded (s ++ t) := by
  obtain ⟨c, hc, hword⟩ := h
  exact ⟨c, by simp [hc], hword⟩

theorem IsWorded.append_right {t : String} (h : IsWorded t) (s : String) : IsWorded (s ++ t) := by
  obtain ⟨c, hc, hword⟩ := h
  exact ⟨c, by simp [hc], hword⟩

theorem mem_dropWhile {p : Char → Bool} {cs : List Char} {c : Char} (h : c ∈ cs)
    (hp : p c = false) : c ∈ cs.dropWhile p := by
  rw [← List.takeWhile_append_dropWhile (p := p) (l := cs), List.mem_append] at h
  refine h.resolve_left fun htake => ?_
  rw [List.mem_takeWhile_imp htake] at hp
  cases hp

theorem mem_trim {cs : List Char} {c : Char} (h : c ∈ cs) (hb : isBlank c = false) :
    c ∈ trim cs := by
  rw [trim, dropEndWhile, List.mem_reverse]
  exact mem_dropWhile (List.mem_reverse.mpr (mem_dropWhile h hb)) hb

theorem IsWorded.not_isDecimal {s : String} (h : IsWorded s) :
    isDecimal (s.toList.dropWhile (· == '-')) = false := by
  obtain ⟨c, hc, hdash, hdigit⟩ := h
  have hmem : c ∈ s.toList.dropWhile (· == '-') := mem_dropWhile hc (by simpa using hdash)
  rw [isDecimal, Bool.and_eq_false_iff]
  right
  rw [List.all_eq_false]
  exact ⟨c, hmem, by simp [hdigit]⟩

end Text

open Text

theorem Vocabulary.isWorded_quote (s : String) : IsWorded (quote s) :=
  ⟨'\x22', by simp [quote], by decide⟩

theorem Vocabulary.mem_of_lookup {table : List (String × String)} {word mapped : String}
    (h : table.lookup word = some mapped) : (word, mapped) ∈ table := by
  obtain ⟨front, back, rfl, -⟩ := List.lookup_eq_some_iff.mp h
  simp

/-- The name of a property keeps what makes it no integer. -/
theorem Vocabulary.isWorded_property {name : String} {c : Char} (hc : c ∈ name.toList)
    (hb : isBlank c = false) (hdash : c ≠ '-') (hdigit : isDigit c = false) :
    IsWorded (property name) := by
  have htable : ∀ x ∈ properties, IsWorded x.2 := by decide
  rw [property]
  split
  case h_1 mapped hlookup => exact htable _ (mem_of_lookup hlookup)
  case h_2 =>
      refine ⟨c, ?_, hdash, hdigit⟩
      rw [String.toList_ofList, List.mem_map]
      exact ⟨c, mem_trim hc hb, by simp [hdash]⟩

theorem Condition.isWorded_group (k : Connective) (members : List Condition) :
    IsWorded (Condition.inline (.group k members)) := by
  have hopen : IsWorded "(" := by decide
  have hnot : IsWorded "!(" := by decide
  have hbang : IsWorded "!" := by decide
  unfold Condition.inline
  split
  case h_1 heq => cases heq
  case h_2 => exact (hnot.append_left _).append_left _
  case h_3 => exact hbang.append_left _
  case h_4 => exact (hnot.append_left _).append_left _
  case h_5 => exact (hopen.append_left _).append_left _
  case h_6 => exact (hopen.append_left _).append_left _

namespace Expr

variable {limit depth : Nat} {place : Place}

theorem isWorded_literalText {value : Literal} {text : String}
    (h : literalText value = .ok text) (hnumber : ∀ k, value ≠ .number k) : IsWorded text := by
  have hdate : IsWorded "date(" := by decide
  cases value with
  | null =>
      cases h
      decide
  | bool b =>
      cases h
      cases b <;> decide
  | number k => exact absurd rfl (hnumber k)
  | text s =>
      cases h
      exact Vocabulary.isWorded_quote s
  | moment m =>
      cases h
      exact (hdate.append_left _).append_left _
  | duration d =>
      rw [literalText] at h
      cases hw : d.write with
      | error k =>
          rw [hw] at h
          cases h
      | ok written =>
          rw [hw] at h
          cases h
          exact Vocabulary.isWorded_quote written

theorem isWorded_partText (value bare name : String) : IsWorded (partText value bare name) := by
  have hopen : IsWorded "(" := by decide
  have hbracket : IsWorded "[" := by decide
  rw [partText]
  split
  case isTrue => exact ((hopen.append_right _).append_left _).append_left _
  case isFalse =>
  split
  case isTrue =>
      refine Vocabulary.isWorded_property (c := '.') ?_ (by decide) (by decide) (by decide)
      simp
  case isFalse => exact ((hbracket.append_right _).append_left _).append_left _

theorem isWorded_specialCall? {name : String} {args : List Expr} {text : String}
    (h : specialCall? name args = .ok (some text)) : IsWorded text := by
  have htable : ∀ x ∈ Vocabulary.relativeDates, IsWorded x.2 := by decide
  have hdate : IsWorded "date(" := by decide
  have htag : IsWorded "file.hasTag(" := by decide
  unfold specialCall? at h
  dsimp only at h
  split at h
  case isTrue =>
      split at h
      case h_1 => exact htable _ (Vocabulary.mem_of_lookup (Except.ok.inj h))
      case h_2 => exact htable _ (Vocabulary.mem_of_lookup (Except.ok.inj h))
      case h_3 =>
          obtain rfl := Option.some.inj (Except.ok.inj h)
          exact (hdate.append_left _).append_left _
      case h_4 => cases h
  case isFalse =>
  split at h
  case isTrue =>
      obtain ⟨r, -, h⟩ := bind_eq_ok.mp h
      cases r with
      | none => cases h
      | some d =>
          obtain ⟨written, -, h⟩ := bind_eq_ok.mp h
          obtain rfl := Option.some.inj (Except.ok.inj h)
          exact Vocabulary.isWorded_quote written
  case isFalse =>
  split at h
  case isFalse => cases h
  case isTrue =>
  split at h
  case h_2 => cases h
  case h_1 =>
  split at h
  case isTrue =>
      obtain rfl := Option.some.inj (Except.ok.inj h)
      exact (htag.append_left _).append_left _
  case isFalse => cases h

theorem isWorded_callText (name : String) (args : List String) : IsWorded (callText name args) := by
  have hopen : IsWorded "(" := by decide
  exact ((hopen.append_right _).append_left _).append_left _

/-- Only a number is written as an integer. -/
theorem isWorded_of_lower {e : Expr} {c : Condition} (h : lower limit place depth e = .ok c)
    (hnumber : ∀ k, e ≠ .literal (.number k))
    (hvar : ∀ name, e = .var name → ∃ x ∈ name.toList, isWordStart x = true) :
    IsWorded c.inline := by
  have hspace : IsWorded " " := by decide
  cases e with
  | var name =>
      obtain ⟨x, hx, hstart⟩ := hvar name rfl
      have hword := isWord_of_isWordStart hstart
      have hdash : x ≠ '-' := by
        rintro rfl
        exact absurd hword (by decide)
      rw [of_lower_var h, Condition.inline]
      exact Vocabulary.isWorded_property hx (isBlank_eq_false_of_isWord hword) hdash
        (Token.isDigit_eq_false_of_isWordStart hstart)
  | literal value =>
      obtain ⟨text, htext, rfl⟩ := of_lower_literal h
      exact isWorded_literalText htext fun k hk => hnumber k (by rw [hk])
  | index object key =>
      obtain ⟨raw, -, hpart⟩ := bind_eq_ok.mp (lowerNode_of_lower h)
      unfold part at hpart
      split at hpart
      case h_1 =>
          obtain rfl := Except.ok.inj hpart
          exact isWorded_partText _ _ _
      case h_2 =>
          have hbracket : IsWorded "[" := by decide
          obtain ⟨inside, -, hinside⟩ := bind_eq_ok.mp hpart
          obtain rfl := Except.ok.inj hinside
          exact ((hbracket.append_right _).append_left _).append_left _
  | binary op left right =>
      cases hop : op.isLogical with
      | true =>
          obtain ⟨value, rightValue, -, -, rfl⟩ := of_lower_logical hop h
          rw [logicalPair]
          split
          case isTrue => exact Condition.isWorded_group _ _
          case isFalse =>
              exact (((hspace.append_right _).append_left _).append_left _).append_left _
      | false =>
          have hnode := lowerNode_of_lower h
          rw [lowerNode, if_neg (by simp [hop])] at hnode
          obtain ⟨value, -, hnode⟩ := bind_eq_ok.mp hnode
          obtain ⟨shift, -, hnode⟩ := bind_eq_ok.mp hnode
          cases shift with
          | some amount =>
              obtain ⟨text, -, hnode⟩ := bind_eq_ok.mp hnode
              obtain rfl := Except.ok.inj hnode
              have hplus : IsWorded " + \"" := by decide
              exact ((hplus.append_right _).append_left _).append_left _
          | none =>
              obtain ⟨rightValue, -, hnode⟩ := bind_eq_ok.mp hnode
              obtain rfl := Except.ok.inj hnode
              exact (((hspace.append_right _).append_left _).append_left _).append_left _
  | call name args =>
      rcases of_lower_call h with ⟨text, hspecial, rfl⟩ | ⟨texts, -, -, rfl⟩
      · exact isWorded_specialCall? hspecial
      · exact isWorded_callText name texts
  | negated child =>
      obtain ⟨value, -, rfl⟩ := of_lower_negated h
      exact Condition.isWorded_group _ _
  | list items =>
      obtain ⟨texts, -, rfl⟩ := of_lower_list h
      have hbracket : IsWorded "[" := by decide
      exact (hbracket.append_left _).append_left _
  | foreign node => cases lowerNode_of_lower h

end Expr

end VaultQuery
