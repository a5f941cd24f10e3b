import Mathlib.Data.List.Forall2
import Mathlib.Data.List.Induction
import Mathlib.Data.List.TakeWhile
import VaultQuery.Proofs.Expr.Loop

/-!
Dates that are moved by durations.  A base moves a date in one way only, by adding a duration, which
may be negative.  So a chain of sums and differences that starts at a date is written with the
duration of every operand, negated after a minus sign, as long as the operands are durations; from
the first one on that is not, the chain is written as it stands (`condition_of_moved_date`).  Along
the chain the loop's flag and the question whether an expression is a date agree.
-/

namespace VaultQuery.Expr

/-! ## Durations, and dates that are not moved -/

/-- An expression stands for a duration: it is one, or a call of `dur` on one or on its spelling. -/
inductive Denotes : Expr → Duration → Prop where
  | literal (d : Duration) : Denotes (.literal (.duration d)) d
  | call {name : String} (d : Duration) : Text.lowerCase name = "dur" →
      Denotes (.call name [.literal (.duration d)]) d
  | spelled {name s numeral : String} {unit : TimeUnit} {n : Number} :
      Text.lowerCase name = "dur" → Duration.spelled? s = some (numeral, unit) →
      Numeral.read numeral = .ok n → Denotes (.call name [.literal (.text s)]) ⟨n, unit⟩

theorem duration?_eq_some_iff {e : Expr} {d : Duration} :
    e.duration? = .ok (some d) ↔ e.Denotes d := by
  constructor
  · intro h
    unfold duration? at h
    split at h
    case h_1 d' =>
        obtain rfl := Option.some.inj (Except.ok.inj h)
        exact .literal d'
    case h_2 name d' =>
        obtain ⟨hname, rfl⟩ : Text.lowerCase name = "dur" ∧ d' = d := by simpa using h
        exact .call d' hname
    case h_3 name s =>
        split at h
        case isFalse => cases h
        case isTrue hname =>
            split at h
            case h_2 => cases h
            case h_1 hs =>
                obtain ⟨n, hn, hd⟩ := map_eq_ok.mp h
                obtain rfl := Option.some.inj hd
                exact .spelled (by simpa using hname) hs hn
    case h_4 => cases h
  · intro h
    cases h with
    | literal => rfl
    | call _ hname => simp [duration?, hname]
    | spelled hname hs hn =>
        simp only [duration?, hname, hs, hn, BEq.rfl, ↓reduceIte]
        rfl

theorem isDuration_iff {e : Expr} : e.isDuration = true ↔ ∃ d, e.Denotes d := by
  simp only [← duration?_eq_some_iff, isDuration]
  split
  · next d h => simp [h]
  · next h => simpa using fun d hd => h d hd

/-- What a date is counted from: a moment, or a call of `date` or `now` in any case. -/
def isAnchor : Expr → Bool
  | .call name _ => Text.lowerCase name == "date" || Text.lowerCase name == "now"
  | .literal (.moment _) => true
  | _ => false

theorem date?_of_isAnchor {e : Expr} (h : e.isAnchor = true) : e.date? = .ok true := by
  cases e with
  | call name args => exact congrArg Except.ok h
  | literal value => cases value <;> first | rfl | cases h
  | _ => cases h

theorem not_binary_of_isAnchor {e : Expr} (h : e.isAnchor = true) (op : BinOp) (left right : Expr) :
    e ≠ .binary op left right := by
  rintro rfl
  cases h

/-! ## Chains -/

/-- The operations of a chain one after the other, each with all before it on its left. -/
def chained (base : Expr) (steps : List (BinOp × Expr)) : Expr :=
  steps.foldl (fun e step => .binary step.1 e step.2) base

theorem chained_concat (base : Expr) (steps : List (BinOp × Expr)) (step : BinOp × Expr) :
    chained base (steps ++ [step]) = .binary step.1 (chained base steps) step.2 := by
  simp [chained]

/-- A chain that starts at a date is a date as far as its operands are durations. -/
theorem date?_chained {base : Expr} (hbase : base.isAnchor = true) {steps : List (BinOp × Expr)}
    (hops : ∀ step ∈ steps, step.1.isAdditive = true) :
    (chained base steps).date? = .ok true ↔ ∀ step ∈ steps, ∃ d, step.2.Denotes d := by
  induction steps using List.reverseRecOn with
  | nil => simpa [chained] using date?_of_isAnchor hbase
  | append_singleton steps step ih =>
      simp only [List.forall_mem_append, List.forall_mem_singleton] at hops ⊢
      rw [chained_concat, date?, if_pos hops.2, ← ih hops.1, ← isDuration_iff, isDuration]
      cases step.2.duration? with
      | error fault => simp
      | ok moved => cases moved <;> simp

theorem links_chained {base : Expr} (hbase : base.isAnchor = true) {steps : List (BinOp × Expr)}
    (hops : ∀ step ∈ steps, step.1.isAdditive = true) :
    links (.chain BinOp.add.precedence) (chained base steps) = (base, steps) := by
  induction steps using List.reverseRecOn with
  | nil =>
      cases base with
      | binary op left right => exact absurd rfl (not_binary_of_isAnchor hbase op left right)
      | _ => rfl
  | append_singleton steps step ih =>
      simp only [List.forall_mem_append, List.forall_mem_singleton] at hops
      obtain ⟨op, right⟩ := step
      have hcontinues : ∀ left, continues (.chain BinOp.add.precedence) (.binary op left right) =
          true := by
        intro left
        cases op <;> first | rfl | cases hops.2
      rw [chained_concat, links, if_pos (hcontinues _), ih hops.1]

/-! ## The texts of the operands -/

/-- An operand that moves a date, and its text: a duration that is added, negated after a minus
sign. -/
inductive Moves : BinOp × Expr → String → Prop where
  | mk {op : BinOp} {right : Expr} {d : Duration} {amount : String} : right.Denotes d →
      (if op = .sub then d.neg else d).write = .ok amount →
      Moves (op, right) (" + \"" ++ amount ++ "\"")

/-- An operand that is written as it stands, and its text: its own operator, and the operand by
itself, in parentheses if need be.  A duration that it spells has a numeral that can be read. -/
inductive Stands (limit depth : Nat) : BinOp × Expr → String → Prop where
  | mk {op : BinOp} {right : Expr} {moved : Option Duration} {value : Condition} :
      right.duration? = .ok moved → right.condition limit depth = .ok value →
      Stands limit depth (op, right)
        (" " ++ op.baseSymbol ++ " " ++ operand right value op.precedence true)

section Turns

variable {limit depth : Nat} {text : String} {step : BinOp × Expr} {state : String × Bool}

/-- A turn of the loop at a date, for a duration. -/
theorem chainTurn_moves (hop : step.1.isAdditive = true) (hright : step.2.isDuration = true) :
    chainTurn limit depth BinOp.add.precedence (text, true) step = .ok state ↔
      ∃ s, Moves step s ∧ state = (text ++ s, true) := by
  obtain ⟨op, right⟩ := step
  obtain ⟨d, hd⟩ := isDuration_iff.mp hright
  have hturn : chainTurn limit depth BinOp.add.precedence (text, true) (op, right) =
      ((if op = .sub then d.neg else d).write.mapError Fault.numeral >>= fun amount =>
        pure (text ++ " + \"" ++ amount ++ "\"", true)) := by
    rw [chainTurn, if_pos hop, duration?_eq_some_iff.mpr hd]
    rfl
  rw [hturn, bind_eq_ok]
  constructor
  · rintro ⟨amount, hamount, hstate⟩
    refine ⟨_, .mk hd (mapError_eq_ok.mp hamount), ?_⟩
    simpa [String.append_assoc] using (Except.ok.inj hstate).symm
  · rintro ⟨s, hs, rfl⟩
    obtain ⟨hd', hamount⟩ := hs
    obtain rfl := Option.some.inj (Except.ok.inj
      ((duration?_eq_some_iff.mpr hd').symm.trans (duration?_eq_some_iff.mpr hd)))
    exact ⟨_, mapError_eq_ok.mpr hamount, by simp [String.append_assoc, pure, Except.pure]⟩

/-- A turn of the loop that does not move a date. -/
theorem chainTurn_stands (hop : step.1.isAdditive = true) {isDate : Bool}
    (h : isDate = true → step.2.isDuration = false) :
    chainTurn limit depth BinOp.add.precedence (text, isDate) step = .ok state ↔
      ∃ s, Stands limit depth step s ∧ state = (text ++ s, false) := by
  obtain ⟨op, right⟩ := step
  have hp : op.precedence = BinOp.add.precedence := by cases op <;> first | rfl | cases hop
  have hturn : ∀ moved, right.duration? = .ok moved →
      chainTurn limit depth BinOp.add.precedence (text, isDate) (op, right) =
        (right.condition limit depth >>= fun value => pure
          (text ++ " " ++ op.baseSymbol ++ " " ++ operand right value op.precedence true,
            false)) := by
    intro moved hmoved
    rw [chainTurn, if_pos hop, hmoved, hp]
    cases isDate with
    | false => rfl
    | true =>
        cases moved with
        | none => rfl
        | some d => exact absurd (h rfl) (by simp [isDuration, hmoved])
  constructor
  · intro hstate
    obtain ⟨moved, hmoved⟩ : ∃ moved, right.duration? = .ok moved := by
      rw [chainTurn, if_pos hop] at hstate
      obtain ⟨moved, hmoved, -⟩ := bind_eq_ok.mp hstate
      exact ⟨moved, mapError_eq_ok.mp hmoved⟩
    rw [hturn moved hmoved] at hstate
    obtain ⟨value, hvalue, hstate⟩ := bind_eq_ok.mp hstate
    refine ⟨_, .mk hmoved hvalue, ?_⟩
    simpa [String.append_assoc] using (Except.ok.inj hstate).symm
  · rintro ⟨s, ⟨hmoved, hvalue⟩, rfl⟩
    rw [hturn _ hmoved, hvalue]
    simp [String.append_assoc, pure, Except.pure, bind, Except.bind]

/-- The loop at a date, as long as the operands are durations. -/
theorem foldlM_moves {steps : List (BinOp × Expr)}
    (hops : ∀ step ∈ steps, step.1.isAdditive = true)
    (hsteps : ∀ step ∈ steps, step.2.isDuration = true) :
    steps.foldlM (chainTurn limit depth BinOp.add.precedence) (text, true) = .ok state ↔
      ∃ moves, List.Forall₂ Moves steps moves ∧ state = (text ++ String.join moves, true) := by
  induction steps generalizing text with
  | nil => simp [pure, Except.pure, eq_comm]
  | cons step steps ih =>
      simp only [List.forall_mem_cons] at hops hsteps
      simp only [List.foldlM_cons, bind_eq_ok, chainTurn_moves hops.1 hsteps.1,
        List.forall₂_cons_left_iff]
      constructor
      · rintro ⟨_, ⟨s, hs, rfl⟩, h⟩
        obtain ⟨moves, hmoves, rfl⟩ := (ih hops.2 hsteps.2).mp h
        exact ⟨s :: moves, ⟨s, moves, hs, hmoves, rfl⟩, by simp [String.append_assoc]⟩
      · rintro ⟨_, ⟨s, moves, hs, hmoves, rfl⟩, rfl⟩
        refine ⟨_, ⟨s, hs, rfl⟩, (ih hops.2 hsteps.2).mpr ⟨moves, hmoves, ?_⟩⟩
        simp [String.append_assoc]

/-- The loop where there is no date, or an operand that is no duration: it does not come back to a
date. -/
theorem foldlM_stands {steps : List (BinOp × Expr)}
    (hops : ∀ step ∈ steps, step.1.isAdditive = true) {isDate : Bool}
    (h : isDate = true → ∀ step ∈ steps.head?, step.2.isDuration = false) {s : String} :
    (∃ isDate', steps.foldlM (chainTurn limit depth BinOp.add.precedence) (text, isDate) =
        .ok (s, isDate')) ↔
      ∃ others, List.Forall₂ (Stands limit depth) steps others ∧ s = text ++ String.join others := by
  induction steps generalizing text isDate with
  | nil => simp [pure, Except.pure, eq_comm]
  | cons step steps ih =>
      simp only [List.forall_mem_cons] at hops
      have hstep : isDate = true → step.2.isDuration = false := by
        intro hdate
        exact h hdate step rfl
      have ih : ∀ {text : String}, (∃ isDate', steps.foldlM
            (chainTurn limit depth BinOp.add.precedence) (text, false) = .ok (s, isDate')) ↔ _ :=
        fun {text} => ih hops.2 (by intro hdate; cases hdate)
      simp only [List.foldlM_cons, bind_eq_ok, chainTurn_stands hops.1 hstep,
        List.forall₂_cons_left_iff]
      constructor
      · rintro ⟨isDate', _, ⟨t, ht, rfl⟩, hrest⟩
        obtain ⟨others, hothers, rfl⟩ := ih.mp ⟨isDate', hrest⟩
        exact ⟨t :: others, ⟨t, others, ht, hothers, rfl⟩, by simp [String.append_assoc]⟩
      · rintro ⟨_, ⟨t, others, ht, hothers, rfl⟩, rfl⟩
        have hjoin : text ++ String.join (t :: others) = text ++ t ++ String.join others := by
          simp [String.append_assoc]
        obtain ⟨isDate', hrest⟩ := ih.mpr ⟨others, hothers, hjoin⟩
        exact ⟨isDate', _, ⟨t, ht, rfl⟩, hrest⟩

/-- The loop from a date on: it moves the date up to the first operand that is no duration. -/
theorem foldlM_date {steps : List (BinOp × Expr)}
    (hops : ∀ step ∈ steps, step.1.isAdditive = true) {s : String} :
    (∃ isDate, steps.foldlM (chainTurn limit depth BinOp.add.precedence) (text, true) =
        .ok (s, isDate)) ↔
      ∃ moves others, List.Forall₂ Moves (steps.takeWhile (·.2.isDuration)) moves ∧
        List.Forall₂ (Stands limit depth) (steps.dropWhile (·.2.isDuration)) others ∧
        s = text ++ String.join moves ++ String.join others := by
  have hmoved : ∀ step ∈ steps.takeWhile (·.2.isDuration), step.2.isDuration = true := by
    intro step hstep
    exact List.mem_takeWhile_imp (p := fun step : BinOp × Expr => step.2.isDuration) hstep
  have hhead : true = true →
      ∀ step ∈ (steps.dropWhile (·.2.isDuration)).head?, step.2.isDuration = false := by
    intro _ step hstep
    have hnot := List.head?_dropWhile_not (fun step : BinOp × Expr => step.2.isDuration) steps
    rw [Option.mem_def.mp hstep] at hnot
    exact hnot
  have hsplit : steps.takeWhile (·.2.isDuration) ++ steps.dropWhile (·.2.isDuration) = steps :=
    List.takeWhile_append_dropWhile
  rw [← hsplit, List.forall_mem_append] at hops
  conv => lhs; rw [← hsplit]
  simp only [List.foldlM_append, bind_eq_ok, foldlM_moves hops.1 hmoved]
  constructor
  · rintro ⟨isDate, _, ⟨moves, hm, rfl⟩, hrest⟩
    obtain ⟨others, ho, rfl⟩ := (foldlM_stands hops.2 hhead).mp ⟨isDate, hrest⟩
    exact ⟨moves, others, hm, ho, rfl⟩
  · rintro ⟨moves, others, hm, ho, hs⟩
    obtain ⟨isDate, hrest⟩ := (foldlM_stands hops.2 hhead).mpr ⟨others, ho, hs⟩
    exact ⟨isDate, _, ⟨moves, hm, rfl⟩, hrest⟩

end Turns

/-! ## Whole chains -/

section Chains

variable {base : Expr} {steps : List (BinOp × Expr)}

theorem leaf_of_isAnchor (hbase : base.isAnchor = true) {limit depth : Nat} {value : Condition}
    (h : base.condition limit depth = .ok value) :
    ∃ text, value = .leaf text ∧ operand base value BinOp.add.precedence false = text := by
  cases base with
  | call name args =>
      obtain ⟨text, rfl⟩ := leaf_of_lower rfl rfl h
      exact ⟨text, rfl, rfl⟩
  | literal l =>
      obtain ⟨text, rfl⟩ := leaf_of_lower rfl rfl h
      exact ⟨text, rfl, rfl⟩
  | _ => cases hbase

theorem unrolled_chained (hbase : base.isAnchor = true) (hne : steps ≠ [])
    (hops : ∀ step ∈ steps, step.1.isAdditive = true) {limit depth : Nat} {c : Condition} :
    (chained base steps).unrolled limit depth = .ok c ↔
      ∃ text s, base.condition limit depth = .ok (.leaf text) ∧
        (∃ isDate, steps.foldlM (chainTurn limit depth BinOp.add.precedence) (text, true) =
          .ok (s, isDate)) ∧
        c = .leaf s := by
  obtain ⟨op, left, right, he, hop⟩ : ∃ op left right,
      chained base steps = .binary op left right ∧ op.isAdditive = true := by
    rw [← List.dropLast_concat_getLast hne, chained_concat]
    exact ⟨_, _, _, rfl, hops _ (List.getLast_mem hne)⟩
  have hop : op.isLogical = false ∧ op.precedence = BinOp.add.precedence := by
    cases op <;> first | exact ⟨rfl, rfl⟩ | cases hop
  have hdate : base.isDate = true := isDate_of_date? (date?_of_isAnchor hbase)
  have hlinks := links_chained hbase hops
  rw [he] at hlinks
  rw [he, unrolled, if_neg (by simp [hop.1]), hop.2, hlinks]
  simp only [bind_eq_ok, hdate]
  constructor
  · rintro ⟨value, hvalue, ⟨s, isDate⟩, hloop, hc⟩
    obtain ⟨text, rfl, htext⟩ := leaf_of_isAnchor hbase hvalue
    rw [htext] at hloop
    exact ⟨text, s, hvalue, ⟨isDate, hloop⟩, (Except.ok.inj hc).symm⟩
  · rintro ⟨text, s, hvalue, ⟨isDate, hloop⟩, rfl⟩
    obtain ⟨_, hleaf, htext⟩ := leaf_of_isAnchor hbase hvalue
    obtain rfl := Filter.leaf.inj hleaf
    exact ⟨.leaf text, hvalue, (s, isDate), by rw [htext]; exact hloop, rfl⟩

/-- Every beginning of a chain that starts at a date is a date exactly if its operands are durations.
The chain is written as the date, followed by what its durations add, up to the first operand that
is no duration; that one and all after it are written as they stand. -/
theorem condition_of_moved_date (hbase : base.isAnchor = true) (hne : steps ≠ [])
    (hops : ∀ step ∈ steps, step.1.isAdditive = true) :
    (∀ n, (chained base (steps.take n)).date? = .ok true ↔
      ∀ step ∈ steps.take n, ∃ d, step.2.Denotes d) ∧
    ∀ limit depth c, (chained base steps).condition limit depth = .ok c ↔
      ∃ text moves others, base.condition limit (depth + 1) = .ok (.leaf text) ∧
        List.Forall₂ Moves (steps.takeWhile (·.2.isDuration)) moves ∧
        List.Forall₂ (Stands limit (depth + 1)) (steps.dropWhile (·.2.isDuration)) others ∧
        c = .leaf (text ++ String.join moves ++ String.join others) := by
  refine ⟨fun n => date?_chained hbase fun step hstep => hops step (List.mem_of_mem_take hstep), ?_⟩
  intro limit depth c
  rw [condition_eq_unrolled, descend_bind_eq_ok, unrolled_chained hbase hne hops]
  simp only [foldlM_date hops]
  constructor
  · rintro ⟨-, text, s, htext, ⟨moves, others, hm, ho, rfl⟩, rfl⟩
    exact ⟨text, moves, others, htext, hm, ho, rfl⟩
  · rintro ⟨text, moves, others, htext, hm, ho, rfl⟩
    have hroom : depth + 1 ≤ limit := by
      rw [condition_eq_unrolled, descend_bind_eq_ok] at htext
      exact Nat.le_of_succ_le htext.1
    exact ⟨hroom, text, _, htext, ⟨moves, others, hm, ho, rfl⟩, rfl⟩

end Chains

/-- Operands of a chain: two durations, a variable, and one more duration. -/
def oneWeekOn : List (BinOp × Expr) :=
  [(.add, .call "dur" [.literal (.duration ⟨.int 1, .week⟩)]),
    (.sub, .call "DUR" [.literal (.text "2 hours")]), (.sub, .var "x"),
    (.add, .literal (.duration ⟨.int 1, .day⟩))]

/-- A week from today but for two hours is a date.  From the variable on the chain is written as it
stands, and the last duration does not move a date. -/
theorem condition_of_moved_date_oneWeekOn :
    (chained (.call "DATE" [.var "today"]) (oneWeekOn.take 2)).date? = .ok true ∧
      (chained (.call "DATE" [.var "today"]) oneWeekOn).condition 2 0 =
        .ok (.leaf "now() + \"7 days\" + \"-2 hours\" - x + \"1 day\"") := by
  have h := @condition_of_moved_date (.call "DATE" [.var "today"]) oneWeekOn rfl (by decide)
    (by decide)
  have hweek : Denotes (.call "dur" [.literal (.duration ⟨.int 1, .week⟩)]) ⟨.int 1, .week⟩ :=
    .call _ rfl
  have hhours : Denotes (.call "DUR" [.literal (.text "2 hours")]) ⟨.int 2, .hour⟩ :=
    .spelled rfl rfl rfl
  have hdays := @Moves.mk .add _ _ "7 days" hweek rfl
  have hback := @Moves.mk .sub _ _ "-2 hours" hhours rfl
  have hx := @Stands.mk 2 1 .sub (.var "x") none (.leaf "x") rfl rfl
  have hday := @Stands.mk 2 1 .add (.literal (.duration ⟨.int 1, .day⟩)) (some ⟨.int 1, .day⟩)
    (.leaf "\"1 day\"") rfl rfl
  constructor
  · refine (h.1 2).mpr fun step hstep => ?_
    obtain rfl | rfl : step = _ ∨ step = _ := by simpa [oneWeekOn] using hstep
    · exact ⟨_, hweek⟩
    · exact ⟨_, hhours⟩
  · exact (h.2 2 0 _).mpr ⟨"now()", _, _, rfl, .cons hdays (.cons hback .nil),
      .cons hx (.cons hday .nil), rfl⟩

end VaultQuery.Expr
