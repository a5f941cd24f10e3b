import VaultQuery.Proofs.Base.Build
import VaultQuery.Proofs.Query.Agree
import VaultQuery.Proofs.Source.Plain

/-!
How the work on a query can fail.  It fails as its expressions and its source do at the top, or at a
limit whose text is no number of rows (`Work.fails_base`).  If no integer is too long, only a limit
beyond the real numbers is such a text, and the work fails whenever the operations come to it
(`Query.toBase_eq_error`, `Query.toBase_of_comesToBoundless`).
-/

namespace VaultQuery

/-- Whether an operation limits the rows to an integer that can be written and lies beyond the real
numbers. -/
def Operation.isBoundless : Operation → Bool
  | .limit (.literal (.number (.int k))) =>
    !(Number.int k).isOverlong && !(Binary64.ofInt k).isFinite
  | _ => false

namespace Work

/-! ## Faults of work -/

section Faults

variable {α β : Type} {P : Fault → Prop} {depth : Nat}

/-- `Fails x w f`: the work `x` has the fault `f` if it starts from the state `w`. -/
def Fails (x : Work α) (w : Workspace) (f : Fault) : Prop :=
  (x.run.run w).1 = .error f

theorem fails_bind {x : Work α} {g : α → Work β} {w : Workspace} {f : Fault} :
    Fails (x >>= g) w f ↔ Fails x w f ∨ ∃ a w', Ran x w a w' ∧ Fails (g a) w' f := by
  unfold Fails Ran
  rw [ExceptT.run_bind, StateT.run_bind]
  cases hx : x.run.run w with
  | mk r w' =>
      cases r with
      | error e =>
          constructor
          · intro h
            cases h
            exact .inl rfl
          · rintro (h | ⟨a, w'', h, -⟩) <;> cases h
            rfl
      | ok a =>
          constructor
          · intro h
            exact .inr ⟨a, w', rfl, h⟩
          · rintro (h | ⟨a', w'', h, hf⟩) <;> cases h
            exact hf

theorem fails_ofExcept {x : Except Fault α} {w : Workspace} {f : Fault} :
    Fails (MonadExcept.ofExcept x : Work α) w f ↔ x = .error f := by
  cases x with
  | ok a => exact ⟨nofun, nofun⟩
  | error e => exact Iff.rfl

theorem fails_walk {g : Nat → Except Fault α} {w : Workspace} {f : Fault} (h : Fails (walk g) w f) :
    g w.depth = .error f := by
  obtain hget | ⟨w₀, w₁, hget, hrest⟩ := fails_bind.mp h
  · cases hget
  cases hget
  split at hrest
  case h_1 => cases hrest
  case h_2 hg =>
      cases hrest
      exact hg
  case h_3 hg =>
      cases hrest
      exact hg

/-- Every fault of some work that starts at a depth has a property. -/
def Faults (depth : Nat) (P : Fault → Prop) (x : Work α) : Prop :=
  ∀ w f, w.depth = depth → Fails x w f → P f

theorem Faults.pure (a : α) : Faults depth P (Pure.pure a : Work α) :=
  fun _ f _ => onlyFaults_ok a f

theorem Faults.throw {f : Fault} (h : P f) : Faults depth P (MonadExcept.throw f : Work α) :=
  fun _ f _ => onlyFaults_error h f

theorem Faults.get : Faults depth P (MonadState.get : Work Workspace) :=
  fun _ f _ => onlyFaults_ok _ f

theorem Faults.modify (g : Workspace → Workspace) : Faults depth P (modify g : Work Unit) :=
  fun _ f _ => onlyFaults_ok _ f

theorem Faults.bind {x : Work α} {g : α → Work β} (hx : Faults depth P x)
    (hkeeps : Keeps Workspace.depth x) (hg : ∀ a, Faults depth P (g a)) :
    Faults depth P (x >>= g) := by
  intro w f hdepth h
  obtain hf | ⟨a, w', hran, hf⟩ := fails_bind.mp h
  · exact hx w f hdepth hf
  · exact hg a w' f ((hkeeps w a w' hran).trans hdepth) hf

theorem Faults.walk {g : Nat → Except Fault α} (h : OnlyFaults P (g depth)) :
    Faults depth P (walk g) := by
  intro w f hdepth hf
  exact h f (hdepth ▸ fails_walk hf)

end Faults

/-! ## The steps of the work -/

/-- A property that the faults of an operation itself have: a limit that a base does not support, or
an operation that is none. -/
def LenientOn (P : Fault → Prop) (s : Settings) (depth : Nat) : Operation → Prop
  | .limit amount => ∀ text, amount.baseText s.treeLimit depth = .ok text →
      P (.unsupported (.limit text))
  | .foreign node => P (.obstacle (.foreignOperation node.text))
  | _ => True

/-- A property that the faults of the steps themselves have: a header that a base does not support,
and operations that fail by themselves. -/
structure Lenient (P : Fault → Prop) (s : Settings) (q : Query) : Prop where
  header : P (.unsupported (.header q.header.keyword))
  operation (op : Operation) (h : op ∈ q.operations) : LenientOn P s 0 op

theorem lenient_of_forall {P : Fault → Prop} (hunsupported : ∀ u, P (.unsupported u))
    (hforeign : ∀ text, P (.obstacle (.foreignOperation text))) (s : Settings) (q : Query) :
    Lenient P s q where
  header := hunsupported _
  operation op _ := by
    cases op with
    | limit amount => exact fun text _ => hunsupported _
    | foreign node => exact hforeign _
    | _ => trivial

section Steps

variable {P : Fault → Prop} {depth : Nat} {s : Settings} {e : Expr}

theorem faults_baseText (h : OnlyFaults P (e.condition s.treeLimit depth)) :
    Faults depth P (baseText s e) :=
  .walk (h.map _)

theorem faults_reference (h : OnlyFaults P (e.condition s.treeLimit depth)) :
    Faults depth P (reference s e) :=
  (faults_baseText h).bind (.walk _) fun _ => Faults.get.bind .get fun _ => .pure _

theorem faults_column {field : NamedField}
    (h : OnlyFaults P (field.field.condition s.treeLimit depth)) :
    Faults depth P (column s field) := by
  have hadd : ∀ (expression : String) (p : String × String), Faults depth P (do
      modify fun w => { w with columns := w.columns ++ [⟨p.1, expression, field.alias?⟩] }
      return p : Work (String × String)) :=
    fun _ _ => (Faults.modify _).bind (.modify fun _ => rfl) fun _ => .pure _
  have hkey : Faults depth P (formulaKey field) :=
    (Faults.modify _).bind (.modify fun _ => rfl) fun _ => Faults.get.bind .get fun _ => .pure _
  refine (faults_baseText h).bind (.walk _) fun expression => ?_
  split
  case isTrue =>
      refine hkey.bind (keepsDepth_formulaKey field) fun _ => ?_
      exact (Faults.modify _).bind (.modify fun _ => rfl) fun _ =>
        (Faults.pure _).bind (.pure _) fun p => hadd expression p
  case isFalse => exact (Faults.pure _).bind (.pure _) fun p => hadd expression p

theorem faults_columns (fields : List NamedField) (display : List (String × String))
    (h : ∀ field ∈ fields, OnlyFaults P (field.field.condition s.treeLimit depth)) :
    Faults depth P (columns s display fields) := by
  induction fields generalizing display with
  | nil => exact .pure _
  | cons field fields ih =>
      have hfirst := faults_column (h field List.mem_cons_self)
      refine hfirst.bind (keepsDepth_column s field) fun x => ?_
      exact ih _ fun f hf => h f (List.mem_cons_of_mem field hf)

theorem faults_header {h : Header} (hP : P (.unsupported (.header h.keyword)))
    (hexpressions : ∀ e ∈ h.expressions, OnlyFaults P (e.condition s.treeLimit depth)) :
    Faults depth P (header s h) := by
  cases h with
  | table fields showId =>
      refine faults_columns fields _ fun field hfield => hexpressions _ ?_
      exact List.mem_map_of_mem hfield
  | list format showId => exact .throw hP
  | task => exact .throw hP
  | calendar field => exact .throw hP

theorem faults_sortKeys (fields : List SortField)
    (h : ∀ field ∈ fields, OnlyFaults P (field.field.condition s.treeLimit depth)) :
    Faults depth P (sortKeys s fields) := by
  induction fields with
  | nil => exact .pure _
  | cons field fields ih =>
      have hfirst := faults_reference (h field List.mem_cons_self)
      refine hfirst.bind (keepsDepth_reference s field.field) fun _ => ?_
      have hrest := ih fun f hf => h f (List.mem_cons_of_mem field hf)
      exact hrest.bind (keepsDepth_sortKeys s fields) fun _ => .pure _

/-- An operation that sets a limit whose text is no number of rows. -/
def Stalls (s : Settings) (depth : Nat) (op : Operation) (f : Fault) : Prop :=
  ∃ amount text, op = .limit amount ∧ amount.baseText s.treeLimit depth = .ok text ∧
    rowCount? amount text = .error f

theorem Stalls.tooLarge_or_numeral {op : Operation} {f : Fault} (h : Stalls s depth op f) :
    f = .tooLarge ∨ ∃ k, f = .numeral k := by
  obtain ⟨amount, text, -, -, hcount⟩ := h
  unfold rowCount? at hcount
  split at hcount
  case h_1 =>
      split at hcount <;> cases hcount
      exact .inl rfl
  case h_2 => cases hcount
  case h_3 =>
      split at hcount
      case isTrue =>
          cases hread : Numeral.readInt text with
          | ok k =>
              rw [hread] at hcount
              cases hcount
          | error k =>
              rw [hread] at hcount
              cases hcount
              exact .inr ⟨k, rfl⟩
      case isFalse => cases hcount

theorem fails_limit {present : Option Int} {w : Workspace} {f : Fault}
    (hP : LenientOn P s w.depth (.limit e)) (h : OnlyFaults P (e.condition s.treeLimit w.depth))
    (hf : Fails (limit s e present) w f) :
    P f ∨ Stalls s w.depth (.limit e) f := by
  obtain htext | ⟨text, w₁, hran, hrest⟩ := fails_bind.mp hf
  · exact .inl (faults_baseText h w f rfl htext)
  obtain ⟨htext, rfl⟩ := ran_walk.mp hran
  obtain hcount | ⟨count, w₂, -, hlast⟩ := fails_bind.mp hrest
  · exact .inr ⟨e, text, rfl, htext, fails_ofExcept.mp hcount⟩
  · left
    have hnote : Faults w₂.depth P (do
        note .warning ("Ignoring LIMIT amount that is not a positive integer: " ++ text)
        return present) := (Faults.modify _).bind (.modify fun _ => rfl) fun _ => .pure _
    revert hlast
    split
    case h_1 => exact Faults.pure _ w₂ f rfl
    case h_2 =>
        split
        case isTrue =>
            exact ((Faults.throw (hP text htext)).bind (.throw _) fun _ => hnote) w₂ f rfl
        case isFalse => exact hnote w₂ f rfl

theorem fails_operation {slots : Slots} {op : Operation} {w : Workspace} {f : Fault}
    (hP : LenientOn P s w.depth op)
    (h : ∀ e ∈ op.expressions, OnlyFaults P (e.condition s.treeLimit w.depth))
    (hf : Fails (operation s slots op) w f) : P f ∨ Stalls s w.depth op f := by
  cases op with
  | keep clause =>
      have hclause : Faults w.depth P (condition s clause) := .walk (h clause List.mem_cons_self)
      exact .inl ((hclause.bind (.walk _) fun _ => .pure _) w f rfl hf)
  | sort fields =>
      have hkeys : Faults w.depth P (sortKeys s fields) :=
        faults_sortKeys fields fun field hfield => h _ (List.mem_map_of_mem hfield)
      exact .inl ((hkeys.bind (keepsDepth_sortKeys s fields) fun _ => .pure _) w f rfl hf)
  | limit amount =>
      obtain hf | ⟨count, w', -, hf⟩ := fails_bind.mp hf
      · exact fails_limit hP (h amount List.mem_cons_self) hf
      · cases hf
  | group field =>
      have hkey := faults_reference (h field.field List.mem_cons_self)
      exact .inl ((hkey.bind (keepsDepth_reference s _) fun _ => .pure _) w f rfl hf)
  | flatten field =>
      obtain hnote | ⟨_, w', -, hf⟩ := fails_bind.mp hf
      · cases hnote
      · cases hf
  | extract fields =>
      obtain hnote | ⟨_, w', -, hf⟩ := fails_bind.mp hf
      · cases hnote
      · cases hf
  | foreign node =>
      cases hf
      exact .inl hP

/-- Operations fail at one of them, after those before it were carried out. -/
theorem fails_operations_iff (ops : List Operation) {slots : Slots} {w : Workspace} {f : Fault} :
    Fails (operations s slots ops) w f ↔ ∃ done op rest slots' w', ops = done ++ op :: rest ∧
      Ran (operations s slots done) w slots' w' ∧ Fails (operation s slots' op) w' f := by
  induction ops generalizing slots w with
  | nil =>
      constructor
      · exact nofun
      · rintro ⟨done, op, rest, slots', w', hops, -⟩
        cases done <;> cases hops
  | cons op ops ih =>
      rw [operations, fails_bind]
      constructor
      · rintro (hf | ⟨slots₁, w₁, hran, hf⟩)
        · exact ⟨[], op, ops, slots, w, rfl, rfl, hf⟩
        · obtain ⟨done, op', rest, slots', w', rfl, hdone, hf⟩ := ih.mp hf
          exact ⟨op :: done, op', rest, slots', w', rfl,
            ran_bind.mpr ⟨slots₁, w₁, hran, hdone⟩, hf⟩
      · rintro ⟨done, op', rest, slots', w', hops, hdone, hf⟩
        cases done with
        | nil =>
            cases hops
            cases hdone
            exact .inl hf
        | cons first done =>
            cases hops
            obtain ⟨slots₁, w₁, hfirst, hdone⟩ := ran_bind.mp hdone
            exact .inr ⟨slots₁, w₁, hfirst, ih.mpr ⟨done, op', rest, slots', w', rfl, hdone, hf⟩⟩

/-- Operations fail as expressions do, or at a limit that stalls them. -/
theorem fails_operations (ops : List Operation) {slots : Slots} {w : Workspace} {f : Fault}
    (hP : ∀ op ∈ ops, LenientOn P s w.depth op)
    (h : ∀ op ∈ ops, ∀ e ∈ op.expressions, OnlyFaults P (e.condition s.treeLimit w.depth))
    (hf : Fails (operations s slots ops) w f) :
    P f ∨ ∃ done op rest slots' w', ops = done ++ op :: rest ∧
      Ran (operations s slots done) w slots' w' ∧ Stalls s w.depth op f := by
  obtain ⟨done, op, rest, slots', w', hops, hdone, hf⟩ := (fails_operations_iff ops).mp hf
  have hop : op ∈ ops := hops ▸ List.mem_append_right done List.mem_cons_self
  have hdepth := depth_of_ran_operations hdone
  rw [← hdepth] at hP h
  refine (fails_operation (hP op hop) (h op hop) hf).imp id fun hstalls => ?_
  exact ⟨done, op, rest, slots', w', hops, hdone, hdepth ▸ hstalls⟩

/-- `Prepared s q w₀ w`: the work on a query that starts from `w₀` comes to its operations, in the
state `w`. -/
def Prepared (s : Settings) (q : Query) (w₀ w : Workspace) : Prop :=
  ∃ display source w₁ w₂, Ran reset w₀ () w₁ ∧ Ran (header s q.header) w₁ display w₂ ∧
    Ran (sourceCondition s q.source) w₂ source w

variable {q : Query} {inView : Option Bool} {w₀ : Workspace}

theorem Prepared.depth_eq {w : Workspace} (h : Prepared s q w₀ w) : w.depth = 0 := by
  obtain ⟨display, source, w₁, w₂, hreset, hheader, hsource⟩ := h
  obtain ⟨-, rfl⟩ := ran_walk.mp hsource
  rw [keepsDepth_header s q.header _ _ _ hheader]
  cases hreset
  rfl

theorem exists_ran_base_iff :
    (∃ b w, Ran (base s q inView) w₀ b w) ↔
      ∃ w, Prepared s q w₀ w ∧ ∃ slots w', Ran (operations s {} q.operations) w slots w' := by
  constructor
  · rintro ⟨b, w, h⟩
    obtain ⟨_, w₁, hreset, h⟩ := ran_bind.mp h
    obtain ⟨display, w₂, hheader, h⟩ := ran_bind.mp h
    obtain ⟨source, w₃, hsource, h⟩ := ran_bind.mp h
    obtain ⟨slots, w₄, hslots, -⟩ := ran_bind.mp h
    exact ⟨w₃, ⟨display, source, w₁, w₂, hreset, hheader, hsource⟩, slots, w₄, hslots⟩
  · rintro ⟨w₃, ⟨display, source, w₁, w₂, hreset, hheader, hsource⟩, slots, w₄, hslots⟩
    exact ⟨_, _, ran_bind.mpr ⟨(), w₁, hreset, ran_bind.mpr ⟨display, w₂, hheader,
      ran_bind.mpr ⟨source, w₃, hsource, ran_bind.mpr ⟨slots, w₄, hslots, rfl⟩⟩⟩⟩⟩

theorem fails_base_of_prepared {w : Workspace} {f : Fault} (h : Prepared s q w₀ w)
    (hf : Fails (operations s {} q.operations) w f) : Fails (base s q inView) w₀ f := by
  obtain ⟨display, source, w₁, w₂, hreset, hheader, hsource⟩ := h
  exact fails_bind.mpr (.inr ⟨(), w₁, hreset, fails_bind.mpr (.inr ⟨display, w₂, hheader,
    fails_bind.mpr (.inr ⟨source, w, hsource, fails_bind.mpr (.inl hf)⟩)⟩)⟩)

/-- The work on a query fails at the header, at the source or at the operations. -/
theorem fails_base_cases {f : Fault} (hf : Fails (base s q inView) w₀ f) :
    (∃ w, w.depth = 0 ∧ Fails (header s q.header) w f) ∨
      (∃ w, w.depth = 0 ∧ Fails (sourceCondition s q.source) w f) ∨
      ∃ w, Prepared s q w₀ w ∧ Fails (operations s {} q.operations) w f := by
  obtain hreset | ⟨_, w₁, hreset, hf⟩ := fails_bind.mp hf
  · cases hreset
  have htop : w₁.depth = 0 := by
    cases hreset
    rfl
  obtain hheader | ⟨display, w₂, hheader, hf⟩ := fails_bind.mp hf
  · exact .inl ⟨w₁, htop, hheader⟩
  have htop₂ : w₂.depth = 0 := (keepsDepth_header s q.header _ _ _ hheader).trans htop
  obtain hsource | ⟨source, w₃, hsource, hf⟩ := fails_bind.mp hf
  · exact .inr (.inl ⟨w₂, htop₂, hsource⟩)
  obtain hslots | ⟨slots, w₄, -, hf⟩ := fails_bind.mp hf
  · exact .inr (.inr ⟨w₃, ⟨display, source, w₁, w₂, hreset, hheader, hsource⟩, hslots⟩)
  · cases hf

/-- The work on a query fails as its expressions and its source do at the top, or at a limit that
stalls it. -/
theorem fails_base (hP : Lenient P s q)
    (h : ∀ e ∈ q.expressions, OnlyFaults P (e.condition s.treeLimit 0))
    (hsource : OnlyFaults P (q.source.condition s.treeLimit 0)) {f : Fault}
    (hf : Fails (base s q inView) w₀ f) :
    P f ∨ ∃ w done op rest slots w', Prepared s q w₀ w ∧ q.operations = done ++ op :: rest ∧
      Ran (operations s {} done) w slots w' ∧ Stalls s 0 op f := by
  have hheader : ∀ e ∈ q.header.expressions, OnlyFaults P (e.condition s.treeLimit 0) :=
    fun e he => h e (List.mem_append_left _ he)
  have hoperations : ∀ op ∈ q.operations, ∀ e ∈ op.expressions,
      OnlyFaults P (e.condition s.treeLimit 0) :=
    fun op hop e he => h e (List.mem_append_right _ (List.mem_flatMap.mpr ⟨op, hop, he⟩))
  obtain ⟨w, htop, hf⟩ | ⟨w, htop, hf⟩ | ⟨w, hprepared, hf⟩ := fails_base_cases hf
  · exact .inl (faults_header hP.header hheader w f htop hf)
  · exact .inl (hsource f (htop ▸ fails_walk hf))
  · have htop := hprepared.depth_eq
    have hlenient := hP.operation
    rw [← htop] at hoperations hlenient
    refine (fails_operations q.operations hlenient hoperations hf).imp id ?_
    rintro ⟨done, op, rest, slots, w', hops, hdone, hstalls⟩
    rw [htop] at hstalls
    exact ⟨w, done, op, rest, slots, w', hprepared, hops, hdone, hstalls⟩

end Steps

/-! ## Limits -/

/-- An expression that tokens spell whose integers have at most `n` digits. -/
def Short (n : Nat) (e : Expr) : Prop :=
  e.IsSpelt fun t => t.Lexed ∧ t.integerDigits ≤ n

section Limits

variable {n : Nat} {s : Settings} {e : Expr}

theorem Short.within (hn : 1 ≤ n) (h : Short n e) : e.Within n :=
  Expr.IsSpelt.within (fun _ ht => ht) hn h

theorem Short.exists_wordStart {name : String} (h : Short n (.var name)) :
    ∃ c ∈ name.toList, Text.isWordStart c = true := by
  have hspelt := h (.var name) (by simp [Expr.leaves])
  cases hspelt with
  | var ht hk => exact ht.1.exists_wordStart hk

theorem baseText_literal_eq_ok {value : Literal} {limit depth : Nat} {text : String} :
    (Expr.literal value).baseText limit depth = .ok text ↔
      depth < limit ∧ Expr.literalText value = .ok text := by
  rw [Expr.baseText, map_eq_ok]
  constructor
  · rintro ⟨c, hc, rfl⟩
    rw [Expr.condition, Expr.lower_eq] at hc
    obtain ⟨d, hd, -⟩ := bind_eq_ok.mp hc
    obtain ⟨text, ht, rfl⟩ := Expr.of_lower_literal (Expr.lower_eq _ ▸ hc)
    exact ⟨(descend_eq_ok.mp hd).1, ht⟩
  · rintro ⟨hdepth, ht⟩
    refine ⟨.leaf text, Expr.lower_of_lowerNode ?_ ?_, rfl⟩
    · rw [Expr.start_alone]
      exact hdepth
    · exact bind_eq_ok.mpr ⟨text, ht, rfl⟩

/-- Only a number is written as an integer. -/
theorem isWorded_of_baseText (h : Short n e) {limit depth : Nat} {text : String}
    (htext : e.baseText limit depth = .ok text)
    (hint : ∀ k, e = .literal (.number (.int k)) → False)
    (hreal : ∀ x, e = .literal (.number (.real x)) → False) : Text.IsWorded text := by
  obtain ⟨c, hc, rfl⟩ := map_eq_ok.mp htext
  refine Expr.isWorded_of_lower hc ?_ ?_
  · rintro (k | x) rfl
    · exact hint k rfl
    · exact hreal x rfl
  · rintro name rfl
    exact h.exists_wordStart

/-- Only an integer beyond the real numbers is no number of rows. -/
theorem isBoundless_of_rowCount? (h : Short n e) {limit depth : Nat} {text : String} {f : Fault}
    (htext : e.baseText limit depth = .ok text) (hf : rowCount? e text = .error f) :
    f = .tooLarge ∧ depth < limit ∧ (Operation.limit e).isBoundless = true := by
  unfold rowCount? at hf
  split at hf
  case h_1 k =>
      obtain ⟨hdepth, hwritten⟩ := baseText_literal_eq_ok.mp htext
      split at hf
      case isTrue => cases hf
      case isFalse hinfinite =>
          cases hf
          rw [Expr.literalText] at hwritten
          split at hwritten
          case isTrue => cases hwritten
          case isFalse hlong => simp [Operation.isBoundless, hdepth, hlong, hinfinite]
  case h_2 => cases hf
  case h_3 hint hreal =>
      rw [(isWorded_of_baseText h htext hint hreal).not_isDecimal] at hf
      cases hf

theorem Stalls.isBoundless {depth : Nat} {op : Operation} {f : Fault}
    (hstalls : Stalls s depth op f) (h : ∀ e ∈ op.expressions, Short n e) :
    f = .tooLarge ∧ depth < s.treeLimit ∧ op.isBoundless = true := by
  obtain ⟨amount, text, rfl, htext, hcount⟩ := hstalls
  exact isBoundless_of_rowCount? (h amount List.mem_cons_self) htext hcount

theorem stalls_of_isBoundless {depth : Nat} {op : Operation} (hdepth : depth < s.treeLimit)
    (h : op.isBoundless = true) : Stalls s depth op .tooLarge := by
  unfold Operation.isBoundless at h
  split at h
  case h_1 k =>
      simp only [Bool.and_eq_true, Bool.not_eq_true'] at h
      refine ⟨_, (Number.int k).text, rfl, baseText_literal_eq_ok.mpr ⟨hdepth, ?_⟩, ?_⟩
      · simp [Expr.literalText, h.1]
      · simp [rowCount?, h.2]
  case h_2 => cases h

theorem le_of_isBoundless (hn : 1 ≤ n) {op : Operation} (h : ∀ e ∈ op.expressions, Short n e)
    (hop : op.isBoundless = true) : 309 ≤ n := by
  unfold Operation.isBoundless at hop
  split at hop
  case h_1 k =>
      simp only [Bool.and_eq_true, Bool.not_eq_true'] at hop
      have hk : (Number.int k).Within n := ((h _ List.mem_cons_self).within hn).literal
      by_contra hlt
      rw [Binary64.isFinite_ofInt (hk.mono (by omega))] at hop
      exact Bool.noConfusion hop.2
  case h_2 => cases hop

theorem fails_operation_of_stalls {op : Operation} {w : Workspace} {f : Fault} (slots : Slots)
    (h : Stalls s w.depth op f) : Fails (operation s slots op) w f := by
  obtain ⟨amount, text, rfl, htext, hcount⟩ := h
  have hran : Ran (baseText s amount) w text w := ran_walk.mpr ⟨htext, rfl⟩
  refine fails_bind.mpr (.inl (fails_bind.mpr (.inr ⟨text, w, hran, fails_bind.mpr (.inl ?_)⟩)))
  exact fails_ofExcept.mpr hcount

end Limits

end Work

namespace Query

variable {n : Nat} {s : Settings} {q : Query} {inView : Option Bool}

/-- The operations of a query come to a limit beyond the real numbers: the query with only the
operations before it has a base. -/
def ComesToBoundless (s : Settings) (q : Query) (inView : Option Bool) : Prop :=
  0 < s.treeLimit ∧ ∃ done op rest, q.operations = done ++ op :: rest ∧ op.isBoundless = true ∧
    ∃ b, toBase s { q with operations := done } inView = .ok b

/-- A query fails as an operation does, if it has a base with only the operations before it. -/
theorem toBase_of_fails_operation {done rest : List Operation} {op : Operation} {f : Fault}
    (hops : q.operations = done ++ op :: rest)
    (hdone : ∃ b, toBase s { q with operations := done } inView = .ok b)
    (hf : ∀ slots w, w.depth = 0 → Work.Fails (Work.operation s slots op) w f) :
    q.toBase s inView = .error f := by
  obtain ⟨b, hb⟩ := hdone
  obtain ⟨w, hprepared, slots, w', hdone⟩ := Work.exists_ran_base_iff.mp ⟨b, _, Prod.ext hb rfl⟩
  have hdepth : w'.depth = 0 := (Work.depth_of_ran_operations hdone).trans hprepared.depth_eq
  refine Work.fails_base_of_prepared (w := w) hprepared ((Work.fails_operations_iff _).mpr ?_)
  exact ⟨done, op, rest, slots, w', hops, hdone, hf slots w' hdepth⟩

theorem toBase_of_comesToBoundless (h : q.ComesToBoundless s inView) :
    q.toBase s inView = .error .tooLarge := by
  obtain ⟨hlimit, done, op, rest, hops, hop, hdone⟩ := h
  refine toBase_of_fails_operation hops hdone fun slots w hdepth => ?_
  exact Work.fails_operation_of_stalls slots (Work.stalls_of_isBoundless (hdepth ▸ hlimit) hop)

/-- A query of which no integer has more than `n` digits has a base, or fails as expressions do, or
comes to a limit beyond the real numbers. -/
theorem toBase_eq_error (hn : 1 ≤ n) (h : ∀ e ∈ q.expressions, Work.Short n e)
    (hsource : q.source.isStandard = true) {f : Fault} (hf : q.toBase s inView = .error f) :
    f.Allowed n ∨ f = .tooLarge ∧ q.ComesToBoundless s inView := by
  have hlenient : Work.Lenient (Fault.Allowed n) s q :=
    Work.lenient_of_forall (fun _ => trivial) (fun _ => trivial) s q
  have hexpressions : ∀ e ∈ q.expressions,
      OnlyFaults (Fault.Allowed n) (e.condition s.treeLimit 0) :=
    fun e he => e.onlyFaults_lower s.treeLimit .alone 0 ((h e he).within hn)
  have hcondition := q.source.onlyFaults_lower n s.treeLimit hsource false 0
  refine (Work.fails_base hlenient hexpressions hcondition hf).imp id ?_
  rintro ⟨w, done, op, rest, slots, w', hprepared, hops, hdone, hstalls⟩
  have hop : op ∈ q.operations := hops ▸ List.mem_append_right done List.mem_cons_self
  obtain ⟨rfl, hdepth, hboundless⟩ := hstalls.isBoundless fun e he =>
    h e (List.mem_append_right _ (List.mem_flatMap.mpr ⟨op, hop, he⟩))
  obtain ⟨b, w₁, hb⟩ :
      ∃ b w₁, Work.Ran (Work.base s { q with operations := done } inView) {} b w₁ :=
    Work.exists_ran_base_iff.mpr ⟨w, hprepared, slots, w', hdone⟩
  exact ⟨rfl, hdepth, done, op, rest, hops, hboundless, b, congrArg Prod.fst hb⟩

end Query

end VaultQuery
