import VaultQuery.Proofs.Convert
import VaultQuery.Proofs.Query.Refusal

/-!
Converting under two limits of depth.  The limits decide nothing but where the work is given up: a
conversion that is not refused for its depth has the same outcome and the same remarks under all
higher limits (`limits_only_refuse`).
-/

namespace VaultQuery

/-! ## Walks -/

section Walk

variable {limit limit' : Nat}

theorem kept_descend (h : limit ≤ limit') (depth : Nat) :
    Kept (descend limit depth) (descend limit' depth) := by
  rw [descend, descend]
  split
  case isTrue hroom =>
      rw [if_pos (Nat.le_trans hroom h)]
      exact .same _
  case isFalse => exact .refused rfl _

namespace Expr

theorem kept_level (h : limit ≤ limit') (place : Place) (depth : Nat) (e : Expr) :
    Kept (level limit place depth e) (level limit' place depth e) := by
  rw [level, level]
  split
  case isTrue => exact .same _
  case isFalse => exact kept_descend h depth

theorem kept_checkChain (h : limit ≤ limit') (depth : Nat) (place : Place) (e : Expr) :
    Kept (checkChain limit depth place e) (checkChain limit' depth place e) := by
  rw [checkChain, checkChain]
  split
  case isTrue => exact .refused rfl _
  case isFalse hroom =>
      split
      case isTrue hmore =>
          simp only [Bool.and_eq_true, decide_eq_true_eq] at hroom hmore
          exact absurd ⟨hmore.1, by omega⟩ hroom
      case isFalse => exact .same _

mutual

/-- An expression has the same condition or fault under the higher limit, unless it met the lower
one. -/
theorem kept_lower (h : limit ≤ limit') (place : Place) (depth : Nat) (e : Expr) :
    Kept (lower limit place depth e) (lower limit' place depth e) := by
  match e with
  | .var name =>
      rw [lower, lower]
      exact (kept_level h place depth _).bind fun _ => .same _
  | .literal value =>
      rw [lower, lower]
      exact (kept_level h place depth _).bind fun _ => .same _
  | .index object key =>
      rw [lower, lower]
      refine (kept_level h place depth _).bind fun d => ?_
      refine (kept_lower h .path d object).bind fun raw => ?_
      dsimp only
      split
      case h_1 => exact .same _
      case h_2 => exact (kept_lower h .alone d key).bind fun inside => .same _
  | .binary op left right =>
      rw [lower, lower]
      refine (kept_level h place depth _).bind fun d => ?_
      split
      case isTrue =>
          refine (kept_checkChain h d place _).bind fun _ => ?_
          refine (kept_lower h .logical d left).bind fun value => ?_
          exact (kept_lower h .alone d right).bind fun rightValue => .same _
      case isFalse =>
          refine (kept_lower h (.chain op.precedence) d left).bind fun value => ?_
          dsimp only
          split
          -- a sum may move a date by a duration; then its right side is not walked
          all_goals
            refine Kept.bind (.same _) fun moved => ?_
            split
            case h_1 => exact .same _
            case h_2 => exact (kept_lower h .alone d right).bind fun rightValue => .same _
  | .call name args =>
      rw [lower, lower]
      refine (kept_level h place depth _).bind fun d => ?_
      refine Kept.bind (.same (specialCall? name args)) fun special => ?_
      cases special with
      | some text => exact .same _
      | none => exact (kept_lowerAll h d args).bind fun texts => .same _
  | .negated child =>
      rw [lower, lower]
      refine (kept_level h place depth _).bind fun d => ?_
      exact (kept_lower h .alone d child).bind fun value => .same _
  | .list items =>
      rw [lower, lower]
      refine (kept_level h place depth _).bind fun d => ?_
      exact (kept_lowerAll h d items).bind fun texts => .same _
  | .foreign node =>
      rw [lower, lower]
      exact (kept_level h place depth _).bind fun _ => .same _

theorem kept_lowerAll (h : limit ≤ limit') (depth : Nat) (es : List Expr) :
    Kept (lowerAll limit depth es) (lowerAll limit' depth es) := by
  match es with
  | [] => exact .same _
  | e :: es =>
      rw [lowerAll, lowerAll]
      refine (kept_lower h .alone depth e).bind fun value => ?_
      exact (kept_lowerAll h depth es).bind fun texts => .same _

end

end Expr

theorem Source.kept_lower (h : limit ≤ limit') (inChain : Bool) (depth : Nat) (s : Source) :
    Kept (lower limit inChain depth s) (lower limit' inChain depth s) := by
  induction s generalizing inChain depth with
  | negated child ih =>
      rw [lower, lower]
      refine (kept_descend h depth).bind fun d => ?_
      exact (ih false d).bind fun inner => .same _
  | joined joint left right ihleft ihright =>
      have hpair : ∀ (c : Connective) (d : Nat),
          Kept (do
              let value ← lower limit true d left
              let rightValue ← lower limit false d right
              return joinOptional c value rightValue)
            (do
              let value ← lower limit' true d left
              let rightValue ← lower limit' false d right
              return joinOptional c value rightValue) :=
        fun c d => (ihleft true d).bind fun value => (ihright false d).bind fun _ => .same _
      rw [lower, lower]
      cases inChain && (connective? joint).isSome with
      | true =>
          refine Kept.bind (.same _) fun d => ?_
          simp only [Bool.not_true, Bool.false_and, Bool.false_eq_true, if_false]
          cases connective? joint with
          | none => exact .same _
          | some c => exact hpair c d
      | false =>
          refine (kept_descend h depth).bind fun d => ?_
          simp only [Bool.not_false, Bool.true_and, decide_eq_true_eq]
          by_cases hroom : limit < d + (joined joint left right).jointChanges
          · rw [if_pos hroom]
            exact .refused rfl _
          · rw [if_neg hroom, if_neg (by omega)]
            cases connective? joint with
            | none => exact .same _
            | some c => exact hpair c d
  | _ =>
      rw [lower, lower]
      exact (kept_descend h depth).bind fun _ => .same _

end Walk

/-! ## Work -/

/-- The same settings with other limits of depth. -/
def Settings.withLimits (s : Settings) (nesting tree : Nat) : Settings :=
  { s with nestingLimit := nesting, treeLimit := tree }

namespace Work

section Kept

variable {α β : Type} {s : Settings} {nesting tree : Nat}

/-- Work under low limits has the same outcome under high ones, in the same state, unless it is
refused. -/
def KeptWork (x x' : Work α) : Prop :=
  ∀ w, (∃ f, Fails x w f ∧ f.isRefusal = true) ∨ x.run.run w = x'.run.run w

theorem KeptWork.same (x : Work α) : KeptWork x x :=
  fun _ => .inr rfl

theorem KeptWork.bind {x x' : Work α} {f f' : α → Work β} (h : KeptWork x x')
    (hf : ∀ a, KeptWork (f a) (f' a)) : KeptWork (x >>= f) (x' >>= f') := by
  intro w
  rcases h w with ⟨e, hfails, he⟩ | hsame
  · exact .inl ⟨e, fails_bind.mpr (.inl hfails), he⟩
  · rw [ExceptT.run_bind, ExceptT.run_bind, StateT.run_bind, StateT.run_bind, ← hsame]
    cases hx : x.run.run w with
    | mk r w₁ =>
        cases r with
        | error e => exact .inr rfl
        | ok a =>
            rcases hf a w₁ with ⟨e, hfails, he⟩ | hsame
            · exact .inl ⟨e, fails_bind.mpr (.inr ⟨a, w₁, hx, hfails⟩), he⟩
            · exact .inr hsame

theorem kept_walk {f f' : Nat → Except Fault α} (h : ∀ depth, Kept (f depth) (f' depth)) :
    KeptWork (walk f) (walk f') := by
  refine (KeptWork.same get).bind fun w => ?_
  have hkept := h w.depth
  generalize f w.depth = r at hkept
  generalize f' w.depth = r' at hkept
  cases hkept with
  | same => exact .same _
  | @refused e he =>
      intro w'
      refine .inl ⟨e, ?_, he⟩
      split
      case h_1 => rename_i hok; cases hok
      case h_2 hobstacle =>
          cases hobstacle
          rfl
      case h_3 herror =>
          cases herror
          rfl

variable (htree : s.treeLimit ≤ tree)
include htree

theorem kept_baseText (e : Expr) :
    KeptWork (baseText s e) (baseText (s.withLimits nesting tree) e) :=
  kept_walk fun depth => (Expr.kept_lower htree .alone depth e).map Condition.inline

theorem kept_reference (field : Expr) :
    KeptWork (reference s field) (reference (s.withLimits nesting tree) field) :=
  (kept_baseText htree field).bind fun _ => .same _

theorem kept_columns (display : List (String × String)) (fields : List NamedField) :
    KeptWork (columns s display fields) (columns (s.withLimits nesting tree) display fields) := by
  induction fields generalizing display with
  | nil => exact .same _
  | cons field fields ih =>
      have hcolumn : KeptWork (column s field) (column (s.withLimits nesting tree) field) :=
        (kept_baseText htree field.field).bind fun text => .same _
      exact hcolumn.bind fun placed => ih (putLabel display placed.1 placed.2)

theorem kept_header (header : Header) :
    KeptWork (Work.header s header) (Work.header (s.withLimits nesting tree) header) := by
  cases header with
  | table fields showId => exact kept_columns htree _ fields
  | _ => exact .same _

theorem kept_sortKeys (fields : List SortField) :
    KeptWork (sortKeys s fields) (sortKeys (s.withLimits nesting tree) fields) := by
  induction fields with
  | nil => exact .same _
  | cons field fields ih =>
      refine (kept_reference htree field.field).bind fun path => ?_
      exact ih.bind fun keys => .same _

theorem kept_operation (slots : Slots) (op : Operation) :
    KeptWork (operation s slots op) (operation (s.withLimits nesting tree) slots op) := by
  cases op with
  | keep clause =>
      have hclause : KeptWork (condition s clause) (condition (s.withLimits nesting tree) clause) :=
        kept_walk fun depth => Expr.kept_lower htree .alone depth clause
      exact hclause.bind fun c => .same _
  | sort fields => exact (kept_sortKeys htree fields).bind fun keys => .same _
  | limit amount =>
      have hrows : KeptWork (limit s amount slots.limit)
          (limit (s.withLimits nesting tree) amount slots.limit) :=
        (kept_baseText htree amount).bind fun text => .same _
      exact hrows.bind fun rows => .same _
  | group field => exact (kept_reference htree field.field).bind fun path => .same _
  | flatten field => exact .same _
  | extract fields => exact .same _
  | foreign node => exact .same _

theorem kept_operations (slots : Slots) (ops : List Operation) :
    KeptWork (operations s slots ops) (operations (s.withLimits nesting tree) slots ops) := by
  induction ops generalizing slots with
  | nil => exact .same _
  | cons op ops ih => exact (kept_operation htree slots op).bind fun slots' => ih slots'

theorem kept_base (q : Query) (inView : Option Bool) :
    KeptWork (base s q inView) (base (s.withLimits nesting tree) q inView) := by
  refine (KeptWork.same reset).bind fun _ => ?_
  refine (kept_header htree q.header).bind fun display => ?_
  have hsource : KeptWork (sourceCondition s q.source)
      (sourceCondition (s.withLimits nesting tree) q.source) :=
    kept_walk fun depth => Source.kept_lower htree false depth q.source
  refine hsource.bind fun source => ?_
  exact (kept_operations htree {} q.operations).bind fun slots => .same _

end Kept

end Work

/-! ## Conversions -/

section Convert

variable {s : Settings} {nesting tree : Nat}

/-- A conversion is refused for its depth, or it has the same outcome and the same remarks under
all higher limits. -/
theorem convert_refused_or_same (hnesting : s.nestingLimit ≤ nesting) (htree : s.treeLimit ≤ tree)
    (text : String) (inView : Option Bool) :
    (∃ f, (convert s text inView).1 = .error f ∧ f.isRefusal = true) ∨
      convert (s.withLimits nesting tree) text inView = convert s text inView := by
  rcases (Query.kept_read (Int.ofNat_le.mpr hnesting) text).refused_or_eq with
    ⟨f, hlow, hf⟩ | hread
  · refine .inl ⟨f, ?_, hf⟩
    rw [convert_fst, hlow]
    rfl
  cases hlow : Query.read text s.nestingLimit with
  | error e =>
      have hhigh : Query.read text (s.withLimits nesting tree).nestingLimit = .error e :=
        hread.symm.trans hlow
      refine .inr ?_
      unfold convert
      rw [hhigh, hlow]
      cases e <;> rfl
  | ok q =>
      have hhigh : Query.read text (s.withLimits nesting tree).nestingLimit = .ok q :=
        hread.symm.trans hlow
      rcases Work.kept_base htree q inView {} with ⟨f, hfails, hf⟩ | hwork
      · refine .inl ⟨f, ?_, hf⟩
        rw [convert_fst, hlow]
        exact hfails
      · refine .inr ?_
        unfold convert
        rw [hhigh, hlow]
        dsimp only
        rw [hwork]

/-- Raising the limits of depth changes no conversion and no reading that succeeds: what is not
refused for its depth under the lower limits is the same under the higher ones, down to its faults
and remarks. -/
theorem limits_only_refuse (hnesting : s.nestingLimit ≤ nesting) (htree : s.treeLimit ≤ tree)
    (text : String) (inView : Option Bool) :
    (∀ b, (convert s text inView).1 = .ok b →
        (convert (s.withLimits nesting tree) text inView).1 = .ok b) ∧
      (∀ f, Query.read text nesting = .error f →
        ∃ f', Query.read text s.nestingLimit = .error f') ∧
      ((∃ f, (convert s text inView).1 = .error f ∧ f.isRefusal = true) ∨
        convert (s.withLimits nesting tree) text inView = convert s text inView) ∧
      ((∃ f, Query.read text s.nestingLimit = .error f ∧ f.isRefusal = true) ∨
        Query.read text nesting = Query.read text s.nestingLimit) := by
  have hconvert := convert_refused_or_same hnesting htree text inView
  have hread := (Query.kept_read (Int.ofNat_le.mpr hnesting) text).refused_or_eq
  refine ⟨fun b hb => ?_, fun f hf => ?_, hconvert, hread.imp_right Eq.symm⟩
  · rcases hconvert with ⟨f, hf, -⟩ | hsame
    · rw [hb] at hf
      cases hf
    · rw [hsame, hb]
  · rcases hread with ⟨f', hf', -⟩ | hsame
    · exact ⟨f', hf'⟩
    · exact ⟨f, hsame.trans hf⟩

/-- A query whose text nests three levels deep, and whose tree four. -/
def nestedText : String :=
  "TABLE a FROM #b WHERE !(a AND b OR !c)"

/-- Settings under which `nestedText` just fits. -/
def tightSettings : Settings where
  nestingLimit := 3
  treeLimit := 4

theorem limits_only_refuse_nested :
    (∃ b, (convert tightSettings nestedText none).1 = .ok b ∧
        (convert { nestingLimit := 20, treeLimit := 40 } nestedText none).1 = .ok b) ∧
      (convert { tightSettings with treeLimit := 3 } nestedText none).1.isOk = false ∧
      (convert { tightSettings with nestingLimit := 2 } nestedText none).1.isOk = false := by
  refine ⟨?_, by decide +kernel, by decide +kernel⟩
  have hok : (convert tightSettings nestedText none).1.isOk = true := by decide +kernel
  cases hconvert : (convert tightSettings nestedText none).1 with
  | error f =>
      rw [hconvert] at hok
      cases hok
  | ok b =>
      have hnesting : tightSettings.nestingLimit ≤ 20 := by decide
      have htree : tightSettings.treeLimit ≤ 40 := by decide
      exact ⟨b, rfl, (limits_only_refuse hnesting htree nestedText none).1 b hconvert⟩

end Convert

end VaultQuery
