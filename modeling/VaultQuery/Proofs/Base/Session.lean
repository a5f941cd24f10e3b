import VaultQuery.Proofs.Expr.Bracket
import VaultQuery.Proofs.Query.Depth

/-!
Sessions: calls on one workspace, each from the state that the last one left.  A call walks one
tree and can fail nowhere else, so a call that fails leaves the table as it was.  But a step down
that the limit refuses stays counted (`Work.OneWalk.state_of_fails`).  So a session comes to the
table that it comes to without the calls that fail, at a depth that has grown by the steps that
were refused, and the calls after it have so many levels less (`refused_steps_stay_counted`).
-/

namespace VaultQuery

/-! ## Heights -/

section Reach

variable {ν : Type} {changes : ν → Nat} {visits : List (Nat × ν)}

/-- The deepest level of some visits, with the changes along their chains. -/
def reach (changes : ν → Nat) (visits : List (Nat × ν)) : Nat :=
  (visits.map fun v => v.1 + changes v.2).foldr max 0

theorem reach_le_iff {limit : Nat} :
    reach changes visits ≤ limit ↔ ∀ v ∈ visits, v.1 + changes v.2 ≤ limit := by
  induction visits with
  | nil => simp [reach]
  | cons v visits ih =>
      rw [List.forall_mem_cons, ← ih]
      exact Nat.max_le

/-- The reach of visits that start further down. -/
theorem add_reach_le_iff {limit d : Nat} {n : ν} (hself : (1, n) ∈ visits) :
    d + reach changes visits ≤ limit ↔
      ∀ v ∈ visits.map fun v => (v.1 + d, v.2), v.1 + changes v.2 ≤ limit := by
  rw [List.forall_mem_map]
  constructor
  · intro h v hv
    have hv := reach_le_iff.mp (Nat.le_sub_of_add_le' h) v hv
    dsimp only
    omega
  · intro h
    have htop := h (1, n) hself
    have hreach : reach changes visits ≤ limit - d := by
      refine reach_le_iff.mpr fun v hv => ?_
      have := h v hv
      dsimp only at this
      omega
    dsimp only at htop
    omega

end Reach

/-- `Lowers limit height g y`: the walk `g` over a tree of some height has the result `y` at every
depth that leaves it room, and none at another. -/
structure Lowers {α : Type} (limit height : Nat) (g : Nat → Except Fault α) (y : Except Fault α) :
    Prop where
  eq_of_room {d : Nat} (h : d + height ≤ limit) : g d = y
  room {d : Nat} {a : α} (h : g d = .ok a) : d + height ≤ limit
  isOther : OnlyFaults Fault.IsOther y

theorem Lowers.map {α β : Type} {limit height : Nat} {g : Nat → Except Fault α}
    {y : Except Fault α} (h : Lowers limit height g y) (f : α → β) :
    Lowers limit height (fun d => (g d).map f) (y.map f) where
  eq_of_room hd := by rw [h.eq_of_room hd]
  room hd := by
    obtain ⟨a, ha, -⟩ := map_eq_ok.mp hd
    exact h.room ha
  isOther := h.isOther.map f

/-- The levels that the walk over an expression needs. -/
def Expr.height (e : Expr) : Nat :=
  reach Expr.operatorChanges (e.visits 1)

/-- The levels that the walk over a source needs. -/
def Source.height (src : Source) : Nat :=
  reach Source.jointChanges (src.visits 1)

theorem Expr.lowers_condition (limit : Nat) (e : Expr) :
    Lowers limit e.height (e.condition limit) e.plain := by
  have hfits : ∀ d, d + e.height ≤ limit ↔ ∀ v ∈ e.visits (d + 1), Fits limit v := by
    intro d
    rw [height, add_reach_le_iff (self_mem_visits 1 e), ← visits_add, Nat.add_comm 1 d]
    rfl
  refine ⟨fun {d} h => ?_, fun {d a} h => ?_, ?_⟩
  · have hwalk : Bounded operatorChanges limit (e.visits (d + 1)) (e.condition limit d) e.plain :=
      start_alone d e ▸ e.bounded_lower .alone d
    exact hwalk.eq ((hfits d).mp h)
  · exact (hfits d).mpr (condition_eq_ok_iff.mp h).2
  · exact e.onlyFaults_plain (fun _ _ => trivial) (.inl fun _ => trivial)

theorem Source.lowers_condition (limit : Nat) (src : Source) :
    Lowers limit src.height (src.condition limit) src.plain := by
  have hfits : ∀ d, d + src.height ≤ limit ↔
      ∀ v ∈ src.visits (d + 1), v.1 + v.2.jointChanges ≤ limit := by
    intro d
    rw [height, add_reach_le_iff (self_mem_visits 1 src), ← visits_add, Nat.add_comm 1 d]
  refine ⟨fun {d} h => ?_, fun {d r} h => ?_, ?_⟩
  · have hwalk : Bounded jointChanges limit (src.visits (d + 1)) (src.condition limit d)
        src.plain :=
      start_false d src ▸ src.bounded_lower false d
    exact hwalk.eq ((hfits d).mp h)
  · have hroom := room_of_child h (Nat.le_refl d) (by simp [continues_false])
    have hvisits := fits_of_lower src h hroom
    rw [start_false] at hvisits
    exact (hfits d).mpr hvisits
  · exact src.onlyFaults_plain trivial fun _ => trivial

/-! ## Work that walks one tree -/

/-- The state with another depth. -/
def Workspace.atDepth (w : Workspace) (depth : Nat) : Workspace :=
  { w with depth := depth }

/-- The levels that stay counted after a fault: the step down that was refused. -/
def Fault.levels : Fault → Nat
  | .obstacle (.tooDeep _) => 1
  | _ => 0

theorem Fault.IsOther.levels_eq {f : Fault} (h : f.IsOther) : f.levels = 0 := by
  cases f with
  | obstacle o =>
      cases o with
      | tooDeep => exact h.elim
      | _ => rfl
  | _ => rfl

theorem Fault.levels_eq_zero_iff {f : Fault} :
    f.levels = 0 ↔ ∀ limit, f ≠ .obstacle (.tooDeep limit) := by
  unfold Fault.levels
  split
  case h_1 limit => exact ⟨nofun, fun h => absurd rfl (h limit)⟩
  case h_2 hne => exact ⟨fun _ => hne, fun _ => rfl⟩

namespace Work

variable {α β : Type}

/-- Work that cannot fail and has no regard to the depth. -/
def Completes (x : Work α) : Prop :=
  ∀ w : Workspace, ∃ (a : α) (w' : Workspace), ∀ depth,
    Ran x (w.atDepth depth) a (w'.atDepth depth)

theorem Completes.pure (a : α) : Completes (Pure.pure a : Work α) :=
  fun w => ⟨a, w, fun _ => rfl⟩

theorem Completes.bind {x : Work α} {f : α → Work β} (hx : Completes x)
    (hf : ∀ a, Completes (f a)) : Completes (x >>= f) := by
  intro w
  obtain ⟨a, w₁, hran⟩ := hx w
  obtain ⟨b, w₂, hrest⟩ := hf a w₁
  exact ⟨b, w₂, fun depth => ran_bind.mpr ⟨a, w₁.atDepth depth, hran depth, hrest depth⟩⟩

theorem Completes.modify {f : Workspace → Workspace}
    (hf : ∀ w depth, f (w.atDepth depth) = (f w).atDepth depth) :
    Completes (modify f : Work Unit) := by
  intro w
  refine ⟨(), f w, fun depth => ?_⟩
  rw [← hf]
  rfl

theorem Completes.get_bind {f : Workspace → Work α} (hf : ∀ w, Completes (f w))
    (hblind : ∀ w depth, f (w.atDepth depth) = f w) : Completes (MonadState.get >>= f) := by
  intro w
  obtain ⟨a, w', hran⟩ := hf w w
  refine ⟨a, w', fun depth => ran_bind.mpr ⟨w.atDepth depth, w.atDepth depth, rfl, ?_⟩⟩
  rw [hblind]
  exact hran depth

theorem run_walk_of_error {g : Nat → Except Fault α} {w : Workspace} {f : Fault}
    (h : g w.depth = .error f) :
    (walk g).run.run w = (.error f, w.atDepth (w.depth + f.levels)) := by
  have hget : StateT.run (ExceptT.run (MonadState.get : Work Workspace)) w = pure (.ok w, w) := rfl
  unfold walk
  rw [ExceptT.run_bind, StateT.run_bind, hget, pure_bind]
  dsimp only
  rw [h]
  cases f with
  | obstacle o => cases o <;> rfl
  | _ => rfl

/-- `OneWalk limit height lowerable x`: the work `x` walks one tree of some height, and can fail
nowhere else. -/
structure OneWalk (limit height : Nat) (lowerable : Prop) (x : Work α) : Prop where
  succeeds_iff (w : Workspace) :
    (∃ a w', Ran x w a w') ↔ lowerable ∧ w.depth + height ≤ limit
  ran_atDepth {w w' : Workspace} {a : α} {depth : Nat} (h : Ran x w a w')
    (hroom : depth + height ≤ limit) : Ran x (w.atDepth depth) a (w'.atDepth depth)
  state_of_fails {w : Workspace} {f : Fault} (h : Fails x w f) :
    (x.run.run w).2 = w.atDepth (w.depth + f.levels)
  noRoom {w : Workspace} {f : Fault} (h : Fails x w f) (hlevels : f.levels ≠ 0) :
    limit < w.depth + height

/-- Work that fails leaves the state as it was exactly if no step down was refused. -/
theorem OneWalk.state_eq_iff {limit height : Nat} {lowerable : Prop} {x : Work α}
    (hx : OneWalk limit height lowerable x) {w : Workspace} {f : Fault} (h : Fails x w f) :
    (x.run.run w).2 = w ↔ f.levels = 0 := by
  rw [hx.state_of_fails h]
  constructor
  · intro hsame
    have hdepth := congrArg Workspace.depth hsame
    simpa [Workspace.atDepth] using hdepth
  · intro hlevels
    rw [hlevels]
    rfl

theorem oneWalk_walk_bind {limit height : Nat} {g : Nat → Except Fault α} {y : Except Fault α}
    {k : α → Work β} (hg : Lowers limit height g y) (hk : ∀ a, Completes (k a)) :
    OneWalk limit height (∃ a, y = .ok a) (walk g >>= k) := by
  have hfails : ∀ {w f}, Fails (walk g >>= k) w f → g w.depth = .error f := by
    intro w f h
    obtain h | ⟨a, w₁, -, h⟩ := fails_bind.mp h
    · exact fails_walk h
    · obtain ⟨b, w', hran⟩ := hk a w₁
      have hran : Ran (k a) w₁ b _ := hran w₁.depth
      unfold Fails at h
      rw [hran] at h
      cases h
  refine ⟨fun w => ?_, fun {w w' b depth} h hroom => ?_, fun {w f} h => ?_, fun {w f} h hf => ?_⟩
  · constructor
    · rintro ⟨b, w', h⟩
      obtain ⟨a, w₁, hwalk, -⟩ := ran_bind.mp h
      have ha := (ran_walk.mp hwalk).1
      have hroom := hg.room ha
      exact ⟨⟨a, hg.eq_of_room hroom ▸ ha⟩, hroom⟩
    · rintro ⟨⟨a, ha⟩, hroom⟩
      obtain ⟨b, w', hran⟩ := hk a w
      refine ⟨b, w'.atDepth w.depth, ran_bind.mpr ⟨a, w, ran_walk.mpr ⟨?_, rfl⟩, hran w.depth⟩⟩
      rw [hg.eq_of_room hroom, ha]
  · obtain ⟨a, w₁, hwalk, hrest⟩ := ran_bind.mp h
    obtain ⟨ha, rfl⟩ := ran_walk.mp hwalk
    have hy : y = .ok a := hg.eq_of_room (hg.room ha) ▸ ha
    obtain ⟨b', w'', hran⟩ := hk a w₁
    -- the rest of the work is known at every depth, so also at the one it started from
    have hsame : (Except.ok b, w') = (Except.ok b', w''.atDepth w₁.depth) :=
      hrest.symm.trans (hran w₁.depth)
    cases hsame
    refine ran_bind.mpr ⟨a, w₁.atDepth depth, ran_walk.mpr ⟨?_, rfl⟩, hran depth⟩
    exact (hg.eq_of_room hroom).trans hy
  · rw [ExceptT.run_bind, StateT.run_bind, run_walk_of_error (hfails h)]
    rfl
  · by_contra hle
    have herror := hfails h
    rw [hg.eq_of_room (Nat.le_of_not_lt hle)] at herror
    exact hf (hg.isOther f herror).levels_eq

theorem completes_formulaKey (field : NamedField) : Completes (formulaKey field) :=
  (Completes.modify fun _ _ => rfl).bind fun _ => .get_bind (fun _ => .pure _) fun _ _ => rfl

section Steps

variable {s : Settings}

theorem oneWalk_baseText_bind (e : Expr) {k : String → Work β} (hk : ∀ text, Completes (k text)) :
    OneWalk s.treeLimit e.height (∃ c, e.plain = .ok c) (baseText s e >>= k) := by
  have hlowerable : (∃ text, e.plain.map Condition.inline = .ok text) ↔ ∃ c, e.plain = .ok c := by
    cases e.plain with
    | ok c => exact ⟨fun _ => ⟨c, rfl⟩, fun _ => ⟨c.inline, rfl⟩⟩
    | error f => exact ⟨nofun, nofun⟩
  rw [← hlowerable]
  exact oneWalk_walk_bind ((e.lowers_condition s.treeLimit).map Condition.inline) hk

end Steps

end Work

/-! ## Calls -/

/-- A call on a workspace. -/
inductive Call where
  | condition (e : Expr)
  | baseText (e : Expr)
  | source (src : Source)
  | reference (field : Expr)
  | column (field : NamedField)

/-- What a call answers. -/
inductive Answer where
  | condition (c : Condition)
  | text (text : String)
  | source (c? : Option Condition)
  | column (path label : String)

namespace Call

/-- The work of a call. -/
def work (s : Settings) : Call → Work Answer
  | .condition e => do return .condition (← Work.condition s e)
  | .baseText e => do return .text (← Work.baseText s e)
  | .source src => do return .source (← Work.sourceCondition s src)
  | .reference field => do return .text (← Work.reference s field)
  | .column field => do
    let p ← Work.column s field
    return .column p.1 p.2

/-- The levels that a call needs. -/
def height : Call → Nat
  | .condition e | .baseText e | .reference e => e.height
  | .source src => src.height
  | .column field => field.field.height

/-- A call that can be answered if there is room. -/
def IsLowerable : Call → Prop
  | .condition e | .baseText e | .reference e => ∃ c, e.plain = .ok c
  | .source src => ∃ c?, src.plain = .ok c?
  | .column field => ∃ c, field.field.plain = .ok c

/-- A call walks one tree, and can fail nowhere else. -/
theorem oneWalk_work (s : Settings) (call : Call) :
    Work.OneWalk s.treeLimit call.height call.IsLowerable (call.work s) := by
  cases call with
  | condition e => exact Work.oneWalk_walk_bind (e.lowers_condition s.treeLimit) fun _ => .pure _
  | baseText e => exact Work.oneWalk_baseText_bind e fun _ => .pure _
  | source src => exact Work.oneWalk_walk_bind (src.lowers_condition s.treeLimit) fun _ => .pure _
  | reference field =>
      rw [work, Work.reference, bind_assoc]
      refine Work.oneWalk_baseText_bind field fun text => ?_
      exact .bind (.get_bind (fun _ => .pure _) fun _ _ => rfl) fun _ => .pure _
  | column field =>
      have hadd : ∀ (text : String) (p : String × String), Work.Completes (do
          modify fun w => { w with columns := w.columns ++ [⟨p.1, text, field.alias?⟩] }
          return p : Work (String × String)) :=
        fun _ _ => (Work.Completes.modify fun _ _ => rfl).bind fun _ => .pure _
      rw [work, Work.column, bind_assoc]
      refine Work.oneWalk_baseText_bind field.field fun text =>
        Work.Completes.bind ?_ fun _ => .pure _
      split
      case isTrue =>
          refine (Work.completes_formulaKey field).bind fun _ => ?_
          exact (Work.Completes.modify fun _ _ => rfl).bind fun _ =>
            (Work.Completes.pure _).bind fun p => hadd text p
      case isFalse => exact (Work.Completes.pure _).bind fun p => hadd text p

end Call

/-! ## Sessions -/

/-- Makes calls one after the other; gives every call with what it came to, and the last state. -/
def session (s : Settings) (w : Workspace) :
    List Call → List (Call × Except Fault Answer) × Workspace
  | [] => ([], w)
  | call :: calls =>
    let here := (call.work s).run.run w
    let rest := session s here.2 calls
    ((call, here.1) :: rest.1, rest.2)

/-- The levels that stay counted after some calls. -/
def levelsKept (results : List (Call × Except Fault Answer)) : Nat :=
  (results.map fun r => match r.2 with
    | .ok _ => 0
    | .error f => f.levels).sum

/-- The calls that were answered. -/
def answered (results : List (Call × Except Fault Answer)) : List (Call × Except Fault Answer) :=
  results.filter fun r => r.2.isOk

section Session

variable {s : Settings}

theorem session_cons_of_ran {w w' : Workspace} {call : Call} {a : Answer}
    (h : Work.Ran (call.work s) w a w') (calls : List Call) :
    session s w (call :: calls) =
      ((call, .ok a) :: (session s w' calls).1, (session s w' calls).2) := by
  rw [session, h]

theorem session_cons_of_fails {w : Workspace} {call : Call} {f : Fault}
    (h : Work.Fails (call.work s) w f) (calls : List Call) :
    session s w (call :: calls) =
      ((call, .error f) :: (session s (w.atDepth (w.depth + f.levels)) calls).1,
        (session s (w.atDepth (w.depth + f.levels)) calls).2) := by
  rw [session, (call.oneWalk_work s).state_of_fails h, h]

theorem ran_or_fails (s : Settings) (w : Workspace) (call : Call) :
    (∃ a w', Work.Ran (call.work s) w a w' ∧ w'.depth = w.depth) ∨
      ∃ f, Work.Fails (call.work s) w f := by
  cases hrun : (call.work s).run.run w with
  | mk result w' =>
      cases result with
      | error f => exact .inr ⟨f, by rw [Work.Fails, hrun]⟩
      | ok a =>
          have hroom := (((call.oneWalk_work s).succeeds_iff w).mp ⟨a, w', hrun⟩).2
          have hsame := (call.oneWalk_work s).ran_atDepth hrun hroom
          -- the call at the depth that it has is the call itself
          have hstate : (Except.ok a, w') = (Except.ok a, w'.atDepth w.depth) :=
            hrun.symm.trans hsame
          exact .inl ⟨a, w', hrun, congrArg (fun r => r.2.depth) hstate⟩

/-- A session leaves the depth where it was, but for the steps that were refused. -/
theorem depth_session (calls : List Call) (w : Workspace) :
    (session s w calls).2.depth = w.depth + levelsKept (session s w calls).1 := by
  induction calls generalizing w with
  | nil => rfl
  | cons call calls ih =>
      obtain ⟨a, w', hran, hdepth⟩ | ⟨f, hf⟩ := ran_or_fails s w call
      · rw [session_cons_of_ran hran, ih w', hdepth]
        simp [levelsKept]
      · rw [session_cons_of_fails hf, ih]
        simp [levelsKept, Workspace.atDepth, Nat.add_assoc]

/-- A session without the calls that fail gives the same answers, from any depth that is no deeper,
and comes to the same table. -/
theorem session_answered (calls : List Call) (w : Workspace) {depth : Nat}
    (h : depth ≤ w.depth) :
    session s (w.atDepth depth) ((answered (session s w calls).1).map Prod.fst) =
      (answered (session s w calls).1, (session s w calls).2.atDepth depth) := by
  induction calls generalizing w with
  | nil => rfl
  | cons call calls ih =>
      obtain ⟨a, w', hran, hdepth⟩ | ⟨f, hf⟩ := ran_or_fails s w call
      · have hroom := (((call.oneWalk_work s).succeeds_iff w).mp ⟨a, w', hran⟩).2
        have hmoved : Work.Ran (call.work s) (w.atDepth depth) a (w'.atDepth depth) :=
          (call.oneWalk_work s).ran_atDepth hran (by omega)
        have hrest := ih w' (by omega)
        rw [session_cons_of_ran hran]
        change session s _ (call :: (answered (session s w' calls).1).map Prod.fst) = _
        rw [session_cons_of_ran hmoved, hrest]
        rfl
      · rw [session_cons_of_fails hf]
        exact ih (w.atDepth (w.depth + f.levels)) (Nat.le_add_right_of_le h)

/-- **Failures in a session.**  A call that fails leaves the state as it was, but that the step down
which the limit refused stays counted; that takes a tree with no room.  After a session the state is
that of the session without the calls that failed, deeper by the steps that were refused; so a call
that the latter would answer fails exactly if these levels are missing, and has the same answer if
they are not. -/
theorem refused_steps_stay_counted (s : Settings) (w : Workspace) (calls : List Call) :
    let done := session s w calls
    let spared := session s w ((answered done.1).map Prod.fst)
    (∀ (call : Call) f, Work.Fails (call.work s) w f →
      ((call.work s).run.run w).2 = { w with depth := w.depth + f.levels } ∧
        (((call.work s).run.run w).2 = w ↔ ∀ limit, f ≠ .obstacle (.tooDeep limit)) ∧
        (w.depth + call.height ≤ s.treeLimit → ((call.work s).run.run w).2 = w)) ∧
      spared.1 = answered done.1 ∧ spared.2.depth = w.depth ∧
      done.2 = { spared.2 with depth := w.depth + levelsKept done.1 } ∧
      ∀ (call : Call) a w', Work.Ran (call.work s) spared.2 a w' →
        ((∃ f, Work.Fails (call.work s) done.2 f) ↔
          s.treeLimit < w.depth + levelsKept done.1 + call.height) ∧
        (w.depth + levelsKept done.1 + call.height ≤ s.treeLimit →
          Work.Ran (call.work s) done.2 a { w' with depth := done.2.depth }) := by
  intro done spared
  have hdepth : done.2.depth = w.depth + levelsKept done.1 := depth_session calls w
  have hspared : spared = (answered done.1, done.2.atDepth w.depth) :=
    session_answered calls w (Nat.le_refl w.depth)
  refine ⟨fun call f hf => ?_, by rw [hspared], by rw [hspared]; rfl, ?_, fun call a w' hran => ?_⟩
  · have hcall := call.oneWalk_work s
    have hsame := hcall.state_eq_iff hf
    refine ⟨hcall.state_of_fails hf, hsame.trans Fault.levels_eq_zero_iff, fun hroom =>
      hsame.mpr ?_⟩
    by_contra hlevels
    exact absurd (hcall.noRoom hf hlevels) (Nat.not_lt.mpr hroom)
  · rw [hspared, ← hdepth]
    rfl
  · have hcall := call.oneWalk_work s
    rw [hspared] at hran
    have hmoved : w.depth + levelsKept done.1 + call.height ≤ s.treeLimit →
        Work.Ran (call.work s) done.2 a { w' with depth := done.2.depth } := by
      intro hroom
      rw [← hdepth] at hroom
      have hback := hcall.ran_atDepth hran hroom
      exact hback
    refine ⟨⟨fun ⟨f, hf⟩ => ?_, fun hlt => ?_⟩, hmoved⟩
    · by_contra hle
      have hok := hmoved (Nat.le_of_not_lt hle)
      unfold Work.Fails at hf
      rw [hok] at hf
      cases hf
    · obtain ⟨b, w'', hok, -⟩ | hf := ran_or_fails s done.2 call
      · have hroom := ((hcall.succeeds_iff done.2).mp ⟨b, w'', hok⟩).2
        rw [hdepth] at hroom
        omega
      · exact hf

/-- A variable under one negation. -/
def negatedOnce : Expr := .negated (.var "a")

/-- Settings under which the walk has two levels: enough for one negation, but not for two. -/
def twoLevels : Settings where
  treeLimit := 2

/-- After a double negation was refused, a single one is refused that would be accepted. -/
theorem refused_steps_stay_counted_negations :
    (session twoLevels {} [.condition (.negated negatedOnce)]).2 = { depth := 1 } ∧
      (∃ a, Work.Ran ((Call.condition negatedOnce).work twoLevels) {} a {}) ∧
      ∃ f, Work.Fails ((Call.condition negatedOnce).work twoLevels)
        (session twoLevels {} [.condition (.negated negatedOnce)]).2 f := by
  have hran : Work.Ran ((Call.condition negatedOnce).work twoLevels) {}
      (.condition (.group .not [.leaf "a"])) {} := rfl
  have h := refused_steps_stay_counted twoLevels {} [.condition (.negated negatedOnce)]
  exact ⟨rfl, ⟨_, hran⟩, ((h.2.2.2.2 _ _ _ hran).1).mpr (by decide)⟩

end Session

end VaultQuery
