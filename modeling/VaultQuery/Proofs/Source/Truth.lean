import VaultQuery.Proofs.Filter
import VaultQuery.Proofs.Source.Lower

/-!
Which pages a source selects, and which pages its condition selects.  `Source.holds` follows the
source down to its folders, tags and links; a folder without a path stands for every page.  The
condition of a source is that of the source with such folders left out, so the two agree wherever
leaving them out makes no difference (`selects_eq_holds_iff`): it makes one in a negation of nothing
else, and in a disjunction with something else.
-/

namespace VaultQuery.Source

/-! ## Truth -/

/-- The text of a condition that calls a function of files. -/
def fileText (function argument : String) : String :=
  "file." ++ function ++ "(" ++ Vocabulary.quote argument ++ ")"

/-- Whether a source selects a page, where `v` says which conditions are true of the page. -/
def holds (v : String → Bool) : Source → Bool
  | .folder path => path.isEmpty || v (fileText "inFolder" path)
  | .tag name => v (fileText "hasTag" (String.ofList (name.toList.dropWhile (· == '#'))))
  | .link target => v (fileText "hasLink" target)
  | .negated child => !holds v child
  | .joined joint left right =>
    ((connective? joint).map fun c => c.pair (holds v left) (holds v right)).getD false
  | .everything => true
  | .foreign _ => false

/-- Whether the condition of a source selects a page; no condition selects every page. -/
def selects (v : String → Bool) (r : Option Condition) : Bool :=
  (r.map (Condition.holds v)).getD true

/-- A source without its folders that have no path; none if nothing is left. -/
def restriction : Source → Option Source
  | .folder path => if path.isEmpty then none else some (.folder path)
  | .negated child => (restriction child).map .negated
  | .joined joint left right => Option.merge (.joined joint) (restriction left) (restriction right)
  | .everything => none
  | s => some s

/-- Whether the rest of a source selects a page. -/
def restHolds (v : String → Bool) (s : Source) : Bool :=
  (s.restriction.map (holds v)).getD true

theorem connective?_ne_not {joint : Joint} {c : Connective} (h : connective? joint = some c) :
    c ≠ .not := by
  cases joint with
  | other symbol => cases h
  | _ =>
      obtain rfl := Option.some.inj h
      decide

theorem isFull_fileCall {function argument : String} :
    ∀ f ∈ some (fileCall function argument), f.isFull = true := by
  intro f hf
  obtain rfl := Option.mem_some_iff.mp hf
  rfl

/-- Joining two conditions that may be missing joins what they select. -/
theorem joinOptional_holds (v : String → Bool) {joint : Joint} {c : Connective}
    (hc : connective? joint = some c) {f g : Option Condition} {s t : Option Source}
    (hf : ∀ x ∈ f, x.isFull = true) (hg : ∀ x ∈ g, x.isFull = true)
    (hs : f.map (Condition.holds v) = s.map (holds v))
    (ht : g.map (Condition.holds v) = t.map (holds v)) :
    (joinOptional c f g).map (Condition.holds v) =
        (Option.merge (Source.joined joint) s t).map (holds v) ∧
      ∀ x ∈ joinOptional c f g, x.isFull = true := by
  cases f with
  | none =>
      obtain rfl : s = none := Option.map_eq_none_iff.mp hs.symm
      rw [Option.merge_none_left]
      exact ⟨ht, hg⟩
  | some f =>
      obtain ⟨a, rfl, ha⟩ := Option.map_eq_some_iff.mp hs.symm
      cases g with
      | none =>
          obtain rfl : t = none := Option.map_eq_none_iff.mp ht.symm
          exact ⟨hs, hf⟩
      | some g =>
          obtain ⟨b, rfl, hb⟩ := Option.map_eq_some_iff.mp ht.symm
          have hjoin : joinOptional c (some f) (some g) = some (f.join c g) :=
            Filter.flatten_pair c (hf f rfl) (hg g rfl)
          rw [hjoin]
          constructor
          · simp only [Option.map_some, Option.merge_some_some,
              Condition.holds_join v (connective?_ne_not hc), holds, hc, ha, hb, Option.getD_some]
          · rintro x hx
            obtain rfl := Option.mem_some_iff.mp hx
            exact Filter.isFull_join c (hf f rfl) g

/-- The condition of a source selects what the rest of the source does. -/
theorem lower_holds (v : String → Bool) {limit : Nat} (s : Source) {inChain : Bool} {depth : Nat}
    {r : Option Condition} (h : lower limit inChain depth s = .ok r) :
    r.map (Condition.holds v) = s.restriction.map (holds v) ∧ ∀ f ∈ r, f.isFull = true := by
  induction s generalizing inChain depth r with
  | negated child ih =>
      obtain ⟨-, inner, hinner, rfl⟩ := lower_negated_eq_ok.mp h
      have hchild := (ih hinner).1
      cases inner with
      | none =>
          rw [restriction, Option.map_eq_none_iff.mp hchild.symm]
          exact ⟨rfl, by simp⟩
      | some f =>
          obtain ⟨a, ha, hholds⟩ := Option.map_eq_some_iff.mp hchild.symm
          rw [restriction, ha]
          refine ⟨?_, fun x hx => ?_⟩
          · simp [Condition.holds, Condition.holdsEach, Connective.value, holds, hholds]
          · obtain rfl := Option.mem_some_iff.mp hx
            rfl
  | joined joint left right ihl ihr =>
      obtain ⟨c, hj⟩ := connective?_of_lower h
      obtain ⟨-, value, rightValue, hv, hw, rfl⟩ := (lower_joined_eq_ok hj).mp h
      obtain ⟨hvalue, hfull⟩ := ihl hv
      obtain ⟨hright, hrightFull⟩ := ihr hw
      exact joinOptional_holds v hj hfull hrightFull hvalue hright
  | folder path =>
      rw [lower, descend_bind_eq_ok] at h
      obtain rfl := Except.ok.inj h.2
      rw [restriction]
      split
      case isTrue => exact ⟨rfl, by simp⟩
      case isFalse hpath =>
          have hempty : path.isEmpty = false := by simpa using hpath
          refine ⟨?_, isFull_fileCall⟩
          simp [holds, hempty, Condition.holds, fileCall, fileText]
  | tag _ | link _ =>
      rw [lower, descend_bind_eq_ok] at h
      obtain rfl := Except.ok.inj h.2
      exact ⟨rfl, isFull_fileCall⟩
  | everything =>
      rw [lower, descend_bind_eq_ok] at h
      obtain rfl := Except.ok.inj h.2
      exact ⟨rfl, by simp⟩
  | foreign node =>
      rw [lower, descend_bind_eq_ok] at h
      cases h.2

theorem selects_lower (v : String → Bool) {limit depth : Nat} {inChain : Bool} {s : Source}
    {r : Option Condition} (h : lower limit inChain depth s = .ok r) :
    selects v r = restHolds v s := by
  rw [selects, restHolds, (lower_holds v s h).1]

/-! ## Where folders without a path matter -/

/-- The parts of a source, itself included. -/
def parts : Source → List Source
  | .negated child => .negated child :: parts child
  | .joined joint left right => .joined joint left right :: (parts left ++ parts right)
  | s => [s]

/-- Nothing is negated that restricts nothing, and a disjunction of something with nothing is true
of the page already by its other side. -/
def Agrees (v : String → Bool) : Source → Prop
  | .negated child => Agrees v child ∧ child.restriction.isSome = true
  | .joined joint left right =>
    Agrees v left ∧ Agrees v right ∧
      (joint = .or → left.restriction.isSome ≠ right.restriction.isSome →
        holds v left = true ∧ holds v right = true)
  | _ => True

/-- Every joint is a conjunction or a disjunction, and nothing stands where it does not belong. -/
def isStandard : Source → Bool
  | .negated child => isStandard child
  | .joined joint left right =>
    (connective? joint).isSome && isStandard left && isStandard right
  | .foreign _ => false
  | _ => true

theorem isStandard_of_lower {limit : Nat} (s : Source) {inChain : Bool} {depth : Nat}
    {r : Option Condition} (h : lower limit inChain depth s = .ok r) : s.isStandard = true := by
  induction s generalizing inChain depth r with
  | negated child ih =>
      obtain ⟨-, inner, hinner, -⟩ := lower_negated_eq_ok.mp h
      exact ih hinner
  | joined joint left right ihl ihr =>
      obtain ⟨c, hj⟩ := connective?_of_lower h
      obtain ⟨-, value, rightValue, hv, hw, -⟩ := (lower_joined_eq_ok hj).mp h
      simp [isStandard, hj, ihl hv, ihr hw]
  | foreign node =>
      rw [lower, descend_bind_eq_ok] at h
      cases h.2
  | _ => rfl

theorem self_mem_parts (s : Source) : s ∈ s.parts := by
  cases s <;> simp [parts]

/-- A negation of a source that agrees with its rest agrees too exactly if there is a rest. -/
theorem restHolds_negated_iff {v : String → Bool} {child : Source}
    (h : restHolds v child = holds v child) :
    restHolds v (.negated child) = holds v (.negated child) ↔ child.restriction.isSome = true := by
  unfold restHolds at h ⊢
  rw [holds, ← h, restriction]
  cases child.restriction with
  | none => simp
  | some a => simp [holds]

theorem restHolds_joined_iff {v : String → Bool} {joint : Joint} {left right : Source}
    (hj : (connective? joint).isSome = true) (hl : restHolds v left = holds v left)
    (hr : restHolds v right = holds v right) :
    restHolds v (.joined joint left right) = holds v (.joined joint left right) ↔
      (joint = .or → left.restriction.isSome ≠ right.restriction.isSome →
        holds v left = true ∧ holds v right = true) := by
  unfold restHolds at hl hr ⊢
  rw [holds, ← hl, ← hr, restriction]
  cases joint with
  | other symbol => simp [connective?] at hj
  | and =>
      cases left.restriction <;> cases right.restriction <;>
        simp [connective?, Connective.pair, Connective.value, holds]
  | or =>
      cases left.restriction <;> cases right.restriction <;>
        simp [connective?, Connective.pair, Connective.value, holds]

/-- Every part of a source agrees with its rest exactly if the source has no folder without a path
in a place where it matters. -/
theorem restHolds_parts_iff (v : String → Bool) {s : Source} (hs : s.isStandard = true) :
    (∀ u ∈ s.parts, restHolds v u = u.holds v) ↔ s.Agrees v := by
  induction s with
  | negated child ih =>
      rw [parts, List.forall_mem_cons, ih hs, and_comm, Agrees]
      refine and_congr_right fun hchild => ?_
      exact restHolds_negated_iff ((ih hs).mpr hchild child (self_mem_parts child))
  | joined joint left right ihl ihr =>
      simp only [isStandard, Bool.and_eq_true] at hs
      rw [parts, List.forall_mem_cons, List.forall_mem_append, ihl hs.1.2, ihr hs.2, and_comm,
        Agrees, and_assoc]
      refine and_congr_right fun hleft => and_congr_right fun hright => ?_
      exact restHolds_joined_iff hs.1.1
        ((ihl hs.1.2).mpr hleft left (self_mem_parts left))
        ((ihr hs.2).mpr hright right (self_mem_parts right))
  | folder path =>
      cases hpath : path.isEmpty <;> simp [parts, Agrees, restHolds, restriction, holds, hpath]
  | _ => simp [parts, Agrees, restHolds, restriction, holds]

/-- A part of a source that has a condition has one by itself. -/
theorem condition_of_mem_parts {limit : Nat} (s : Source) {inChain : Bool} {depth depth' : Nat}
    {r : Option Condition} (h : lower limit inChain depth s = .ok r)
    (hle : depth' + 1 ≤ start inChain depth s) (hroom : depth' + 1 + s.jointChanges ≤ limit)
    {u : Source} (hu : u ∈ s.parts) : ∃ r', u.condition limit depth' = .ok r' := by
  induction s generalizing inChain depth r with
  | negated child ih =>
      rcases List.mem_cons.mp hu with rfl | hu
      · exact ⟨r, lower_mono _ h (by rwa [start_false]) (by rwa [start_false])⟩
      · obtain ⟨-, inner, hinner, -⟩ := lower_negated_eq_ok.mp h
        have hchild := room_of_lower hinner (continues_false child)
        rw [start_of_not_continues rfl] at hle
        exact ih hinner (by rw [start_false]; omega) (by omega) hu
  | joined joint left right ihl ihr =>
      obtain ⟨c, hj⟩ := connective?_of_lower h
      obtain ⟨-, value, rightValue, hv, hw, -⟩ := (lower_joined_eq_ok hj).mp h
      rcases List.mem_cons.mp hu with rfl | hu
      · exact ⟨r, lower_mono _ h (by rwa [start_false]) (by rwa [start_false])⟩
      rcases List.mem_append.mp hu with hu | hu
      · have hsome : (connective? joint).isSome = true := by simp [hj]
        have hchain := jointChanges_left_le hsome left right
        have hleft := room_of_child hv hle fun _ => by omega
        have hstart := le_start true (depth' + 1) left
        exact ihl hv (Nat.le_trans hle (le_start true _ left)) (by omega) hu
      · have hright := room_of_lower hw (continues_false right)
        exact ihr hw (by rw [start_false]; omega) (by omega) hu
  | _ =>
      obtain rfl := List.mem_singleton.mp hu
      exact ⟨r, lower_mono _ h (by rwa [start_false]) (by rwa [start_false])⟩

/-- The condition of a source selects what the rest of the source does; and it selects what the
source does, for the source and each of its parts, exactly if the source has no folder without a
path in a place where it matters. -/
theorem selects_eq_holds_iff {limit depth : Nat} {s : Source} {r : Option Condition}
    (h : s.condition limit depth = .ok r) (v : String → Bool) :
    selects v r = restHolds v s ∧
      ((∀ u ∈ s.parts, ∃ r', u.condition limit depth = .ok r' ∧ selects v r' = u.holds v) ↔
        s.Agrees v) := by
  refine ⟨selects_lower v h, ?_⟩
  rw [← restHolds_parts_iff v (isStandard_of_lower s h)]
  refine forall_congr' fun u => forall_congr' fun hu => ?_
  constructor
  · rintro ⟨r', hr', heq⟩
    rw [← selects_lower v hr', heq]
  · intro hrest
    have hroom := room_of_lower h (continues_false s)
    obtain ⟨r', hr'⟩ := condition_of_mem_parts s h (Nat.le_of_eq (start_false depth s).symm)
      hroom hu
    exact ⟨r', hr', by rw [selects_lower v hr', hrest]⟩

/-- The source `"" or #t`. -/
def everythingOrTag : Source :=
  .joined .or .everything (.tag "t")

/-- A page without the tag is not selected by `"" or #t`, though every page should be. -/
theorem selects_eq_holds_iff_everything_or_tag :
    everythingOrTag.condition 10 0 = .ok (some (.leaf "file.hasTag(\"t\")")) ∧
      selects (fun _ => false) (some (.leaf "file.hasTag(\"t\")")) =
        restHolds (fun _ => false) everythingOrTag ∧
      ((∀ u ∈ everythingOrTag.parts, ∃ r', u.condition 10 0 = .ok r' ∧
          selects (fun _ => false) r' = u.holds (fun _ => false)) ↔
        everythingOrTag.Agrees (fun _ => false)) ∧
      selects (fun _ => false) (some (.leaf "file.hasTag(\"t\")")) = false ∧
      everythingOrTag.holds (fun _ => false) = true := by
  obtain ⟨hrest, hparts⟩ := @selects_eq_holds_iff 10 0 everythingOrTag _ rfl (fun _ => false)
  exact ⟨rfl, hrest, hparts, rfl, rfl⟩

end VaultQuery.Source
