import VaultQuery.Query.Read

/-!
Reading under two limits.  Every reader that meets the lower limit refuses to go on; every other one
does the same under both limits, down to its complaints (`Query.kept_read`).
-/

namespace VaultQuery

/-- A fault that says that a limit of depth was met. -/
def Fault.isRefusal : Fault → Bool
  | .malformed ⟨.nestingExceeded _, _, _, _⟩ => true
  | .malformed ⟨.nestedTooDeeply, _, _, _⟩ => true
  | .obstacle (.tooDeep _) => true
  | .obstacle (.chainTooDeep _) => true
  | _ => false

/-! ## Results that are kept -/

section Kept

variable {α β : Type}

/-- A result under a low limit is kept under a high one unless it is a refusal. -/
inductive Kept : Except Fault α → Except Fault α → Prop
  | refused {f : Fault} (h : f.isRefusal = true) (x' : Except Fault α) : Kept (.error f) x'
  | same (x : Except Fault α) : Kept x x

theorem Kept.refused_or_eq {x x' : Except Fault α} (h : Kept x x') :
    (∃ f, x = .error f ∧ f.isRefusal = true) ∨ x = x' := by
  cases h with
  | @refused f h => exact .inl ⟨f, rfl, h⟩
  | same => exact .inr rfl

theorem Kept.bind {x x' : Except Fault α} {f f' : α → Except Fault β} (h : Kept x x')
    (hf : ∀ a, Kept (f a) (f' a)) : Kept (x >>= f) (x' >>= f') := by
  cases h with
  | refused h => exact .refused h _
  | same =>
      cases x with
      | error e => exact .same _
      | ok a => exact hf a

theorem Kept.map {x x' : Except Fault α} (h : Kept x x') (f : α → β) :
    Kept (x.map f) (x'.map f) := by
  cases h with
  | refused h => exact .refused h _
  | same => exact .same _

/-- What a reader reads under a low limit is kept under a high one. -/
def KeptReader (r r' : Reader α) : Prop :=
  ∀ ts, Kept (r ts) (r' ts)

namespace Reader

theorem kept_moreItems {item item' : Reader α} (h : KeptReader item item') (fuel : Nat) :
    KeptReader (moreItems item fuel) (moreItems item' fuel) := by
  induction fuel with
  | zero => exact fun ts => .same _
  | succ fuel ih =>
      intro ts
      cases ts with
      | nil => exact .same _
      | cons t ts =>
          rw [moreItems, moreItems]
          split
          case isFalse => exact .same _
          case isTrue =>
              refine (h ts).bind fun x => ?_
              exact (ih x.2).bind fun xs => .same _

theorem kept_items {item item' : Reader α} (h : KeptReader item item') :
    KeptReader (items item) (items item') := by
  intro ts
  refine (h ts).bind fun x => ?_
  exact (kept_moreItems h x.2.length x.2).bind fun xs => .same _

variable {operator? : Token.Kind → Option β} {join : β → α → α → α}

theorem kept_moreOperands {operand operand' : Reader α} (h : KeptReader operand operand')
    (fuel : Nat) (left : α) :
    KeptReader (moreOperands operator? join operand fuel left)
      (moreOperands operator? join operand' fuel left) := by
  induction fuel generalizing left with
  | zero => exact fun ts => .same _
  | succ fuel ih =>
      intro ts
      cases ts with
      | nil => exact .same _
      | cons t ts =>
          rw [moreOperands, moreOperands]
          split
          case h_1 => exact .same _
          case h_2 op hop => exact (h ts).bind fun x => ih (join op left x.1) x.2

theorem kept_chain {operand operand' : Reader α} (h : KeptReader operand operand') :
    KeptReader (chain operator? join operand) (chain operator? join operand') := by
  intro ts
  exact (h ts).bind fun x => kept_moreOperands h x.2.length x.1 x.2

end Reader

end Kept

open Reader

/-- The same clause with another limit. -/
def Clause.withLimit (c : Clause) (limit : Int) : Clause :=
  { c with limit }

theorem Clause.isRefusal_tooNested (c : Clause) (ts : List Token) :
    (c.tooNested ts).isRefusal = true := by
  rw [Clause.tooNested]
  split
  case isTrue => rfl
  case isFalse => rfl

theorem Clause.budget_le_withLimit {c : Clause} {limit : Int} (h : c.limit ≤ limit) :
    c.budget ≤ (c.withLimit limit).budget := by
  show min c.limit.toNat followedDepth ≤ min limit.toNat followedDepth
  omega

/-! ## Expressions -/

namespace Expr

section Levels

variable {c : Clause} {limit : Int} {inner inner' : Option Inner}

/-- Readers one level further in: there may be none under the low limit, and the others are
kept. -/
inductive KeptInner : Option Inner → Option Inner → Prop
  | none (inner' : Option Inner) : KeptInner none inner'
  | some {i i' : Inner} (he : KeptReader i.expression i'.expression)
      (hu : KeptReader i.unary i'.unary) : KeptInner (some i) (some i')

theorem kept_enter {α : Type} (hi : KeptInner inner inner') {body : Inner → Reader α}
    (hbody : ∀ i i', KeptReader i.expression i'.expression → KeptReader i.unary i'.unary →
      KeptReader (body i) (body i')) :
    KeptReader (enter c inner body) (enter (c.withLimit limit) inner' body) := by
  intro ts
  cases hi with
  | none => exact .refused (c.isRefusal_tooNested ts) _
  | some he hu => exact hbody _ _ he hu ts

theorem kept_arguments (name : String) {i i' : Inner}
    (h : KeptReader i.expression i'.expression) :
    KeptReader (arguments name i) (arguments name i') := by
  intro ts
  rw [arguments, arguments]
  split
  case isTrue => exact .same _
  case isFalse =>
  split
  case isTrue => exact .same _
  case isFalse => exact kept_items h ts

theorem kept_listItems {i i' : Inner} (h : KeptReader i.expression i'.expression) :
    KeptReader (listItems i) (listItems i') := by
  intro ts
  rw [listItems, listItems]
  split
  case isTrue => exact .same _
  case isFalse => exact kept_items h ts

theorem kept_callTail (hi : KeptInner inner inner') (name : String) :
    KeptReader (callTail c inner name) (callTail (c.withLimit limit) inner' name) := by
  intro ts
  refine (kept_enter hi (fun _ _ he _ => kept_arguments name he) ts).bind fun args => ?_
  exact .same _

theorem kept_primary (hi : KeptInner inner inner') :
    KeptReader (primary c inner) (primary (c.withLimit limit) inner') := by
  intro ts
  cases ts with
  | nil => exact .same _
  | cons t ts =>
      rw [primary.eq_def, primary.eq_def]
      dsimp only
      split
      case h_7 =>
          split
          case h_1 p rest =>
              split
              case isTrue => exact kept_callTail hi t.text rest
              case isFalse => exact .same _
          case h_2 => exact .same _
      case h_8 => exact (kept_enter hi (fun _ _ he _ => he) ts).bind fun x => .same _
      case h_9 => exact (kept_enter hi (fun _ _ he _ => kept_listItems he) ts).bind fun x => .same _
      all_goals exact .same _

theorem kept_parts (hi : KeptInner inner inner') (fuel : Nat) (e : Expr) :
    KeptReader (parts c inner fuel e) (parts (c.withLimit limit) inner' fuel e) := by
  induction fuel generalizing e with
  | zero => exact fun ts => .same _
  | succ fuel ih =>
      intro ts
      cases ts with
      | nil => exact .same _
      | cons t ts =>
          rw [parts, parts]
          split
          case isTrue =>
              exact (Kept.same (expect c .identifier .propertyExpected ts)).bind fun x =>
                ih (.index e (.literal (.text x.1.text))) x.2
          case isFalse =>
          split
          case isTrue =>
              refine (kept_enter hi (fun _ _ he _ => he) ts).bind fun key => ?_
              exact (Kept.same (expect c .bracketClose .indexNotClosed key.2)).bind fun x =>
                ih (.index e key.1) x.2
          case isFalse => exact .same _

theorem kept_access (hi : KeptInner inner inner') :
    KeptReader (access c inner) (access (c.withLimit limit) inner') := by
  intro ts
  exact (kept_primary hi ts).bind fun x => kept_parts hi x.2.length x.1 x.2

theorem kept_unary (hi : KeptInner inner inner') :
    KeptReader (unary c inner) (unary (c.withLimit limit) inner') := by
  intro ts
  cases ts with
  | nil => exact kept_access hi []
  | cons t ts =>
      have hinside : KeptReader (enter c inner (·.unary))
          (enter (c.withLimit limit) inner' (·.unary)) := kept_enter hi fun _ _ _ hu => hu
      rw [unary, unary]
      split
      case isTrue => exact (hinside ts).bind fun x => .same _
      case isFalse =>
      split
      case isTrue => exact (hinside ts).bind fun x => .same _
      case isFalse => exact kept_access hi (t :: ts)

theorem kept_logical (hi : KeptInner inner inner') :
    KeptReader (logical c inner) (logical (c.withLimit limit) inner') :=
  kept_chain (kept_chain (kept_chain (kept_chain (kept_unary hi))))

theorem kept_inner? {levels levels' : Nat} (h : levels ≤ levels') :
    KeptInner (inner? c levels) (inner? (c.withLimit limit) levels') := by
  induction levels generalizing levels' with
  | zero => exact .none _
  | succ levels ih =>
      obtain ⟨more, rfl⟩ : ∃ more, levels' = more + 1 := ⟨levels' - 1, by omega⟩
      have hi := ih (Nat.le_of_succ_le_succ h)
      exact .some (kept_logical hi) (kept_unary hi)

theorem kept_expression (h : c.limit ≤ limit) :
    KeptReader (expression c) (expression (c.withLimit limit)) :=
  kept_logical (kept_inner? (Clause.budget_le_withLimit h))

theorem kept_namedField (h : c.limit ≤ limit) :
    KeptReader (namedField c) (namedField (c.withLimit limit)) := by
  intro ts
  exact (kept_expression h ts).bind fun x => .same _

end Levels

end Expr

/-! ## Sources -/

namespace Source

section Levels

variable {c : Clause} {limit : Int} {inner inner' : Option Inner}

/-- As for expressions: there may be no readers further in under the low limit. -/
inductive KeptInner : Option Inner → Option Inner → Prop
  | none (inner' : Option Inner) : KeptInner none inner'
  | some {i i' : Inner} (hs : KeptReader i.source i'.source) (ha : KeptReader i.atom i'.atom) :
      KeptInner (some i) (some i')

theorem kept_enter (hi : KeptInner inner inner') {body : Inner → Reader Source}
    (hbody : ∀ i i', KeptReader i.source i'.source → KeptReader i.atom i'.atom →
      KeptReader (body i) (body i')) :
    KeptReader (enter c inner body) (enter (c.withLimit limit) inner' body) := by
  intro ts
  cases hi with
  | none => exact .refused (c.isRefusal_tooNested ts) _
  | some hs ha => exact hbody _ _ hs ha ts

theorem kept_atom (hi : KeptInner inner inner') :
    KeptReader (atom c inner) (atom (c.withLimit limit) inner') := by
  intro ts
  cases ts with
  | nil => exact .same _
  | cons t ts =>
      have hnegated : Kept (enter c inner (·.atom) ts)
          (enter (c.withLimit limit) inner' (·.atom) ts) := kept_enter hi (fun _ _ _ ha => ha) ts
      rw [atom.eq_def, atom.eq_def]
      dsimp only
      split
      case h_1 => exact hnegated.bind fun x => .same _
      case h_2 => exact hnegated.bind fun x => .same _
      case h_7 => exact (kept_enter hi (fun _ _ hs _ => hs) ts).bind fun x => .same _
      all_goals exact .same _

theorem kept_inner? {levels levels' : Nat} (h : levels ≤ levels') :
    KeptInner (inner? c levels) (inner? (c.withLimit limit) levels') := by
  induction levels generalizing levels' with
  | zero => exact .none _
  | succ levels ih =>
      obtain ⟨more, rfl⟩ : ∃ more, levels' = more + 1 := ⟨levels' - 1, by omega⟩
      have hi := ih (Nat.le_of_succ_le_succ h)
      exact .some (kept_chain (kept_atom hi)) (kept_atom hi)

theorem kept_source (h : c.limit ≤ limit) :
    KeptReader (source c) (source (c.withLimit limit)) :=
  kept_chain (kept_atom (kept_inner? (Clause.budget_le_withLimit h)))

end Levels

end Source

/-! ## Queries -/

namespace Segment

section Segments

variable {c : Clause} {text : String} {limit limit' : Int}

theorem kept_readAll {α : Type} {r r' : Reader α} (h : KeptReader r r') (name : String) :
    Kept (readAll c name r) (readAll (c.withLimit limit) name r') :=
  (h c.tokens).bind fun _ => .same _

/-- A clause that may not be empty is the same under both limits, but for the limit. -/
theorem kept_filledClause {α : Type} (s : Segment) {f : Clause → Except Fault α}
    (h : Kept (f (s.clause text limit)) (f ((s.clause text limit).withLimit limit'))) :
    Kept (s.filledClause text limit >>= f) (s.filledClause text limit' >>= f) := by
  rw [filledClause, filledClause]
  split
  case isTrue => exact .same _
  case isFalse => exact h

theorem kept_tableFields (h : c.limit ≤ limit) :
    KeptReader (tableFields c) (tableFields (c.withLimit limit)) := by
  intro ts
  unfold tableFields
  dsimp only
  split
  case isTrue => exact .same _
  case isFalse =>
      exact (kept_items (Expr.kept_namedField h) (withoutId ts).2).bind fun fields => .same _

theorem kept_listFormat (h : c.limit ≤ limit) :
    KeptReader (listFormat c) (listFormat (c.withLimit limit)) := by
  intro ts
  unfold listFormat
  dsimp only
  split
  case isTrue => exact .same _
  case isFalse => exact (Expr.kept_expression h (withoutId ts).2).bind fun format => .same _

theorem kept_header (h : limit ≤ limit') (s : Segment) :
    Kept (s.header text limit) (s.header text limit') := by
  unfold header
  split
  case h_1 => exact .same _
  case h_2 =>
      refine kept_filledClause s ?_
      exact (kept_readAll (Expr.kept_namedField h) "CALENDAR").bind fun field => .same _
  case h_3 => exact kept_readAll (kept_listFormat h) "LIST"
  case h_4 => exact kept_readAll (kept_tableFields h) "TABLE"

theorem kept_sortField (h : c.limit ≤ limit) :
    KeptReader (sortField c) (sortField (c.withLimit limit)) := by
  intro ts
  exact (Expr.kept_expression h ts).bind fun key => .same _

theorem kept_source (h : limit ≤ limit') (s : Segment) :
    Kept (s.source text limit) (s.source text limit') :=
  kept_filledClause s (kept_readAll (Source.kept_source h) "FROM")

theorem kept_operation (h : limit ≤ limit') (s : Segment) :
    Kept (s.operation text limit) (s.operation text limit') := by
  refine kept_filledClause s ?_
  have hexpression := Expr.kept_expression (c := s.clause text limit) h
  have hfield := Expr.kept_namedField (c := s.clause text limit) h
  have hsort := kept_items (kept_sortField (c := s.clause text limit) h)
  split
  case h_1 => exact (kept_readAll hexpression _).bind fun x => .same _
  case h_2 => exact (kept_readAll hsort _).bind fun x => .same _
  case h_3 => exact (kept_readAll hexpression _).bind fun x => .same _
  case h_4 => exact (kept_readAll hfield _).bind fun x => .same _
  case h_5 => exact (kept_readAll hfield _).bind fun x => .same _

theorem kept_clauses (h : limit ≤ limit') (ss : List Segment) (found : Option Source) :
    Kept (clauses text limit found ss) (clauses text limit' found ss) := by
  induction ss generalizing found with
  | nil => exact .same _
  | cons s ss ih =>
      unfold clauses
      split
      case isTrue =>
          split
          case h_1 => exact .same _
          case h_2 => exact (kept_source h s).bind fun x => ih (some x)
      case isFalse =>
          refine (kept_operation h s).bind fun op => ?_
          exact (ih found).bind fun rest => .same _

end Segments

end Segment

namespace Query

variable {limit limit' : Int}

theorem kept_ofTokens (h : limit ≤ limit') (text : String) (tokens : List Token) :
    Kept (ofTokens text limit tokens) (ofTokens text limit' tokens) := by
  unfold ofTokens Clause.ofTokens
  dsimp only
  split
  case h_1 => exact .same _
  case h_2 first rest _ =>
  split
  case isFalse => exact .same _
  case isTrue =>
      refine (Kept.same (Segment.cut text [] first [] rest)).bind fun ss => ?_
      cases ss with
      | nil => exact .same _
      | cons head ss =>
          refine (Segment.kept_header h head).bind fun header => ?_
          exact (Segment.kept_clauses h ss none).bind fun found => .same _

/-- Under the higher limit a text is read as under the lower one, or the lower one was met. -/
theorem kept_read (h : limit ≤ limit') (text : String) :
    Kept (read text limit) (read text limit') :=
  (Kept.same ((Token.tokenize text).mapError .malformed)).bind fun tokens =>
    kept_ofTokens h text tokens

end Query

end VaultQuery
