import Mathlib.Data.List.DropRight
import VaultQuery.Proofs.Expr.Line
import VaultQuery.Proofs.Expr.Part

/-!
Labels of columns.  A date part of a path is written as a call around the path, and a label takes
such calls off again, looking only at how the text starts and ends.  It takes off all of them and
nothing else (`label_of_date_parts`): a path that does not end in a date part never ends in a closing
parenthesis, whatever stands between its brackets.
-/

namespace VaultQuery

namespace Vocabulary

/-! ## Taking one call off -/

/-- A call of a date part around a text. -/
def partCall (part : String) (inner : List Char) : List Char :=
  part.toList ++ '(' :: inner ++ [')']

/-- What the label of a date part puts before the label of the date. -/
def partLabel (part : String) : String :=
  String.ofList (capitalized part.toList ++ " of ".toList)

/-- The name of a date part is what stands before the first parenthesis of its call. -/
theorem takeWhile_datePart {part : String} (h : part ∈ dateParts) (rest : List Char) :
    (part.toList ++ '(' :: rest).takeWhile (· != '(') = part.toList := by
  have htable : ∀ p ∈ dateParts, p.toList.all (· != '(') = true := by decide
  rw [List.takeWhile_append_of_pos (List.all_eq_true.mp (htable part h))]
  simp

theorem peelPart?_partCall (part : String) (inner : List Char) :
    peelPart? part (partCall part inner) = some inner := by
  have hprefix : (part.toList ++ ['(']).isPrefixOf (partCall part inner) = true := by
    rw [List.isPrefixOf_iff_prefix]
    exact ⟨inner ++ [')'], by simp [partCall]⟩
  have hlast : ((partCall part inner).getLast? == some ')') = true := by
    rw [partCall, List.getLast?_concat]
    rfl
  have hinner : ((partCall part inner).drop (part.toList ++ ['(']).length).dropLast = inner := by
    have hsplit : partCall part inner = (part.toList ++ ['(']) ++ (inner ++ [')']) := by
      simp [partCall]
    rw [hsplit, List.drop_left, List.dropLast_concat]
  simp only [peelPart?, hprefix, hlast, Bool.and_self, if_true, hinner]

theorem peelPart?_partCall_of_ne {part other : String} (hpart : part ∈ dateParts)
    (hother : other ∈ dateParts) (hne : other ≠ part) (inner : List Char) :
    peelPart? other (partCall part inner) = none := by
  have hprefix : (other.toList ++ ['(']).isPrefixOf (partCall part inner) = false := by
    refine Bool.eq_false_iff.mpr fun hp => hne ?_
    obtain ⟨rest, hrest⟩ := List.isPrefixOf_iff_prefix.mp hp
    have hsplit : other.toList ++ '(' :: rest = part.toList ++ '(' :: (inner ++ [')']) := by
      simpa [partCall] using hrest
    have hsame := congrArg (List.takeWhile (· != '(')) hsplit
    rw [takeWhile_datePart hother, takeWhile_datePart hpart] at hsame
    exact String.toList_inj.mp hsame
  simp only [peelPart?, hprefix, Bool.false_and, Bool.false_eq_true, if_false]

theorem peel?_partCall {part : String} (hpart : part ∈ dateParts) (inner : List Char) :
    peel? (partCall part inner) = some (part, inner) := by
  have hnodup : dateParts.Nodup := by decide
  obtain ⟨before, after, hsplit⟩ := List.append_of_mem hpart
  refine List.findSome?_eq_some_iff.mpr ⟨before, part, after, hsplit, ?_, ?_⟩
  · rw [peelPart?_partCall]
    rfl
  · intro other hmem
    have hne : other ≠ part := by
      rintro rfl
      rw [hsplit] at hnodup
      exact (List.nodup_append.mp hnodup).2.2 other hmem other (by simp) rfl
    have hother : other ∈ dateParts := by simp [hsplit, hmem]
    rw [peelPart?_partCall_of_ne hpart hother hne]
    rfl

/-- Nothing is taken off a text that ends in no closing parenthesis. -/
theorem peel?_eq_none {cs : List Char} (h : cs.getLast? ≠ some ')') : peel? cs = none := by
  refine List.findSome?_eq_none_iff.mpr fun part _ => ?_
  have hlast : (cs.getLast? == some ')') = false := by simpa using h
  simp only [peelPart?, hlast, Bool.and_false, Bool.false_eq_true, if_false, Option.map_none]

/-! ## Taking all calls off -/

theorem length_lt_of_peel? {cs inner : List Char} {part : String}
    (h : peel? cs = some (part, inner)) : inner.length < cs.length := by
  obtain ⟨part', -, hmap⟩ := List.exists_of_findSome?_eq_some h
  obtain ⟨inner', hpeel, heq⟩ := Option.map_eq_some_iff.mp hmap
  obtain ⟨rfl, rfl⟩ := Prod.mk.inj heq
  unfold peelPart? at hpeel
  dsimp only at hpeel
  split at hpeel
  case isTrue hcond =>
      obtain rfl := Option.some.inj hpeel
      have hle := (List.isPrefixOf_iff_prefix.mp (Bool.and_eq_true_iff.mp hcond).1).length_le
      simp only [List.length_append, List.length_cons, List.length_nil, List.length_dropLast,
        List.length_drop] at hle ⊢
      omega
  case isFalse => cases hpeel

/-- How many calls a label may take off does not matter, if they are as many as the text is long. -/
theorem labelWithin_congr {fuel fuel' : Nat} {cs : List Char} (h : cs.length ≤ fuel)
    (h' : cs.length ≤ fuel') : labelWithin fuel cs = labelWithin fuel' cs := by
  induction fuel generalizing fuel' cs with
  | zero =>
      obtain rfl := List.length_eq_zero_iff.mp (Nat.le_zero.mp h)
      have hnone : peel? [] = none := peel?_eq_none (by simp)
      cases fuel' with
      | zero => rfl
      | succ n => simp only [labelWithin, hnone]
  | succ n ih =>
      cases hpeel : peel? cs with
      | none =>
          cases fuel' with
          | zero => simp only [labelWithin, hpeel]
          | succ m => simp only [labelWithin, hpeel]
      | some found =>
          obtain ⟨part, inner⟩ := found
          have hlt := length_lt_of_peel? hpeel
          cases fuel' with
          | zero => omega
          | succ m =>
              have hinner : labelWithin n inner = labelWithin m inner :=
                ih (by omega) (by omega)
              simp only [labelWithin, hpeel, hinner]

/-- The label of a call of a date part names the part and then what it is a part of. -/
theorem label_partCall {part : String} (hpart : part ∈ dateParts) (inner : String) :
    label (part ++ "(" ++ inner ++ ")") = partLabel part ++ label inner := by
  have htext : (part ++ "(" ++ inner ++ ")").toList = partCall part inner.toList := by
    simp [partCall]
  have hlength : (part ++ "(" ++ inner ++ ")").length = (part.length + inner.length + 1) + 1 := by
    rw [← String.length_toList, htext]
    simp only [partCall, List.length_append, List.length_cons, List.length_nil,
      String.length_toList]
    omega
  have hfuel : labelWithin (part.length + inner.length + 1) inner.toList =
      labelWithin inner.length inner.toList :=
    labelWithin_congr (by rw [String.length_toList]; omega) (by rw [String.length_toList])
  rw [label, htext, hlength, labelWithin, peel?_partCall hpart]
  simp only [hfuel, partLabel, label, String.ofList_append]

end Vocabulary

namespace Expr

open Vocabulary (isIdentifier dateParts partLabel label peel?)

/-! ## Where the text of a path ends -/

/-- A key after a point is a name, but that one line end may follow it. -/
theorem exists_isIdentifier_of_isPlainKey {name : String} (h : isPlainKey name = true) :
    ∃ key, isIdentifier key = true ∧ (name = key ∨ name = key ++ "\n") := by
  unfold isPlainKey at h
  dsimp only at h
  rcases Bool.or_eq_true_iff.mp h with h | h
  · exact ⟨name, h, .inl rfl⟩
  · obtain ⟨hlast, h⟩ := Bool.and_eq_true_iff.mp h
    have hmem : '\n' ∈ name.toList.getLast? := beq_iff_eq.mp hlast
    refine ⟨String.ofList name.toList.dropLast, ?_, .inr ?_⟩
    · unfold isIdentifier
      rw [String.toList_ofList]
      exact h
    · rw [← String.toList_inj, String.toList_append, String.toList_ofList]
      exact (List.dropLast_append_getLast? _ hmem).symm

theorem property_line_end (value key : String) :
    Vocabulary.property (value ++ "." ++ (key ++ "\n")) =
      Vocabulary.property (value ++ "." ++ key) := by
  have htrim : Text.trim (value ++ "." ++ (key ++ "\n")).toList =
      Text.trim (value ++ "." ++ key).toList := by
    have hsplit : (value ++ "." ++ (key ++ "\n")).toList =
        (value ++ "." ++ key).toList ++ ['\n'] := by
      simp
    rw [hsplit, Text.trim_concat (by decide)]
  rw [Vocabulary.property, Vocabulary.property, htrim]

/-- A text that does not end in a closing parenthesis. -/
def EndsOpen (s : String) : Prop :=
  s.toList.getLast? ≠ some ')'

theorem endsOpen_append {s t : String} (ht : t.toList ≠ []) (h : EndsOpen t) :
    EndsOpen (s ++ t) := by
  rw [EndsOpen, String.toList_append, List.getLast?_append_of_ne_nil _ ht]
  exact h

theorem endsOpen_isWordText {w : String} (h : Sign.isWordText w = true) :
    w.toList ≠ [] ∧ EndsOpen w := by
  refine ⟨fun hnil => ?_, fun hlast => ?_⟩
  · simp [Sign.isWordText, hnil] at h
  · exact absurd (Sign.isWord_of_mem_isWordText h (List.mem_of_getLast? hlast)) (by decide)

theorem endsOpen_property_part {key : String} (hkey : isIdentifier key = true) (value : String) :
    EndsOpen (Vocabulary.property (value ++ "." ++ key)) := by
  rw [Vocabulary.property_part value hkey, Vocabulary.access]
  obtain ⟨hne, hopen⟩ := endsOpen_isWordText (Vocabulary.isWordText_partName
    (Vocabulary.underscored (Vocabulary.unindented value)) hkey)
  exact endsOpen_append hne hopen

theorem endsOpen_bracket (s : String) : EndsOpen (s ++ "]") :=
  endsOpen_append (by decide) (by unfold EndsOpen; decide)

/-- The text of a part ends in no parenthesis, unless it is a part of a date. -/
theorem endsOpen_partText {name : String} (hdate : dateParts.contains (Text.lowerCase name) = false)
    (value bare : String) : EndsOpen (partText value bare name) := by
  simp only [partText, hdate, Bool.false_eq_true, if_false]
  split
  case isTrue hplain =>
      obtain ⟨key, hkey, rfl | rfl⟩ := exists_isIdentifier_of_isPlainKey hplain
      · exact endsOpen_property_part hkey value
      · rw [property_line_end]
        exact endsOpen_property_part hkey value
  case isFalse => exact endsOpen_bracket _

/-! ## Paths and their date parts -/

/-- The path from a root along keys. -/
def along (root : Expr) (keys : List Expr) : Expr :=
  keys.foldl .index root

theorem along_concat (root : Expr) (keys : List Expr) (key : Expr) :
    along root (keys ++ [key]) = .index (along root keys) key := by
  simp [along]

/-- The part of a date that a key names, in lower case. -/
def datePart? : Expr → Option String
  | .literal (.text name) =>
    if dateParts.contains (Text.lowerCase name) then some (Text.lowerCase name) else none
  | _ => none

/-- Whether a key names a part of a date. -/
def isDatePart (key : Expr) : Bool :=
  key.datePart?.isSome

/-- The keys before the date parts that a path ends in. -/
def properKeys (keys : List Expr) : List Expr :=
  keys.rdropWhile isDatePart

/-- The date parts that a path ends in, innermost first. -/
def finalParts (keys : List Expr) : List String :=
  (keys.rtakeWhile isDatePart).filterMap datePart?

theorem datePart?_eq_some {key : Expr} {part : String} (h : key.datePart? = some part) :
    part ∈ dateParts ∧ ∃ name, key = .literal (.text name) ∧ part = Text.lowerCase name := by
  unfold datePart? at h
  split at h
  case h_1 name =>
      split at h
      case isTrue hmem =>
          obtain rfl := Option.some.inj h
          exact ⟨List.contains_iff_mem.mp hmem, name, rfl, rfl⟩
      case isFalse => cases h
  case h_2 => cases h

section Paths

variable {limit depth : Nat} {object key : Expr} {c : Condition}

/-- A part of a date is a call around the text of the date. -/
theorem condition_datePart {part : String} (hpart : key.datePart? = some part)
    (h : (Expr.index object key).condition limit depth = .ok c) :
    ∃ raw, object.condition limit depth = .ok raw ∧
      c = .leaf (part ++ "(" ++ raw.inline ++ ")") := by
  obtain ⟨hmem, name, rfl, rfl⟩ := datePart?_eq_some hpart
  obtain ⟨raw, hraw, rfl⟩ := of_lower_part h
  have hroom := room_of_lower h (by rfl)
  rw [start_alone] at hraw hroom
  refine ⟨raw, condition_of_lower_path (by omega) hraw, ?_⟩
  simp only [partText, List.contains_iff_mem.mpr hmem, if_true]

/-- Any other part of a path ends in no parenthesis, whatever its key is. -/
theorem endsOpen_condition (hpart : key.datePart? = none)
    (h : (Expr.index object key).condition limit depth = .ok c) : EndsOpen c.inline := by
  by_cases hkey : ∃ name, key = .literal (.text name)
  · obtain ⟨name, rfl⟩ := hkey
    obtain ⟨raw, -, rfl⟩ := of_lower_part h
    refine endsOpen_partText ?_ _ _
    simpa [datePart?] using hpart
  · obtain ⟨raw, -, hnode⟩ := bind_eq_ok.mp (lowerNode_of_lower h)
    rw [part_element (not_exists.mp hkey)] at hnode
    obtain ⟨inside, -, hleaf⟩ := bind_eq_ok.mp hnode
    obtain rfl := Except.ok.inj hleaf
    exact endsOpen_bracket _

end Paths

/-- The label of a path names the date parts that the path ends in, the last one first, and then
gives the label of the path without them, of which nothing more is taken off. -/
theorem label_of_date_parts {name : String} (hname : isIdentifier name = true) {limit depth : Nat}
    {keys : List Expr} {text : String}
    (h : (along (.var name) keys).baseText limit depth = .ok text) :
    ∃ path, (along (.var name) (properKeys keys)).baseText limit depth = .ok path ∧
      peel? path.toList = none ∧
      label text = String.join ((finalParts keys).reverse.map partLabel) ++ label path := by
  -- The keys are taken off one by one, from the last.
  induction keys using List.reverseRecOn generalizing text with
  | nil =>
      refine ⟨text, h, Vocabulary.peel?_eq_none ?_, by simp [finalParts]⟩
      obtain ⟨c, hc, rfl⟩ := map_eq_ok.mp h
      obtain rfl := of_lower_var hc
      rw [Condition.inline, Vocabulary.property_isIdentifier hname]
      exact (endsOpen_isWordText (Vocabulary.isWordText_underscored hname)).2
  | append_singleton keys key ih =>
      obtain ⟨c, hc, rfl⟩ := map_eq_ok.mp h
      rw [along_concat] at hc
      cases hpart : key.datePart? with
      | none =>
          have hnot : ¬ isDatePart key = true := by simp [isDatePart, hpart]
          refine ⟨c.inline, ?_, Vocabulary.peel?_eq_none (endsOpen_condition hpart hc), ?_⟩
          · rw [properKeys, List.rdropWhile_concat_neg _ _ _ hnot]
            exact h
          · rw [finalParts, List.rtakeWhile_concat_neg _ _ _ hnot]
            simp
      | some part =>
          have hyes : isDatePart key = true := by simp [isDatePart, hpart]
          obtain ⟨raw, hraw, rfl⟩ := condition_datePart hpart hc
          obtain ⟨path, hpath, hpeel, hlabel⟩ := ih (map_eq_ok.mpr ⟨raw, hraw, rfl⟩)
          refine ⟨path, ?_, hpeel, ?_⟩
          · rw [properKeys, List.rdropWhile_concat_pos _ _ _ hyes]
            exact hpath
          · have hparts : finalParts (keys ++ [key]) = finalParts keys ++ [part] := by
              rw [finalParts, List.rtakeWhile_concat_pos _ _ _ hyes, List.filterMap_append]
              simp [finalParts, hpart]
            rw [Condition.inline, Vocabulary.label_partCall (datePart?_eq_some hpart).1, hlabel,
              hparts]
            simp [String.append_assoc]

/-- The keys of `log.entry[last(rows)].DAY.year`. -/
def entryKeys : List Expr :=
  [.literal (.text "entry"), .call "last" [.var "rows"], .literal (.text "DAY"),
    .literal (.text "year")]

theorem label_of_date_parts_entry :
    isIdentifier "log" = true ∧
      (along (.var "log") entryKeys).baseText 10 0 = .ok "year(day(log.entry[last(rows)]))" ∧
      (along (.var "log") (properKeys entryKeys)).baseText 10 0 =
        .ok "log.entry[last(rows)]" ∧
      label "year(day(log.entry[last(rows)]))" =
        "Year of " ++ "Day of " ++ label "log.entry[last(rows)]" ∧
      label "log.entry[last(rows)]" = "Log.entry[last(rows)]" := by
  have htext : (along (.var "log") entryKeys).baseText 10 0 =
      .ok "year(day(log.entry[last(rows)]))" := rfl
  have hproper : (along (.var "log") (properKeys entryKeys)).baseText 10 0 =
      .ok "log.entry[last(rows)]" := rfl
  obtain ⟨path, hpath, -, hlabel⟩ := @label_of_date_parts "log" rfl 10 0 entryKeys _ htext
  obtain rfl := Except.ok.inj (hproper.symm.trans hpath)
  exact ⟨rfl, htext, hproper, hlabel, rfl⟩

end Expr

end VaultQuery
