import Mathlib.Data.List.Basic
import VaultQuery.Expr.Lower
import VaultQuery.Proofs.Term

/-!
Names of properties.  A base renames a few properties of files and writes low lines for dashes; the
renaming is done on the text of a whole path, so `property_part_eq_iff` says exactly when the object
before the last point comes out as it went in.
-/

namespace VaultQuery.Vocabulary

/-! ## Names -/

/-- A name: a word that starts with no digit, in which dashes may stand. -/
def isIdentifier (s : String) : Bool :=
  match s.toList with
  | [] => false
  | c :: cs => Text.isWordStart c && cs.all fun d => Text.isWord d || d == '-'

theorem mem_isIdentifier {s : String} (h : isIdentifier s = true) {c : Char} (hc : c ∈ s.toList) :
    Text.isWord c = true ∨ c = '-' := by
  unfold isIdentifier at h
  split at h
  case h_1 => exact absurd h Bool.false_ne_true
  case h_2 d ds hs =>
      simp only [Bool.and_eq_true, List.all_eq_true, Bool.or_eq_true, beq_iff_eq] at h
      rw [hs] at hc
      rcases List.mem_cons.mp hc with rfl | hm
      · exact .inl (Text.isWord_of_isWordStart h.1)
      · exact h.2 c hm

theorem notMem_isIdentifier {s : String} (h : isIdentifier s = true) {c : Char}
    (hw : Text.isWord c = false) (hd : c ≠ '-') : c ∉ s.toList := by
  intro hc
  rcases mem_isIdentifier h hc with hc | hc
  · exact absurd hw (by simp [hc])
  · exact hd hc

theorem not_isBlank_of_isIdentifier {s : String} (h : isIdentifier s = true) {c : Char}
    (hc : c ∈ s.toList) : Text.isBlank c = false := by
  rcases mem_isIdentifier h hc with hc | rfl
  · exact Text.isBlank_eq_false_of_isWord hc
  · decide

theorem ne_nil_of_isIdentifier {s : String} (h : isIdentifier s = true) : s.toList ≠ [] := by
  intro hs
  simp [isIdentifier, hs] at h

theorem isPlainKey_of_isIdentifier {s : String} (h : isIdentifier s = true) :
    Expr.isPlainKey s = true := by
  unfold isIdentifier at h
  split at h
  case h_1 => exact absurd h Bool.false_ne_true
  case h_2 c cs hs =>
      unfold Expr.isPlainKey
      simp only [hs]
      rw [h, Bool.true_or]

/-! ## Low lines for dashes -/

/-- A text with low lines in place of its dashes. -/
def underscored (s : String) : String :=
  String.ofList (s.toList.map fun c => if c == '-' then '_' else c)

@[simp] theorem toList_underscored (s : String) :
    (underscored s).toList = s.toList.map fun c => if c == '-' then '_' else c := by
  simp [underscored]

theorem dash_notMem_underscored (s : String) : '-' ∉ (underscored s).toList := by
  rw [toList_underscored]
  intro h
  obtain ⟨c, -, hc⟩ := List.mem_map.mp h
  split at hc
  case isTrue => exact absurd hc (by decide)
  case isFalse hne => exact hne (by simp [hc])

theorem underscored_eq_self_iff {s : String} : underscored s = s ↔ '-' ∉ s.toList := by
  constructor
  · intro h
    rw [← h]
    exact dash_notMem_underscored s
  · intro h
    have hmap : (s.toList.map fun c => if c == '-' then '_' else c) = s.toList.map id := by
      refine List.map_congr_left fun c hc => ?_
      have hne : c ≠ '-' := fun he => h (he ▸ hc)
      simp [hne]
    rw [underscored, hmap, List.map_id, String.ofList_toList]

theorem underscored_eq_iff {s t : String} (hdash : '-' ∉ t.toList) (hline : '_' ∉ t.toList) :
    underscored s = t ↔ s = t := by
  constructor
  · rintro rfl
    refine (underscored_eq_self_iff.mpr fun hmem => hline ?_).symm
    rw [toList_underscored]
    exact List.mem_map.mpr ⟨'-', hmem, rfl⟩
  · rintro rfl
    exact underscored_eq_self_iff.mpr hdash

/-- A name with low lines for dashes is a word. -/
theorem isWordText_underscored {s : String} (h : isIdentifier s = true) :
    Sign.isWordText (underscored s) = true := by
  have hmem := @mem_isIdentifier s h
  unfold isIdentifier at h
  split at h
  case h_1 => exact absurd h Bool.false_ne_true
  case h_2 c cs hs =>
      simp only [Bool.and_eq_true] at h
      have hc : (c == '-') = false := by
        cases hd : c == '-' with
        | false => rfl
        | true => exact absurd h.1 (by rw [beq_iff_eq.mp hd]; decide)
      simp only [Sign.isWordText, toList_underscored, hs, List.map_cons, hc, h.1, Bool.true_and,
        List.all_map, List.all_eq_true, Function.comp_apply, Bool.false_eq_true, if_false]
      intro d hd
      rcases hmem (by rw [hs]; exact List.mem_cons_of_mem _ hd) with hw | rfl
      · split
        · decide
        · exact hw
      · decide

/-! ## Blanks -/

/-- A text without the blanks before it. -/
def unindented (s : String) : String :=
  String.ofList (s.toList.dropWhile Text.isBlank)

theorem unindented_eq_self_iff {s : String} :
    unindented s = s ↔ ∀ c ∈ s.toList.head?, Text.isBlank c = false := by
  rw [← String.toList_inj, unindented, String.toList_ofList, List.dropWhile_eq_self_iff]
  cases s.toList with
  | nil => simp
  | cons c cs => simp

/-- A text that the renaming of properties leaves as it is: no dash in it and no blank before it. -/
structure IsUntouched (s : String) : Prop where
  dash : '-' ∉ s.toList
  front : ∀ c ∈ s.toList.head?, Text.isBlank c = false

theorem underscored_unindented_eq_self_iff {s : String} :
    underscored (unindented s) = s ↔ IsUntouched s := by
  constructor
  · intro h
    refine ⟨h ▸ dash_notMem_underscored _, unindented_eq_self_iff.mp ?_⟩
    have hlength : (unindented s).toList.length = s.toList.length := by
      conv_rhs => rw [← h, toList_underscored, List.length_map]
    have hsuffix : (unindented s).toList <:+ s.toList := by
      rw [unindented, String.toList_ofList]
      exact List.dropWhile_suffix _
    exact String.toList_inj.mp (hsuffix.eq_of_length hlength)
  · rintro ⟨hdash, hfront⟩
    rw [unindented_eq_self_iff.mpr hfront, underscored_eq_self_iff.mpr hdash]

theorem dropEndWhile_eq_self {p : Char → Bool} {cs : List Char} (hne : cs ≠ [])
    (h : ∀ c ∈ cs.getLast?, p c = false) : Text.dropEndWhile p cs = cs := by
  obtain ⟨front, c, rfl⟩ := (List.eq_nil_or_concat cs).resolve_left hne
  have hc : p c = false := h c (by simp)
  simp [Text.dropEndWhile, hc]

theorem trim_point {s k : String} (hk : isIdentifier k = true) :
    Text.trim (s ++ "." ++ k).toList = (unindented s ++ "." ++ k).toList := by
  have hfront : (s ++ "." ++ k).toList.dropWhile Text.isBlank =
      (unindented s ++ "." ++ k).toList := by
    simp only [String.toList_append, List.append_assoc, unindented, String.toList_ofList]
    rw [List.dropWhile_append]
    split
    case isTrue h =>
        rw [List.isEmpty_iff.mp h]
        rfl
    case isFalse => rfl
  rw [Text.trim, hfront]
  -- The text ends in a character of the name, which is no blank.
  refine dropEndWhile_eq_self (by simp) fun c hc => not_isBlank_of_isIdentifier hk ?_
  rw [String.toList_append, List.getLast?_append_of_ne_nil _ (ne_nil_of_isIdentifier hk)] at hc
  exact List.mem_of_getLast? hc

/-! ## Paths -/

/-- The name of a part of the object with a given path. -/
def partName (path key : String) : String :=
  match properties.lookup (path ++ "." ++ key) with
  | some mapped => String.ofList (afterLastPoint mapped.toList)
  | none => underscored key

/-- The renamed paths are all properties of `file`. -/
theorem lookup_part {path key mapped : String}
    (h : properties.lookup (path ++ "." ++ key) = some mapped) :
    path = "file" ∧ mapped = "file" ++ "." ++ partName "file" key ∧
      Sign.isWordText (partName "file" key) = true := by
  have htable : ∀ p ∈ properties, ∃ k, p.1.toList = "file".toList ++ '.' :: k ∧ '.' ∉ k ∧
      p.2 = "file" ++ "." ++ String.ofList (afterLastPoint p.2.toList) ∧
      Sign.isWordText (String.ofList (afterLastPoint p.2.toList)) = true := by
    intro p hp
    refine ⟨p.1.toList.drop 5, ?_⟩
    revert p
    decide
  obtain ⟨front, back, hsplit, -⟩ := List.lookup_eq_some_iff.mp h
  obtain ⟨k, hk, hdot, hmapped, hword⟩ := htable (path ++ "." ++ key, mapped) (by simp [hsplit])
  have hpath : "file".toList ++ '.' :: k = path.toList ++ '.' :: key.toList := by
    rw [← hk]
    simp
  obtain ⟨hfile, -, -⟩ := (List.append_cons_inj_of_notMem (by decide) hdot).mp hpath
  obtain rfl := String.toList_inj.mp hfile
  have hname : partName "file" key = String.ofList (afterLastPoint mapped.toList) := by
    rw [partName, h]
  rw [hname]
  exact ⟨rfl, hmapped, hword⟩

theorem partName_of_ne {path : String} (h : path ≠ "file") (key : String) :
    partName path key = underscored key := by
  unfold partName
  split
  case h_1 mapped hl => exact absurd (lookup_part hl).1 h
  case h_2 => rfl

theorem isWordText_partName (path : String) {key : String} (hkey : isIdentifier key = true) :
    Sign.isWordText (partName path key) = true := by
  cases hl : properties.lookup (path ++ "." ++ key) with
  | none =>
      rw [partName, hl]
      exact isWordText_underscored hkey
  | some mapped =>
      obtain ⟨rfl, -, hword⟩ := lookup_part hl
      exact hword

theorem partName_congr {s t : String} (h : s = "file" ↔ t = "file") (key : String) :
    partName s key = partName t key := by
  by_cases hs : s = "file"
  · rw [hs, h.mp hs]
  · rw [partName_of_ne hs, partName_of_ne (mt h.mpr hs)]

/-- The text of a part of the object with a given path. -/
def access (path key : String) : String :=
  path ++ "." ++ partName path key

theorem eq_of_append_point {xs ys v w : List Char} (hv : '.' ∉ v) (hw : '.' ∉ w)
    (h : xs ++ '.' :: v = ys ++ '.' :: w) : xs = ys := by
  -- If one were longer, its point would stand within the other's name.
  rcases List.append_eq_append_iff.mp h with ⟨zs, rfl, hz⟩ | ⟨zs, rfl, hz⟩
  · cases zs with
    | nil => simp
    | cons z zs => exact absurd (by simp [(List.cons.inj hz).2]) hv
  · cases zs with
    | nil => simp
    | cons z zs => exact absurd (by simp [(List.cons.inj hz).2]) hw

/-- The path of an object can be told from the text of its part. -/
theorem access_inj {s t key : String} (hkey : isIdentifier key = true) :
    access s key = access t key ↔ s = t := by
  have hpoint : ∀ path : String, '.' ∉ (partName path key).toList := fun path hmem =>
    absurd (Sign.isWord_of_mem_isWordText (isWordText_partName path hkey) hmem) (by decide)
  constructor
  · intro h
    have hsplit : s.toList ++ '.' :: (partName s key).toList =
        t.toList ++ '.' :: (partName t key).toList := by
      simpa [access, ← String.toList_inj] using h
    exact String.toList_inj.mp (eq_of_append_point (hpoint s) (hpoint t) hsplit)
  · rintro rfl
    rfl

/-- A property of an object is renamed as a whole: the object loses the blanks before it, and its
dashes become low lines. -/
theorem property_part (s : String) {key : String} (hkey : isIdentifier key = true) :
    property (s ++ "." ++ key) = access (underscored (unindented s)) key := by
  have hunder : String.ofList ((unindented s ++ "." ++ key).toList.map
      fun c => if c == '-' then '_' else c) =
      underscored (unindented s) ++ "." ++ underscored key := by
    simp [← String.toList_inj]
  have hfile : underscored (unindented s) = "file" ↔ unindented s = "file" :=
    underscored_eq_iff (by decide) (by decide)
  rw [property, trim_point hkey, String.ofList_toList, hunder, access, partName_congr hfile]
  split
  case h_1 mapped hl =>
      obtain ⟨hs, hmapped, -⟩ := lookup_part hl
      rw [hfile.mpr hs, hs, hmapped]
  case h_2 hl => rw [partName, hl]

/-- The object is left as it is exactly if the renaming does not touch it. -/
theorem property_part_eq_iff {s key : String} (hkey : isIdentifier key = true) :
    property (s ++ "." ++ key) = access s key ↔ IsUntouched s := by
  rw [property_part s hkey, access_inj hkey, underscored_unindented_eq_self_iff]

/-- A name by itself is never renamed. -/
theorem property_isIdentifier {s : String} (h : isIdentifier s = true) :
    property s = underscored s := by
  have htable : ∀ p ∈ properties, '.' ∈ p.1.toList := by decide
  have hnone : properties.lookup s = none := by
    refine List.lookup_eq_none_iff.mpr fun p hp => ?_
    simp only [bne_iff_ne]
    rintro rfl
    exact notMem_isIdentifier h (by decide) (by decide) (htable p hp)
  have htrim : Text.trim s.toList = s.toList := by
    have hfront := unindented_eq_self_iff.mpr fun c hc =>
      not_isBlank_of_isIdentifier h (List.mem_of_head? hc)
    rw [← String.toList_inj, unindented, String.toList_ofList] at hfront
    rw [Text.trim, hfront]
    exact dropEndWhile_eq_self (ne_nil_of_isIdentifier h) fun c hc =>
      not_isBlank_of_isIdentifier h (List.mem_of_getLast? hc)
  rw [property, htrim, String.ofList_toList, hnone]
  rfl

end VaultQuery.Vocabulary
