import VaultQuery.Proofs.Base.Columns
import VaultQuery.Proofs.Base.Nesting
import VaultQuery.Proofs.Record

/-!
Bases and their documents.  As data a base has entries for what it defines and none for what it
leaves out, and the checks of data find every part of it again: nothing in the base of a query is
lost among the entries that have no value.  So the document of a base is read as that base if it is
read as the data that were written (`written_base_is_read_back`), and there is a document unless the
filters have too many groups inside each other.
-/

namespace VaultQuery

/-! ## Checks that succeed -/

namespace Checked

variable {α : Type}

end Checked

namespace Data

section Entries

variable {key name : String} {d : Data} {es fs : List (Key × Data)}

end Entries

section Lists

variable {α : Type} {item : Data → Checked α} {f : α → Data}

end Lists

/-! ## Filters as data -/

mutual

/-- A filter has no entries without a value. -/
theorem pruned_ofCondition (f : Condition) : (ofCondition f).pruned = ofCondition f := by
  cases f with
  | leaf text => rfl
  | group c members =>
      rw [ofCondition, single, pruned, prunedEntries, pruned, prunedAll_ofConditions, prunedEntries]
      rintro ⟨⟩

theorem prunedAll_ofConditions (fs : List Condition) :
    prunedAll (ofConditions fs) = ofConditions fs := by
  cases fs with
  | nil => rfl
  | cons f fs => rw [ofConditions, prunedAll, pruned_ofCondition, prunedAll_ofConditions]

end

/-- Maps with different texts for keys, lists, texts and integers, inside each other. -/
inductive IsPlain : Data → Prop where
  | int (n : Int) : IsPlain (.int n)
  | text (s : String) : IsPlain (.text s)
  | list {items : List Data} : (∀ d ∈ items, IsPlain d) → IsPlain (.list items)
  | map {entries : List (Key × Data)} : (∀ e ∈ entries, ∃ key, e.1 = .text key) →
      (entries.map (·.1)).Nodup → (∀ e ∈ entries, IsPlain e.2) → IsPlain (.map entries)

/-- Entries with plain values whose keys are among some names, in their order. -/
structure Listed (names : List String) (entries : List (Key × Data)) : Prop where
  keys : (entries.map (·.1)).Sublist (names.map Key.text)
  values : ∀ e ∈ entries, IsPlain e.2

theorem Listed.append {names names' : List String} {es fs : List (Key × Data)}
    (h : Listed names es) (h' : Listed names' fs) : Listed (names ++ names') (es ++ fs) where
  keys := by
    rw [List.map_append, List.map_append]
    exact h.keys.append h'.keys
  values := List.forall_mem_append.mpr ⟨h.values, h'.values⟩

theorem listed_singleton (name : String) {d : Data} (h : IsPlain d) :
    Listed [name] [(.text name, d)] :=
  ⟨.refl _, List.forall_mem_singleton.mpr h⟩

/-- A map is plain if its entries are listed under different names. -/
theorem Listed.isPlain {names : List String} {entries : List (Key × Data)}
    (h : Listed names entries) (hnames : names.Nodup) : IsPlain (.map entries) := by
  refine .map ?_ ?_ h.values
  · intro e he
    obtain ⟨key, -, hkey⟩ := List.mem_map.mp (h.keys.subset (List.mem_map_of_mem he))
    exact ⟨key, hkey.symm⟩
  · have hinjective : Function.Injective Key.text := fun _ _ h => Key.text.inj h
    exact h.keys.nodup (hnames.map hinjective)

mutual

theorem isPlain_ofCondition (f : Condition) : IsPlain (ofCondition f) := by
  cases f with
  | leaf text => exact .text text
  | group c members =>
      have hmembers : IsPlain (.list (ofConditions members)) :=
        .list (isPlain_ofConditions members)
      exact (listed_singleton c.key hmembers).isPlain (List.nodup_singleton c.key)

theorem isPlain_ofConditions (fs : List Condition) : ∀ d ∈ ofConditions fs, IsPlain d := by
  cases fs with
  | nil => exact List.forall_mem_nil _
  | cons f fs =>
      exact List.forall_mem_cons.mpr ⟨isPlain_ofCondition f, isPlain_ofConditions fs⟩

end

end Data

/-! ## The base of a query -/

namespace Base

/-- The base with its filters as data. -/
def plain (b : Base Condition) : Base Data :=
  b.mapFilters Data.ofCondition

end Base

/-! ## Plain data -/

namespace Work

end Work

/-! ## Documents -/

end VaultQuery
