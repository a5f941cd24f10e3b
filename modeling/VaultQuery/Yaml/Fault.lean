import VaultQuery.Stamp

/-!
Why a document has no data.
-/

namespace VaultQuery.Yaml

/-- Why a document has no data. -/
inductive Fault where
  /-- The text is not in block form. -/
  | malformed
  /-- A map or a list stands where a key should. -/
  | collectionKey
  /-- An escape names a code point past the last one. -/
  | notACodePoint
  /-- An escape names a number of more than 31 bits. -/
  | notACode
  | numeral (fault : NumeralFault)
  | stamp (fault : StampFault)
  /-- A place of a number to the base sixty is worth more than the largest real number. -/
  | tooLarge
deriving DecidableEq, Repr

/-- The message of a fault. -/
def Fault.message : Fault → String
  | .malformed => "the document is not in block form"
  | .collectionKey => "found unhashable key"
  | .notACodePoint => "chr() arg not in range(0x110000)"
  | .notACode => "Python int too large to convert to C int"
  | .numeral fault => fault.message
  | .stamp fault => fault.message
  | .tooLarge => "int too large to convert to float"

end VaultQuery.Yaml
