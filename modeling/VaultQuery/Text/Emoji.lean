import VaultQuery.Text.Blank
import VaultQuery.Text.Case
import VaultQuery.Text.Emoji.Names

/-!
Short codes of emoji: a name between two colons stands for the emoji of that name.
-/

namespace VaultQuery.Text.Emoji

/-- The value of a digit in base sixteen, small letters only. -/
def hexDigit (c : Char) : Nat :=
  if c.isDigit then c.toNat - '0'.toNat else c.toNat - 'a'.toNat + 10

/-- A name with its emoji, as written in a row of the table. -/
def entry (cs : List Char) : List Char × List Char :=
  let name := cs.takeWhile (· != '=')
  let codes := cutAt ',' (cs.drop (name.length + 1))
  (name, codes.map fun ds => Char.ofNat (ds.foldl (fun n d => n * 16 + hexDigit d) 0))

/-- All names with their emoji. -/
def entries : List (List Char × List Char) :=
  nameRows.flatMap fun row => (cutAt ' ' row.toList).map entry

/-- The emoji of a name in small letters. -/
def find? (name : List Char) : Option (List Char) :=
  (entries.find? fun e => e.1 == name).map (·.2)

/-- The ends of a name that ask for a form, and the sign that selects it. -/
def forms : List (List Char × Char) :=
  [("-emoji".toList, '\ufe0f'), ("-text".toList, '\ufe0e')]

/-- The emoji that a code stands for, where the case of letters does not matter. -/
def meaning? (code : List Char) : Option (List Char) :=
  match forms.find? fun f => f.1.isSuffixOf code with
  | some f => (find? (lower (code.take (code.length - f.1.length)))).map (· ++ [f.2])
  | none => find? (lower code)

/-- The code whose first colon stands before a text, and the rest after its second colon. -/
def code? (cs : List Char) : Option (List Char × List Char) :=
  let code := cs.takeWhile fun c => c != ':' && !isBlank c
  match cs.drop code.length with
  | ':' :: rest => some (code, rest)
  | _ => none

theorem length_lt_of_code? {cs code rest : List Char} (h : code? cs = some (code, rest)) :
    rest.length < cs.length := by
  simp only [code?] at h
  split at h
  · next r hr =>
    have hl := congrArg List.length hr
    simp only [List.length_drop, List.length_cons] at hl
    cases h
    omega
  · exact nomatch h

/-- A text with emoji in place of their codes; a code with an unknown name is kept. -/
def expand : List Char → List Char
  | [] => []
  | c :: cs =>
    if c == ':' then
      match _h : code? cs with
      | some (code, rest) => (meaning? code).getD (':' :: code ++ [':']) ++ expand rest
      | none => c :: expand cs
    else c :: expand cs
termination_by cs => cs.length
decreasing_by
  · have := length_lt_of_code? _h
    simp only [List.length_cons]
    omega
  all_goals simp

/-- A text without colons is kept. -/
theorem expand_of_notMem {cs : List Char} (h : ':' ∉ cs) : expand cs = cs := by
  induction cs with
  | nil => simp [expand]
  | cons c cs ih =>
    have hc : c ≠ ':' := fun e => h (by simp [e])
    have ht : ':' ∉ cs := fun e => h (by simp [e])
    rw [expand, if_neg (by simpa using hc), ih ht]

end VaultQuery.Text.Emoji
