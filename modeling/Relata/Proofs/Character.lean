/-!
# Statements about the characters of a text

What is said of the characters of a list, or of its first one, is decided by looking at these
characters. Without the instances below it may be decided by going through all characters there are.
-/

namespace Relata

variable {p : Char → Prop} [DecidablePred p]

instance (priority := high) decidableForallMemList (cs : List Char) : Decidable (∀ c ∈ cs, p c) :=
  List.decidableBAll p cs

instance (priority := high) decidableExistsMemList (cs : List Char) : Decidable (∃ c ∈ cs, p c) :=
  List.decidableBEx p cs

instance (priority := high) decidableForallMemOption (c? : Option Char) :
    Decidable (∀ c ∈ c?, p c) :=
  Option.decidableForallMem c?

instance (priority := high) decidableExistsMemOption (c? : Option Char) :
    Decidable (∃ c ∈ c?, p c) :=
  Option.decidableExistsMem c?

end Relata
