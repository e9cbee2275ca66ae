/-!
# Numbered identifiers

Finite families of identifiers, each of which stands for one 32-bit word at the boundary of the
enclave.

## Main definitions

* `Numbered` — the members of a family in order, and the word of each.
* `Numbered.ofWord?` — the member a word stands for.
-/

namespace KeyEnclave

/-- A finite family of identifiers with a word for each. -/
class Numbered (α : Type) where
  /-- Every member, in declaration order. -/
  all : List α
  /-- The word a member stands for. -/
  word : α → UInt32

namespace Numbered

variable {α : Type} [Numbered α]

/-- The member of the family that `w` stands for. -/
def ofWord? (w : UInt32) : Option α := (all : List α).find? fun a => word a == w

theorem word_of_ofWord? {w : UInt32} {a : α} (h : ofWord? w = some a) : word a = w := by
  simpa using List.find?_some h

end Numbered

end KeyEnclave
