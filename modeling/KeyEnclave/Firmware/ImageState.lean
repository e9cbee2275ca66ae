/-!
# Lifecycle of a firmware image

The state of an image is kept in flash as three words that start erased and can only have bits
cleared, so every step of the lifecycle is a write that needs no erase.

## Main definitions

* `ImageState` — the five states.
* `ImageState.words`, `ImageState.ofWords` — the field that records a state, and the state a field
  stands for.
* `ImageState.canBecome` — the edges of the lifecycle.
-/

namespace KeyEnclave

/-- The three words of a state field. -/
structure StateWords where
  first : UInt32
  second : UInt32
  third : UInt32
  deriving DecidableEq, Repr, Inhabited

/-- The words in flash order. -/
def StateWords.toList (w : StateWords) : List UInt32 := [w.first, w.second, w.third]

/-- States of a firmware image. -/
inductive ImageState
  /-- Freshly installed, never started. -/
  | new
  /-- Started once, waiting for the application to validate itself. -/
  | selfTest
  /-- Validated by the application. -/
  | valid
  /-- Validated together with every other active slot. -/
  | validAll
  /-- Rejected, or recorded by a field that stands for no other state. -/
  | invalid
  deriving DecidableEq, Repr, Inhabited

namespace ImageState

/-- Every state, in the order of its number on the wire. -/
def all : List ImageState := [new, selfTest, valid, validAll, invalid]

/-- A word of erased flash. -/
def erasedWord : UInt32 := 0xFFFFFFFF

/-- The word that marks validation of all slots. -/
def validAllMark : UInt32 := 0x55555555

/-- The field that records a state. -/
def words : ImageState → StateWords
  | new => ⟨erasedWord, erasedWord, erasedWord⟩
  | selfTest => ⟨erasedWord, erasedWord, 0⟩
  | valid => ⟨erasedWord, 0, 0⟩
  | validAll => ⟨erasedWord, validAllMark, 0⟩
  | invalid => ⟨0, 0, 0⟩

/-- The state a field stands for; a field that records no state stands for `invalid`. -/
def ofWords (w : StateWords) : ImageState :=
  ([new, selfTest, valid, validAll].find? fun s => s.words = w).getD invalid

/-- Whether the lifecycle has an edge between two states. -/
def canBecome : ImageState → ImageState → Bool
  | new, selfTest => true
  | selfTest, invalid => true
  | selfTest, valid => true
  | selfTest, validAll => true
  | valid, invalid => true
  | _, _ => false

@[simp] theorem ofWords_words (s : ImageState) : ofWords s.words = s := by
  cases s <;> decide

end ImageState

end KeyEnclave
