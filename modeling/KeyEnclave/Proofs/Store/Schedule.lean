import KeyEnclave.Proofs.Store.Reload

/-!
# Storage that follows a schedule

Storage with a content, where what becomes of an operation depends on its kind, its key and the
operations before it, and on nothing that is kept. Two such storages that differ in one record, which
is readable in both, can not be told apart by what succeeds.

## Main definitions

* `SameUnless` — two values are the same unless both have a property.
* `ScheduledNvm` — a content, the operations so far, and the schedule.
* `ScheduledNvm.SameBut` — two storages are the same but for the record of one object.

## Main results

* `ScheduledNvm.SameBut.write`, `SameBut.remove`, `SameBut.read` — operations keep it, and succeed
  alike.
-/

namespace KeyEnclave

open KeyEnclave.ObjectStore

/-- Two values are the same unless both have a property. -/
def SameUnless {α : Type} (p : α → Prop) (x x' : α) : Prop := x' = x ∨ p x ∧ p x'

theorem SameUnless.refl {α : Type} {p : α → Prop} (x : α) : SameUnless p x x := .inl rfl

/-- What becomes of an operation on storage. -/
inductive NvmFate
  | done
  /-- It fails and has no effect. -/
  | refused
  /-- It has its effect, but fails. -/
  | lost
  deriving DecidableEq, Repr

/-- An operation on storage without the data that comes with it. -/
inductive NvmShape
  | read (key : UInt32)
  | write (key : UInt32)
  | remove (key : UInt32)
  deriving DecidableEq, Repr

/-- The kind of an operation and its key. -/
def NvmOp.shape : NvmOp → NvmShape
  | .read key _ => .read key
  | .write key _ => .write key
  | .remove key => .remove key

/-- Storage where a schedule says what becomes of an operation. -/
structure ScheduledNvm where
  content : NvmContent
  /-- The operations so far, the last one first. -/
  past : List NvmShape
  schedule : List NvmShape → NvmShape → NvmFate

/-- Data is a record in which an object with the handle is found. -/
def IsRecordOf (handle : ObjectHandle) (data : Bytes) : Prop :=
  data.length ≤ recordRoom ∧ ∃ object, objectOfRecord handle data = .ok (some object)

namespace ScheduledNvm

/-- What becomes of the next operation. -/
def fate (nvm : ScheduledNvm) (op : NvmOp) : NvmFate := nvm.schedule nvm.past op.shape

/-- The reply to an operation. -/
def reply (nvm : ScheduledNvm) : (op : NvmOp) → op.Reply
  | .read key room =>
    if nvm.fate (.read key room) = .done then nvm.content.read key room else .error .failed
  | .write key data => if nvm.fate (.write key data) = .done then .ok () else .error .failed
  | .remove key => if nvm.fate (.remove key) = .done then .ok () else .error .failed

/-- The storage after an operation. -/
def after (nvm : ScheduledNvm) (op : NvmOp) : ScheduledNvm :=
  { nvm with
    content := if nvm.fate op = .refused then nvm.content else op.effect nvm.content
    past := op.shape :: nvm.past }

instance : NvmStorage ScheduledNvm where
  serve op nvm := (nvm.reply op, nvm.after op)

/-- There is a record of the object under the key of its handle. -/
def HasRecord (handle : ObjectHandle) (key : UInt32) (found : Option Bytes) : Prop :=
  key = handle ∧ ∃ data, found = some data ∧ IsRecordOf handle data

/-- Two storages are the same but for the record of one object, which there is in both. -/
structure SameBut (handle : ObjectHandle) (nvm nvm' : ScheduledNvm) : Prop where
  content : ∀ key, SameUnless (HasRecord handle key) (nvm.content key) (nvm'.content key)
  past_eq : nvm'.past = nvm.past
  schedule_eq : nvm'.schedule = nvm.schedule

namespace SameBut

variable {handle : ObjectHandle} {nvm nvm' : ScheduledNvm}

theorem fate_eq (h : nvm.SameBut handle nvm') {op op' : NvmOp} (hshape : op'.shape = op.shape) :
    nvm'.fate op' = nvm.fate op := by
  unfold fate
  rw [h.past_eq, h.schedule_eq, hshape]

/-- Operations of one shape with the same effect on all other records have the same fate. -/
theorem after (h : nvm.SameBut handle nvm') {op op' : NvmOp} (hshape : op'.shape = op.shape)
    (heffect : ∀ key, SameUnless (HasRecord handle key) (op.effect nvm.content key)
      (op'.effect nvm'.content key)) : (nvm.after op).SameBut handle (nvm'.after op') := by
  refine ⟨fun key => ?_, ?_, h.schedule_eq⟩
  · unfold ScheduledNvm.after
    rw [h.fate_eq hshape]
    by_cases hrefused : nvm.fate op = .refused
    · simp only [if_pos hrefused]
      exact h.content key
    · simp only [if_neg hrefused]
      exact heffect key
  · show op'.shape :: nvm'.past = op.shape :: nvm.past
    rw [hshape, h.past_eq]

theorem write (h : nvm.SameBut handle nvm') {key : UInt32} {data data' : Bytes}
    (hdata : SameUnless (fun data => key = handle ∧ IsRecordOf handle data) data data') :
    (nvm'.reply (.write key data') : Except NvmError Unit) = nvm.reply (.write key data) ∧
      (nvm.after (.write key data)).SameBut handle (nvm'.after (.write key data')) := by
  constructor
  · have hfate : nvm'.fate (.write key data') = nvm.fate (.write key data) := h.fate_eq rfl
    show (if nvm'.fate (.write key data') = .done then _ else _) =
      if nvm.fate (.write key data) = .done then _ else _
    rw [hfate]
  · refine h.after rfl fun other => ?_
    simp only [NvmOp.effect, Function.update_apply]
    by_cases heq : other = key
    · simp only [if_pos heq]
      rcases hdata with rfl | ⟨⟨hkey, hrecord⟩, -, hrecord'⟩
      · exact .refl _
      · exact .inr ⟨⟨heq.trans hkey, data, rfl, hrecord⟩, heq.trans hkey, data', rfl, hrecord'⟩
    · simp only [if_neg heq]
      exact h.content other

theorem remove (h : nvm.SameBut handle nvm') (key : UInt32) :
    nvm'.reply (.remove key) = nvm.reply (.remove key) ∧
      (nvm.after (.remove key)).SameBut handle (nvm'.after (.remove key)) := by
  constructor
  · show (if nvm'.fate (.remove key) = .done then _ else _) =
      if nvm.fate (.remove key) = .done then _ else _
    rw [h.fate_eq rfl]
  · refine h.after rfl fun other => ?_
    simp only [NvmOp.effect, Function.update_apply]
    by_cases heq : other = key
    · simp only [if_pos heq]
      exact .refl _
    · simp only [if_neg heq]
      exact h.content other

/-- A record that may differ is read back in both storages, or in neither. -/
theorem read (h : nvm.SameBut handle nvm') (key : UInt32) :
    SameUnless (fun reply => key = handle ∧ ∃ data, reply = .ok (some data) ∧ IsRecordOf handle data)
        (nvm.reply (.read key recordRoom)) (nvm'.reply (.read key recordRoom)) ∧
      (nvm.after (.read key recordRoom)).SameBut handle (nvm'.after (.read key recordRoom)) := by
  refine ⟨?_, h.after rfl h.content⟩
  show SameUnless _ (if nvm.fate (.read key recordRoom) = .done then _ else _)
    (if nvm'.fate (.read key recordRoom) = .done then _ else _)
  rw [h.fate_eq rfl]
  by_cases hdone : nvm.fate (.read key recordRoom) = .done
  · simp only [if_pos hdone, NvmContent.read]
    rcases h.content key with hsame | ⟨⟨hkey, data, hdata, hrecord⟩, -, data', hdata', hrecord'⟩
    · rw [hsame]
      exact .refl _
    · simp only [hdata, hdata', if_neg (Nat.not_lt.mpr hrecord.1),
        if_neg (Nat.not_lt.mpr hrecord'.1)]
      exact .inr ⟨⟨hkey, data, rfl, hrecord⟩, hkey, data', rfl, hrecord'⟩
  · simp only [if_neg hdone]
    exact .refl _

end SameBut

end ScheduledNvm

end KeyEnclave
