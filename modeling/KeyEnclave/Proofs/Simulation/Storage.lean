import KeyEnclave.Proofs.Store.Reload
import KeyEnclave.Simulation.Storage

/-!
# Simulated storage is steady

Whatever faults simulated storage is told to have, an operation that fails leaves the records as
they are, and an operation that succeeds has its effect.

## Main definitions

* `SimulatedNvm.content` — what is kept under each key.
-/

namespace KeyEnclave.SimulatedNvm

/-- What is kept under each key. -/
def content (nvm : SimulatedNvm) : NvmContent := fun key => nvm.records.lookup key

theorem lookup_drop (records : List (UInt32 × Bytes)) (key other : UInt32) :
    (records.filter fun record => record.1 != key).lookup other =
      if other = key then none else records.lookup other := by
  induction records with
  | nil => simp
  | cons record records ih =>
    rcases record with ⟨found, data⟩
    by_cases hfound : found = key
    · subst hfound
      rw [List.filter_cons_of_neg (by simp), ih]
      by_cases heq : other = found
      · rw [if_pos heq, if_pos heq]
      · rw [if_neg heq, if_neg heq, List.lookup_cons, beq_false_of_ne heq]
    · rw [List.filter_cons_of_pos (by simpa using hfound), List.lookup_cons, List.lookup_cons, ih]
      by_cases heq : other = found
      · subst heq
        rw [beq_self_eq_true]
        exact (if_neg hfound).symm
      · rw [beq_false_of_ne heq]

theorem content_drop (nvm : SimulatedNvm) (key : UInt32) :
    (nvm.drop key).content = Function.update nvm.content key none := by
  funext other
  rw [Function.update_apply]
  exact lookup_drop nvm.records key other

theorem content_put (nvm : SimulatedNvm) (key : UInt32) (data : Bytes) :
    (nvm.put key data).content = Function.update nvm.content key (some data) := by
  funext other
  show ((key, data) :: (nvm.drop key).records).lookup other = _
  rw [List.lookup_cons, Function.update_apply]
  by_cases heq : other = key
  · rw [heq, beq_self_eq_true, if_pos rfl]
  · rw [beq_false_of_ne heq, if_neg heq]
    exact (lookup_drop nvm.records key other).trans (if_neg heq)

/-- An operation succeeds and has its effect, or fails and has none. -/
theorem serve_cases (op : NvmOp) (nvm : SimulatedNvm) :
    NvmExchange.isSuccess ⟨op, (NvmStorage.serve op nvm).1⟩ = true ∧
        (NvmStorage.serve op nvm).2.content = op.effect nvm.content ∨
      NvmExchange.isSuccess ⟨op, (NvmStorage.serve op nvm).1⟩ = false ∧
        (NvmStorage.serve op nvm).2.content = nvm.content := by
  cases op with
  | read key room =>
    have hsame : (NvmStorage.serve (.read key room) nvm).2 = nvm := by
      simp only [NvmStorage.serve]
      split <;> rfl
    rw [hsame]
    cases NvmExchange.isSuccess ⟨.read key room, (NvmStorage.serve (.read key room) nvm).1⟩ with
    | true => exact .inl ⟨rfl, rfl⟩
    | false => exact .inr ⟨rfl, rfl⟩
  | write key data =>
    by_cases hfault : nvm.faults.hits (nvm.writes + 1) (.write key data) = true
    · have hserve : NvmStorage.serve (.write key data) nvm =
          (.error .failed, { nvm with writes := nvm.writes + 1 }) := if_pos hfault
      rw [hserve]
      exact .inr ⟨rfl, rfl⟩
    · have hserve : NvmStorage.serve (.write key data) nvm =
          (.ok (), { nvm with writes := nvm.writes + 1 }.put key data) := if_neg hfault
      rw [hserve]
      exact .inl ⟨rfl, content_put _ key data⟩
  | remove key =>
    by_cases hfault : nvm.faults.hits nvm.writes (.remove key) = true
    · have hserve : NvmStorage.serve (.remove key) nvm = (.error .failed, nvm) := if_pos hfault
      rw [hserve]
      exact .inr ⟨rfl, rfl⟩
    · have hserve : NvmStorage.serve (.remove key) nvm = (.ok (), nvm.drop key) := if_neg hfault
      rw [hserve]
      exact .inl ⟨rfl, content_drop nvm key⟩

instance : SteadyStorage SimulatedNvm where
  content := content
  content_of_success op nvm h := by
    rcases serve_cases op nvm with ⟨-, heffect⟩ | ⟨hfailed, -⟩
    · exact heffect
    · exact absurd (h.symm.trans hfailed) (by decide)
  content_of_failedWrite key data nvm h := by
    rcases serve_cases (.write key data) nvm with ⟨hserved, -⟩ | ⟨-, hsame⟩
    · exact absurd (h.symm.trans hserved) (by decide)
    · exact hsame
  content_of_failure op nvm h := by
    rcases serve_cases op nvm with ⟨hserved, -⟩ | ⟨-, hsame⟩
    · exact absurd (h.symm.trans hserved) (by decide)
    · exact hsame
  content_of_read key room nvm found h := by
    simp only [NvmStorage.serve] at h
    split at h
    · cases h
    · exact NvmContent.read_eq_ok.mp h

end KeyEnclave.SimulatedNvm
