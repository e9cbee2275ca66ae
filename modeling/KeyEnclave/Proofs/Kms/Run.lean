import KeyEnclave.Proofs.Action.Alike
import KeyEnclave.Proofs.Kms.Serve

/-!
# Runs of the service

A run is a list of calls that are served one after the other. What holds after every run is proved
from what one call preserves; what was done in a run is read off its history.

## Main definitions

* `Call` — a function word and the request that comes with it.
* `Served` — a call with its answer and the exchanges it led to.
* `Kms.Accepts` — a call is not refused for its function word.
* `Kms.next`, `Kms.answerTo`, `Kms.eventsOf` — what one call does.
* `Kms.after`, `Kms.history` — the service after a run, and the calls of the run as served.

## Main results

* `Kms.after_of_effect` — what every effect preserves holds after every run.
-/

namespace KeyEnclave

/-- A function word and the request that comes with it. -/
structure Call where
  word : UInt32
  request : Request

/-- A call that was served. -/
structure Served where
  call : Call
  answer : Answer
  events : List KmsEvent

theorem FunctionId.ofWord?_word (function : FunctionId) :
    Numbered.ofWord? function.word = some function := by
  cases function <;> rfl

theorem FunctionId.word_mem (function : FunctionId) :
    firstWord ≤ function.word ∧ function.word < endWord := by
  cases function <;> decide

namespace Kms

section Accepted

variable {C T N : Type} {kms : Kms C T N} {request : Request}

/-- A call comes with the word of its function, which is not latched. -/
structure Accepts (kms : Kms C T N) (call : Call) : Prop where
  word_eq : FunctionId.withoutOrigin call.word = call.request.function.word
  unlatched : kms.latches.isFunctionLocked call.request.function.word = false

theorem Accepts.admitted {call : Call} (h : kms.Accepts call) :
    kms.admitted call.word call.request = .ok () := by
  obtain ⟨hfirst, hend⟩ := call.request.function.word_mem
  have hinside : ¬(call.request.function.word < FunctionId.firstWord ∨
      FunctionId.endWord ≤ call.request.function.word) := by
    rintro (h | h)
    · exact absurd hfirst (UInt32.not_le.mpr h)
    · exact absurd hend (UInt32.not_lt.mpr h)
  unfold Kms.admitted
  simp only [h.word_eq, FunctionId.ofWord?_word, h.unlatched, if_neg hinside, ne_eq,
    not_true_eq_false, if_false, Bool.false_eq_true]
  rfl

/-- The codes for a call that is refused for its function word. -/
theorem code_of_refused {word : UInt32} {code : ReturnCode}
    (h : kms.admitted word request = .error code) :
    code ∈ [ReturnCode.functionFailed, .argumentsBad] := by
  simp only [Kms.admitted, bind, Except.bind, throw, throwThe, MonadExceptOf.throw] at h
  split at h
  · cases h
    decide
  · split at h
    · cases h
      decide
    · split at h
      · cases h
        decide
      · split at h
        · cases h
          decide
        · cases h

theorem ne_ok_of_refused {word : UInt32} {code : ReturnCode}
    (h : kms.admitted word request = .error code) : code ≠ .ok :=
  ne_of_mem_of_not_mem (code_of_refused h) (by decide)

end Accepted

/-- What an accepted configuration starts with. -/
theorem new_eq_ok {C T N : Type} {config : KmsConfig} {crypto : C} {token : T} {nvm : N}
    {start : Kms C T N} (h : Kms.new config crypto token nvm = .ok start) :
    config.layout.validate = .ok () ∧
      start = ⟨.allOpen, .down, ObjectStore.new config.layout config.embedded nvm, crypto, token,
        config.blobKeys⟩ := by
  unfold new at h
  cases hvalid : config.layout.validate with
  | error fault =>
    rw [hvalid] at h
    cases h
  | ok u =>
    refine ⟨rfl, ?_⟩
    simp only [hvalid, bind, Except.bind] at h
    split at h
    · cases h
    · cases hkeys : config.blobKeys with
      | none =>
        simp only [hkeys, pure, Except.pure, Except.ok.injEq] at h
        exact h.symm
      | some keys =>
        simp only [hkeys] at h
        split at h
        · cases h
        · simp only [pure, Except.pure, Except.ok.injEq] at h
          exact h.symm

/-- A template at any address. -/
def templateOf (entries : List (AttributeKind × Bytes)) : PlacedTemplate :=
  ⟨default, entries.map fun entry => ⟨entry.1, ⟨default, entry.2⟩⟩⟩

/-- A service over a layout with nothing embedded, after a reset. -/
def plain {C T N : Type} (layout : ObjectLayout) (crypto : C) (token : T) (nvm : N) : Kms C T N :=
  ⟨.allOpen, .down, ObjectStore.new layout [] nvm, crypto, token, none⟩

theorem new_plain {C T N : Type} {layout : ObjectLayout} (hvalid : layout.validate = .ok ())
    (crypto : C) (token : T) (nvm : N) :
    Kms.new ⟨layout, [], none⟩ crypto token nvm = .ok (plain layout crypto token nvm) := by
  unfold new
  rw [hvalid]
  rfl

variable {C T N : Type} [CryptoProvider C] [ExternalToken T] [NvmStorage N]

/-- The answer to a call. -/
def answerTo (kms : Kms C T N) (call : Call) : Answer := (kms.dispatch call.word call.request).1

/-- The service after a call. -/
def next (kms : Kms C T N) (call : Call) : Kms C T N := (kms.dispatch call.word call.request).2.1

/-- The exchanges that a call leads to. -/
def eventsOf (kms : Kms C T N) (call : Call) : List KmsEvent :=
  (kms.dispatch call.word call.request).2.2

/-- The service after a run. -/
def after (kms : Kms C T N) (calls : List Call) : Kms C T N := calls.foldl next kms

/-- A call as the service serves it. -/
def served (kms : Kms C T N) (call : Call) : Served :=
  ⟨call, kms.answerTo call, kms.eventsOf call⟩

/-- The calls of a run as they were served. -/
def history (kms : Kms C T N) : List Call → List Served
  | [] => []
  | call :: calls => kms.served call :: (kms.next call).history calls

variable {kms : Kms C T N}

@[simp] theorem after_nil : kms.after [] = kms := rfl

@[simp] theorem after_cons (call : Call) (calls : List Call) :
    kms.after (call :: calls) = (kms.next call).after calls := rfl

theorem after_append (calls rest : List Call) :
    kms.after (calls ++ rest) = (kms.after calls).after rest :=
  List.foldl_append

theorem after_concat (calls : List Call) (call : Call) :
    kms.after (calls ++ [call]) = (kms.after calls).next call := after_append calls [call]

theorem history_append (calls rest : List Call) :
    kms.history (calls ++ rest) = kms.history calls ++ (kms.after calls).history rest := by
  induction calls generalizing kms with
  | nil => rfl
  | cons call calls ih => exact congrArg _ ih

theorem call_mem_of_mem_history {calls : List Call} {served : Served}
    (h : served ∈ kms.history calls) : served.call ∈ calls := by
  induction calls generalizing kms with
  | nil => cases h
  | cons call calls ih =>
    cases h with
    | head => exact List.mem_cons_self
    | tail _ h => exact List.mem_cons_of_mem call (ih h)

theorem next_effect (kms : Kms C T N) (call : Call) :
    kms.Effect call.request (kms.next call) (kms.eventsOf call) :=
  dispatch_effect kms call.word call.request

/-- A call that is answered with `ok` was not refused for its function word. -/
theorem admitted_of_ok {call : Call} (hok : (kms.answerTo call).code = .ok) :
    kms.admitted call.word call.request = .ok () := by
  cases hadmitted : kms.admitted call.word call.request with
  | error code =>
    rw [answerTo, dispatch_of_refused hadmitted] at hok
    exact absurd hok (ne_ok_of_refused hadmitted)
  | ok u => rfl

/-- What serving a request leads to whenever it is answered with `ok` holds of a call that is. -/
theorem ends_of_ok {call : Call} (post : Answer → Kms C T N → List KmsEvent → Prop)
    (hok : (kms.answerTo call).code = .ok)
    (h : (serve call.request).Ends kms fun outcome =>
      (call.request.concluding outcome.answer).code = .ok →
        post (call.request.concluding outcome.answer) outcome.state outcome.journal) :
    post (kms.answerTo call) (kms.next call) (kms.eventsOf call) :=
  dispatch_ends (fun answer after events => answer.code = .ok → post answer after events)
    (admitted_of_ok hok) h hok

/-- A call that is admitted alike and served alike is answered alike. -/
theorem next_alike {kms kms' : Kms C T N} {call : Call} {post : Kms C T N → Kms C T N → Prop}
    (hadmits : kms'.admitted call.word call.request = kms.admitted call.word call.request)
    (hrefused : post kms kms')
    (hserve : kms.admitted call.word call.request = .ok () →
      Action.EndsAlike (serve call.request) (serve call.request) kms kms' post) :
    kms'.answerTo call = kms.answerTo call ∧ post (kms.next call) (kms'.next call) := by
  unfold answerTo Kms.next
  cases hadmitted : kms.admitted call.word call.request with
  | error code =>
    rw [dispatch_of_refused hadmitted, dispatch_of_refused (hadmits.trans hadmitted)]
    exact ⟨rfl, hrefused⟩
  | ok u =>
    obtain ⟨hanswer, hafter⟩ := hserve hadmitted
    rw [dispatch_of_admitted hadmitted, dispatch_of_admitted (hadmits.trans hadmitted), hanswer]
    exact ⟨rfl, hafter⟩

/-- An invariant of single calls holds after every run. -/
theorem after_of_next {P : Kms C T N → Prop}
    (hstep : ∀ (kms : Kms C T N) (call : Call), P kms → P (kms.next call)) (h : P kms)
    (calls : List Call) : P (kms.after calls) := by
  induction calls generalizing kms with
  | nil => exact h
  | cons call calls ih => exact ih (hstep kms call h)

/-- An invariant of every effect holds after every run. -/
theorem after_of_effect {P : Kms C T N → Prop}
    (hstep : ∀ (kms : Kms C T N) {request : Request} {after : Kms C T N}
      {events : List KmsEvent}, kms.Effect request after events → P kms → P after)
    (h : P kms) (calls : List Call) : P (kms.after calls) :=
  after_of_next (fun kms call => hstep kms (kms.next_effect call)) h calls

end Kms

end KeyEnclave
