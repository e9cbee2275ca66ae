import KeyEnclave.Proofs.Kms.Contexts
import KeyEnclave.Proofs.Kms.Latching
import KeyEnclave.Proofs.Provider.Results

/-!
# Asking for the length of a result

A caller may ask for the length of a result before it brings a buffer, or bring one that is too
short. With the software provider such an attempt leaves everything as it is, so the result is the
same however many of them come before it.

## Main definitions

* `Retrieval` — a request for the result of an operation, without its session and its buffer.
* `Answer.leaves` — what an answer leaves in the buffer that was brought.
* `Kms.Retrieves` — what each buffer, or none, gets of a result.

## Main results

* `Kms.retrieves_of_ok` — a result that one buffer gets is what all of them get.
-/

namespace KeyEnclave

open KeyEnclave.Action

/-- A request for the result of an operation, without its session and its buffer. -/
inductive Retrieval
  | digest (data : Placed Bytes)
  | digestFinal
  | encrypt (data : Placed Bytes)
  | decrypt (data : Placed Bytes)
  | sign (data : Placed Bytes)

namespace Retrieval

variable (retrieval : Retrieval)

/-- The request in a session, with a buffer or without. -/
def request (session : SessionHandle) (len : Address) (output : Option Buffer) : Request :=
  match retrieval with
  | digest data => .digest session data output len
  | digestFinal => .digestFinal session output len
  | encrypt data => .encrypt session data output len
  | decrypt data => .decrypt session data output len
  | sign data => .sign session data output len

/-- The state of a session in the operation. -/
def state : SessionState :=
  match retrieval with
  | digest _ | digestFinal => .digesting
  | encrypt _ => .encrypting
  | decrypt _ => .decrypting
  | sign _ => .signing

/-- The step of the software provider that serves the request. -/
def step (operation : Operation) : Option Nat → Delivery :=
  match retrieval with
  | digest data => SoftwareCrypto.digestStep operation data.value
  | digestFinal => SoftwareCrypto.digestStep operation []
  | encrypt data => SoftwareCrypto.encryptStep operation data.value
  | decrypt data => SoftwareCrypto.decryptStep operation data.value
  | sign data => SoftwareCrypto.signStep operation data.value

theorem delivers_step (operation : Operation) : Delivers (retrieval.step operation) := by
  cases retrieval with
  | digest | digestFinal => exact SoftwareCrypto.delivers_digestStep _ _
  | encrypt => exact SoftwareCrypto.delivers_encryptStep _ _
  | decrypt => exact SoftwareCrypto.delivers_decryptStep _ _
  | sign => exact SoftwareCrypto.delivers_signStep _ _

end Retrieval

/-- What an answer leaves in the buffer that was brought. -/
def Answer.leaves (answer : Answer) (contents : Bytes) : Bytes :=
  match answer.outputs with
  | .bytes _ written => contents.overwrite written
  | _ => contents

namespace SoftwareCrypto

variable {R : Type} {crypto : SoftwareCrypto R} {session : SessionHandle}

theorem release_release (crypto : SoftwareCrypto R) (session : SessionHandle) :
    (crypto.release session).release session = crypto.release session := by
  unfold release
  rw [PerSession.set_set]

/-- A last step that succeeds found a context. -/
theorem exists_context_of_oneShot {room : Option Nat} {step : Operation → Delivery}
    (h : (crypto.oneShot session room step).1.code = .ok) :
    ∃ operation, crypto.operations.get? session = some operation := by
  cases hget : crypto.operations.get? session with
  | some operation => exact ⟨operation, rfl⟩
  | none =>
    simp only [oneShot, context, hget] at h
    split at h
    · next code hcode =>
      obtain rfl : code = .ok := h
      split at hcode <;> cases hcode
    · next operation hcontext =>
      split at hcontext <;> cases hcontext

end SoftwareCrypto

namespace Kms

section Steps

variable {C T N : Type} {kms : Kms C T N} {session : SessionHandle} {state : SessionState}
  {record : Session}

variable [CryptoProvider C]

theorem run_operationKey_of_isOpen (hstate : kms.requireState session state = .ok record)
    (hopen : kms.IsOpen record.key) :
    (operationKey session state : Step C T N ObjectHandle).run kms = ⟨.ok record.key, kms, []⟩ := by
  rw [run_operationKey_eq, hstate]
  refine if_neg ?_
  rintro ⟨hkey, hlatch⟩
  cases hopen with
  | inl hnone => exact hkey hnone
  | inr hunlatched => exact Bool.false_ne_true (hunlatched.symm.trans hlatch)

/-- A step goes on with a key that is not latched, or is refused with a code other than `ok`. -/
theorem bind_operationKey_refused {α : Type} {next : ObjectHandle → Step C T N α}
    {post : Outcome (Kms C T N) KmsEvent ReturnCode α → Prop}
    (hrefused : ∀ code after events, code ≠ .ok → post ⟨.error code, after, events⟩)
    (hopen : ∀ record, kms.requireState session state = .ok record → kms.IsOpen record.key →
      (next record.key).Ends kms post) :
    (operationKey session state >>= next).Ends kms post := by
  refine Ends.bind ?_
  cases hstate : kms.requireState session state with
  | error code =>
    have hrun := run_operationKey_eq kms session state
    rw [hstate] at hrun
    refine Ends.of_run hrun (hrefused _ _ _ ?_)
    rintro rfl
    exact requireState_ne_error_ok hstate
  | ok record =>
    by_cases hkey : kms.IsOpen record.key
    · exact Ends.of_run (run_operationKey_of_isOpen hstate hkey) (hopen record hstate hkey)
    · rw [IsOpen, not_or, Bool.not_eq_false] at hkey
      exact Ends.of_run (run_operationKey hstate hkey.1 hkey.2) (hrefused _ _ _ nofun)

end Steps

-- ═══════════════════════════════════════════════════════════════════════════
-- One request
-- ═══════════════════════════════════════════════════════════════════════════

variable {R T N : Type} [RandomSource R] {kms : Kms (SoftwareCrypto R) T N}
  {session : SessionHandle} {retrieval : Retrieval} {operation : Operation}

/-- The key of the operation of a session, if there is one, is not on the token. -/
def HasNoTokenKey (kms : Kms (SoftwareCrypto R) T N) (session : SessionHandle) : Prop :=
  ∀ record, kms.sessions.sessions.get? session = some record →
    (kms.layout.classify record.key).isExternal = false

/-- A session is in an operation that may go on: its key is not latched. -/
structure Holds (kms : Kms (SoftwareCrypto R) T N) (session : SessionHandle) (state : SessionState)
    (operation : Operation) : Prop where
  context : kms.crypto.operations.get? session = some operation
  record : ∃ record, kms.requireState session state = .ok record ∧
    (state ≠ .digesting → kms.IsOpen record.key)

omit [RandomSource R] in
theorem HasNoTokenKey.of_state (h : kms.HasNoTokenKey session) {state : SessionState}
    {record : Session} (hstate : kms.requireState session state = .ok record) :
    ¬(kms.layout.classify record.key).isExternal = true :=
  Bool.eq_false_iff.mp (h record (requireSession_eq_ok.mp (requireState_eq_ok.mp hstate).1).2)

section Delivering

variable {step : Step (SoftwareCrypto R) T N Delivery} {room : Option Nat}
  {serve : Operation → Delivery} {journal : List KmsEvent}

/-- A last step leaves what the end of the operation leaves. -/
theorem run_delivering (hget : kms.crypto.operations.get? session = some operation)
    (hrun : step.run kms = ⟨.ok (kms.crypto.oneShot session room serve).1,
      { kms with crypto := (kms.crypto.oneShot session room serve).2 }, journal⟩) :
    (delivering session room true step).run kms = ⟨.ok (serve operation).answer,
      kms.concluded session (terminates (serve operation).code room.isSome true),
      journal ++ conclusion session (terminates (serve operation).code room.isSome true)⟩ := by
  have hserved : kms.crypto.oneShot session room serve = (serve operation,
      if terminates (serve operation).code room.isSome true then kms.crypto.release session
      else kms.crypto) := by
    simp only [SoftwareCrypto.oneShot, SoftwareCrypto.context_eq_ok hget,
      SoftwareCrypto.outlives_eq]
    cases terminates (serve operation).code room.isSome true <;> rfl
  rw [hserved] at hrun
  simp only [delivering, run_bind, hrun, run_conclude, run_pure, List.append_nil]
  cases terminates (serve operation).code room.isSome true with
  | false => rfl
  | true =>
    -- the provider dropped the context already when it is told that the operation is over
    show (⟨_, { kms with
      sessions := kms.sessions.reset session
      crypto := (kms.crypto.release session).release session }, _⟩ : Outcome ..) = _
    rw [SoftwareCrypto.release_release]
    rfl

/-- A last step that is answered with `ok` finds the context of an operation. -/
theorem delivering_finds
    {post : Outcome (Kms (SoftwareCrypto R) T N) KmsEvent ReturnCode Answer → Prop}
    (hrun : step.run kms = ⟨.ok (kms.crypto.oneShot session room serve).1,
      { kms with crypto := (kms.crypto.oneShot session room serve).2 }, journal⟩)
    (h : ∀ answer after events, (answer.code = .ok →
      ∃ operation, kms.crypto.operations.get? session = some operation) →
      post ⟨.ok answer, after, events⟩) :
    (delivering session room true step).Ends kms post :=
  Ends.bind_run hrun (bind_conclude (Ends.pure
    (h _ _ _ fun hcode => SoftwareCrypto.exists_context_of_oneShot hcode)))

end Delivering

variable [ExternalToken T] [NvmStorage N]

/-- A request for the result of an operation in progress. -/
theorem serve_of_holds (hlocal : kms.HasNoTokenKey session)
    (h : kms.Holds session retrieval.state operation) (len : Address) (output : Option Buffer) :
    (serve (retrieval.request session len output)).Ends kms fun outcome =>
      outcome.answer = .ok (retrieval.step operation (output.map Buffer.room)).answer ∧
        outcome.state = kms.concluded session
          (terminates (retrieval.step operation (output.map Buffer.room)).code
            (output.map Buffer.room).isSome true) := by
  obtain ⟨hcontext, record, hstate, hopen⟩ := h
  cases retrieval with
  | digest data | digestFinal =>
    exact Ends.bind_get (Ends.bind_ok hstate
      (Ends.of_run (run_delivering hcontext rfl) ⟨rfl, rfl⟩))
  | encrypt data | decrypt data =>
    exact Ends.bind_run (run_operationKey_of_isOpen hstate (hopen nofun))
      (Ends.of_run (run_delivering hcontext rfl) ⟨rfl, rfl⟩)
  | sign data =>
    refine Ends.bind_run (run_operationKey_of_isOpen hstate (hopen nofun)) (Ends.bind_get ?_)
    rw [if_neg (hlocal.of_state hstate)]
    exact Ends.of_run (run_delivering hcontext rfl) ⟨rfl, rfl⟩

/-- A request for a result that is answered with `ok` finds an operation in progress. -/
theorem exists_holds_of_serve (hlocal : kms.HasNoTokenKey session) (len : Address)
    (output : Option Buffer) :
    (serve (retrieval.request session len output)).Ends kms fun outcome =>
      ((retrieval.request session len output).concluding outcome.answer).code = .ok →
        ∃ operation, kms.Holds session retrieval.state operation := by
  cases retrieval with
  | digest data | digestFinal =>
    refine Ends.bind_get (Ends.bind_ofExcept (fun code herror hcode => ?_) fun record hstate =>
      delivering_finds rfl fun _ _ _ hfound hcode => ?_)
    · obtain rfl : code = .ok := hcode
      exact absurd herror requireState_ne_error_ok
    · obtain ⟨operation, hcontext⟩ := hfound hcode
      exact ⟨operation, hcontext, record, hstate, fun h => absurd rfl h⟩
  | encrypt data | decrypt data =>
    refine bind_operationKey_refused (fun _ _ _ hne hcode => absurd hcode hne)
      fun record hstate hopen => delivering_finds rfl fun _ _ _ hfound hcode => ?_
    obtain ⟨operation, hcontext⟩ := hfound hcode
    exact ⟨operation, hcontext, record, hstate, fun _ => hopen⟩
  | sign data =>
    refine bind_operationKey_refused (fun _ _ _ hne hcode => absurd hcode hne)
      fun record hstate hopen => Ends.bind_get ?_
    rw [if_neg (hlocal.of_state hstate)]
    refine delivering_finds rfl fun _ _ _ hfound hcode => ?_
    obtain ⟨operation, hcontext⟩ := hfound hcode
    exact ⟨operation, hcontext, record, hstate, fun _ => hopen⟩

omit [RandomSource R] [ExternalToken T] [NvmStorage N] in
/-- Whether a request for a result is refused for its word does not depend on the buffer. -/
theorem admitted_request (word : UInt32) (len : Address) (output other : Option Buffer) :
    kms.admitted word (retrieval.request session len output) =
      kms.admitted word (retrieval.request session len other) := by
  cases retrieval <;> rfl

/-- What becomes of a call for the result of an operation in progress. -/
theorem call_of_holds (hlocal : kms.HasNoTokenKey session)
    (hholds : kms.Holds session retrieval.state operation) {word : UInt32} {len : Address}
    {output : Option Buffer}
    (hadmitted : kms.admitted word (retrieval.request session len output) = .ok ()) :
    kms.answerTo ⟨word, retrieval.request session len output⟩ =
        (retrieval.step operation (output.map Buffer.room)).answer ∧
      kms.next ⟨word, retrieval.request session len output⟩ = kms.concluded session
        (terminates (retrieval.step operation (output.map Buffer.room)).code
          (output.map Buffer.room).isSome true) := by
  refine dispatch_ends (fun answer after _ =>
    answer = (retrieval.step operation (output.map Buffer.room)).answer ∧
      after = kms.concluded session
        (terminates (retrieval.step operation (output.map Buffer.room)).code
          (output.map Buffer.room).isSome true)) hadmitted
    ((serve_of_holds hlocal hholds len output).mono fun outcome h => ?_)
  rw [h.1]
  exact ⟨rfl, h.2⟩

-- ═══════════════════════════════════════════════════════════════════════════
-- All buffers
-- ═══════════════════════════════════════════════════════════════════════════

/-- What each buffer, or none, gets of a result. -/
structure Retrieves (kms : Kms (SoftwareCrypto R) T N) (session : SessionHandle)
    (call : Option Buffer → Call) (result : Bytes) : Prop where
  /-- Without a buffer the length is told. -/
  probe : kms.answerTo (call none) = ⟨.ok, .bytes (some result.length) []⟩
  /-- A buffer that is too short is told the length, and is left as it is. -/
  short : ∀ buffer contents, buffer.room < result.length →
    kms.answerTo (call (some buffer)) = ⟨.bufferTooSmall, .bytes (some result.length) []⟩ ∧
      (kms.answerTo (call (some buffer))).leaves contents = contents
  /-- No such attempt changes anything, and neither do many. -/
  attempts : ∀ outputs : List (Option Buffer),
    (∀ output ∈ outputs, ∀ buffer, output = some buffer → buffer.room < result.length) →
      kms.after (outputs.map call) = kms
  /-- A buffer that is long enough gets the result, and keeps what is behind it. -/
  fits : ∀ buffer contents, result.length ≤ buffer.room → contents.length = buffer.room →
    kms.answerTo (call (some buffer)) = ⟨.ok, .bytes (some result.length) result⟩ ∧
      (kms.answerTo (call (some buffer))).leaves contents =
        result ++ contents.drop result.length
  /-- Then the session is idle, its context is dropped, and nothing else has changed. -/
  ends : ∀ buffer : Buffer, result.length ≤ buffer.room →
    kms.next (call (some buffer)) = { kms with
      sessions := kms.sessions.reset session
      crypto := kms.crypto.release session } ∧
    (∃ record, kms.sessions.sessions.get? session = some record ∧
      (kms.next (call (some buffer))).sessions.sessions.get? session = some record.reset) ∧
    (kms.next (call (some buffer))).crypto.operations.get? session = none

/-- Attempts that change nothing one by one change nothing together. -/
theorem after_of_next_eq {calls : List Call} (h : ∀ call ∈ calls, kms.next call = kms) :
    kms.after calls = kms := by
  induction calls with
  | nil => rfl
  | cons call calls ih =>
    rw [after_cons, h call List.mem_cons_self]
    exact ih fun other hmem => h other (List.mem_cons_of_mem call hmem)

/-- An operation whose step hands out a result hands it out into every buffer. -/
theorem retrieves_of_holds (hlocal : kms.HasNoTokenKey session)
    (hholds : kms.Holds session retrieval.state operation) {word : UInt32} {len : Address}
    {result : Bytes} (hstep : retrieval.step operation = deliver result)
    (hadmitted : ∀ output, kms.admitted word (retrieval.request session len output) = .ok ()) :
    kms.Retrieves session (fun output => ⟨word, retrieval.request session len output⟩) result := by
  have hcall (output : Option Buffer) :
      kms.answerTo ⟨word, retrieval.request session len output⟩ =
          (deliver result (output.map Buffer.room)).answer ∧
        kms.next ⟨word, retrieval.request session len output⟩ = kms.concluded session
          (terminates (deliver result (output.map Buffer.room)).code
            (output.map Buffer.room).isSome true) := by
    rw [← hstep]
    exact call_of_holds hlocal hholds (hadmitted output)
  constructor
  case probe => exact (hcall none).1
  case short =>
    intro buffer contents hroom
    obtain ⟨hanswer, -⟩ := hcall (some buffer)
    rw [Option.map_some, deliver_of_short hroom] at hanswer
    refine ⟨hanswer, ?_⟩
    simp [hanswer, Delivery.answer, Answer.leaves, Bytes.overwrite]
  case attempts =>
    intro outputs hattempts
    refine after_of_next_eq fun call hmem => ?_
    obtain ⟨output, houtput, rfl⟩ := List.mem_map.mp hmem
    rw [(hcall output).2]
    cases output with
    | none => rfl
    | some buffer =>
      rw [Option.map_some, deliver_of_short (hattempts _ houtput buffer rfl)]
      rfl
  case fits =>
    intro buffer contents hroom hlength
    obtain ⟨hanswer, -⟩ := hcall (some buffer)
    rw [Option.map_some, deliver_of_fits hroom] at hanswer
    refine ⟨hanswer, ?_⟩
    rw [hanswer]
    show result.take contents.length ++ contents.drop result.length = _
    rw [List.take_of_length_le (hlength ▸ hroom)]
  case ends =>
    intro buffer hroom
    obtain ⟨-, hnext⟩ := hcall (some buffer)
    rw [Option.map_some, deliver_of_fits hroom] at hnext
    obtain ⟨record, hstate, -⟩ := hholds.record
    have hget := (requireSession_eq_ok.mp (requireState_eq_ok.mp hstate).1).2
    refine ⟨hnext, ⟨record, hget, ?_⟩, ?_⟩
    · rw [hnext]
      show (kms.sessions.reset session).sessions.get? session = _
      rw [SessionTable.get?_reset, if_pos rfl, hget]
      rfl
    · rw [hnext]
      show (kms.crypto.operations.set session none).get? session = none
      rw [PerSession.get?_set_none, if_pos rfl]

/-- A result that one buffer gets is what every buffer gets that is long enough for it. Asking for
its length, without a buffer or with one that is too short, leaves everything as it is, any number
of times. -/
theorem retrieves_of_ok (hlocal : kms.HasNoTokenKey session) (word : UInt32) (len : Address)
    (retrieval : Retrieval) (buffer : Buffer)
    (hok : (kms.answerTo ⟨word, retrieval.request session len (some buffer)⟩).code = .ok) :
    ∃ result : Bytes,
      kms.answerTo ⟨word, retrieval.request session len (some buffer)⟩ =
          ⟨.ok, .bytes (some result.length) result⟩ ∧
        kms.Retrieves session (fun output => ⟨word, retrieval.request session len output⟩)
          result := by
  have hadmitted (output : Option Buffer) :
      kms.admitted word (retrieval.request session len output) = .ok () := by
    rw [admitted_request word len output (some buffer)]
    exact admitted_of_ok hok
  obtain ⟨operation, hholds⟩ := ends_of_ok (fun _ _ _ =>
    ∃ operation, kms.Holds session retrieval.state operation) hok
    (exists_holds_of_serve hlocal len (some buffer))
  rw [(call_of_holds hlocal hholds (hadmitted (some buffer))).1, Option.map_some] at hok ⊢
  obtain ⟨result, hstep⟩ := retrieval.delivers_step operation buffer.room hok
  rw [hstep] at hok ⊢
  have hroom : result.length ≤ buffer.room := by
    by_contra hshort
    rw [deliver_of_short (by omega)] at hok
    cases hok
  rw [deliver_of_fits hroom]
  exact ⟨result, rfl, retrieves_of_holds hlocal hholds hstep hadmitted⟩

/-- A digest in progress, whose length may be asked for. -/
theorem digest_retrieves :
    let kms := (plain .standard (SoftwareCrypto.new (default : XorShift)) NoExternalToken.mk
      (default : SimulatedNvm)).after
        [⟨FunctionId.initialise.word, .initialise⟩,
          ⟨FunctionId.openSession.word, .openSession 0 SessionFlags.serialSession none default⟩,
          ⟨FunctionId.digestInit.word, .digestInit 1 (some ⟨MechanismKind.sha256, default⟩)⟩]
    let call := fun output => Call.mk FunctionId.digest.word
      ((Retrieval.digest ⟨default, [0x61, 0x62, 0x63]⟩).request 1 default output)
    kms.HasNoTokenKey 1 ∧ (kms.answerTo (call (some ⟨default, 32⟩))).code = .ok ∧
      ∃ result : Bytes,
        kms.answerTo (call (some ⟨default, 32⟩)) = ⟨.ok, .bytes (some result.length) result⟩ ∧
          kms.Retrieves 1 call result := by
  intro kms call
  have hlocal : kms.HasNoTokenKey 1 := by
    intro record hget
    have hkey : (kms.sessions.sessions.get? 1).all
        (fun record => !(kms.layout.classify record.key).isExternal) = true := by decide +kernel
    rw [hget] at hkey
    simpa using hkey
  have hok : (kms.answerTo (call (some ⟨default, 32⟩))).code = .ok := by decide +kernel
  exact ⟨hlocal, hok, retrieves_of_ok hlocal _ _ (.digest ⟨default, [0x61, 0x62, 0x63]⟩) _ hok⟩

end Kms

end KeyEnclave
