import KeyEnclave.Proofs.Cipher.Sha256
import KeyEnclave.Proofs.Kms.Frame
import KeyEnclave.Proofs.Kms.Probing

/-!
# Digests of messages in parts

A message may be brought in parts, with calls of other sessions in between. Its digest is that of
the whole message however it was cut, and however often its length was asked for before.

## Main definitions

* `Kms.Digests` — the digest of a session absorbed a message.
* `Kms.Feeds` — calls that bring chunks to the digest of a session, among calls that bring nothing.
* `Kms.HandsOut` — a request for a result gets it, whenever it is answered with `ok`.

## Main results

* `Kms.Feeds.digests` — the digest absorbs all chunks that are brought, in order.
* `Kms.digest_of_chunks` — it is the digest of all chunks together.
-/

namespace KeyEnclave

open KeyEnclave.Action

/-- The data that a request for a result brings along. -/
def Retrieval.part : Retrieval → Bytes
  | .digest data | .encrypt data | .decrypt data | .sign data => data.value
  | .digestFinal => []

/-- A digest hands out the hash of what it absorbed and of the last part. -/
theorem Retrieval.step_digesting {retrieval : Retrieval} (h : retrieval.state = .digesting)
    (message : Bytes) : retrieval.step (.digest (.update .new message)) =
      deliver (Sha256.ofBlocks (message ++ retrieval.part)) := by
  have hhash (last : Bytes) : ((Sha256.new.update message).update last).digest =
      Sha256.ofBlocks (message ++ last) := by
    rw [← Sha256.update_append]
    exact Sha256.hash_eq_ofBlocks _
  cases retrieval with
  | digest data => exact congrArg deliver (hhash data.value)
  | digestFinal => exact congrArg deliver (hhash [])
  | encrypt | decrypt | sign => cases h

/-- Beginning a digest leaves a context that absorbed nothing. -/
theorem SoftwareCrypto.get?_start_digest {R : Type} {crypto : SoftwareCrypto R}
    {session : SessionHandle} {mechanism : Mechanism} (hindex : session.index?.isSome)
    (hok : (crypto.start session (digestContext mechanism)).1 = .ok) :
    (crypto.start session (digestContext mechanism)).2.operations.get? session =
      some (.digest .new) := by
  obtain ⟨i, hi⟩ := Option.isSome_iff_exists.mp hindex
  unfold digestContext at hok ⊢
  split
  · next hkind =>
    rw [if_pos hkind] at hok
    simp only [start, hi, Option.isNone_some, Bool.false_eq_true, if_false] at hok ⊢
    split
    · next hactive => simp only [hactive, reduceCtorEq] at hok
    · exact PerSession.get?_set_self _ _ _ hindex
  · next hkind =>
    rw [if_neg hkind] at hok
    cases hok

namespace Kms

variable {R T N : Type} [RandomSource R] {kms : Kms (SoftwareCrypto R) T N}
  {layout : ObjectLayout} {embedded : List Bytes} {session : SessionHandle} {message : Bytes}

/-- The digest of a session absorbed a message, and may go on. -/
structure Digests (layout : ObjectLayout) (embedded : List Bytes)
    (kms : Kms (SoftwareCrypto R) T N) (session : SessionHandle) (message : Bytes) : Prop where
  sound : kms.IsSound layout embedded
  holds : kms.Holds session .digesting (.digest (.update .new message))

namespace Digests

omit [RandomSource R] in
theorem record (h : kms.Digests layout embedded session message) :
    ∃ record, kms.requireState session .digesting = .ok record := by
  obtain ⟨record, hstate, -⟩ := h.holds.record
  exact ⟨record, hstate⟩

omit [RandomSource R] in
/-- A digest has no key, so none on the token. -/
theorem hasNoTokenKey (h : kms.Digests layout embedded session message) :
    kms.HasNoTokenKey session := by
  intro record hget
  obtain ⟨found, hstate⟩ := h.record
  obtain ⟨hrequired, hdigesting⟩ := requireState_eq_ok.mp hstate
  obtain rfl : record = found :=
    Option.some.inj (hget.symm.trans (requireSession_eq_ok.mp hrequired).2)
  rw [h.sound.layout_eq]
  exact (h.sound.session session record hget).key_local (by rw [hdigesting]; decide)

end Digests

variable [ExternalToken T] [NvmStorage N]

-- ═══════════════════════════════════════════════════════════════════════════
-- One call
-- ═══════════════════════════════════════════════════════════════════════════

/-- A digest that begins absorbed nothing yet. -/
theorem digests_of_digestInit (hvalid : layout.validate = .ok ())
    (hsound : kms.IsSound layout embedded) {word : UInt32} {mechanism : Option PlacedMechanism}
    (hok : (kms.answerTo ⟨word, .digestInit session mechanism⟩).code = .ok) :
    (kms.next ⟨word, .digestInit session mechanism⟩).Digests layout embedded session [] := by
  refine ⟨(kms.next_effect _).isSound hvalid hsound, ?_⟩
  apply ends_of_ok (fun _ after _ => after.Holds session .digesting (.digest .new)) hok
  apply codeOnly_ends
  refine Ends.bind_ofExcept (fun code herror hcode => ?_) fun given _ => Ends.bind_get ?_
  · obtain rfl : code = .ok := hcode
    exact absurd herror requireMechanism_ne_error_ok
  refine Ends.bind_ofExcept (fun code herror hcode => ?_) fun record hsession => ?_
  · obtain rfl : code = .ok := hcode
    exact absurd herror requireSession_ne_error_ok
  refine Ends.bind_ofExcept (fun code herror hcode => ?_) fun _ _ => bind_askProvider ?_
  · obtain rfl : code = .ok := hcode
    exact absurd herror requireIdle_ne_error_ok
  refine Ends.bind_ofExcept (fun code herror hcode => ?_) fun _ hbegun => ?_
  · obtain rfl : code = .ok := hcode
    exact absurd herror toExcept_ne_error_ok
  obtain ⟨hup, hget⟩ := requireSession_eq_ok.mp hsession
  refine bind_updateSessions (SessionTable.update_eq_put _ hget) (Ends.pure fun _ => ⟨?_, ?_⟩)
  · exact SoftwareCrypto.get?_start_digest (PerSession.index?_isSome_of_get? hget)
      (toExcept_eq_ok hbegun)
  · refine ⟨{ record with state := .digesting, key := noKey },
      requireState_eq_ok.mpr ⟨requireSession_eq_ok.mpr ⟨hup, ?_⟩, rfl⟩, fun h => absurd rfl h⟩
    exact (SessionTable.get?_put hget).trans (if_pos rfl)

namespace Digests

/-- A chunk that is brought with an update is absorbed. -/
theorem update (hvalid : layout.validate = .ok ())
    (h : kms.Digests layout embedded session message) {word : UInt32} {data : Placed Bytes}
    (hok : (kms.answerTo ⟨word, .digestUpdate session data⟩).code = .ok) :
    (kms.next ⟨word, .digestUpdate session data⟩).Digests layout embedded session
      (message ++ data.value) := by
  refine ⟨(kms.next_effect _).isSound hvalid h.sound, ?_⟩
  obtain ⟨hcontext, record, hstate, hopen⟩ := h.holds
  have hupdated : kms.crypto.digestUpdate session data.value = (.ok, { kms.crypto with
      operations := kms.crypto.operations.set session
        (some (.digest (Sha256.new.update (message ++ data.value)))) }) := by
    rw [SoftwareCrypto.digestUpdate, SoftwareCrypto.context_eq_ok hcontext, Sha256.update_append]
  apply ends_of_ok (fun _ after _ => after.Holds session .digesting
    (.digest (.update .new (message ++ data.value)))) hok
  refine codeOnly_ends (Ends.bind_get (Ends.bind_ok hstate (bind_askProvider ?_)))
  have hreply : kms.providerReply (.digestUpdate session data.value) = ReturnCode.ok :=
    congrArg Prod.fst hupdated
  rw [hreply]
  refine bind_conclude (Ends.pure fun _ => ⟨?_, record, hstate, hopen⟩)
  have hindex := PerSession.index?_isSome_of_get? hcontext
  show (kms.crypto.digestUpdate session data.value).2.operations.get? session = _
  rw [hupdated, PerSession.get?_set_self _ _ _ hindex]

/-- A call that does not name the session leaves its digest as it is. -/
theorem other (hvalid : layout.validate = .ok ())
    (h : kms.Digests layout embedded session message) {call : Call}
    (hnamed : call.request.session? ≠ some session) (hlast : ¬kms.EndsLibrary call) :
    (kms.next call).Digests layout embedded session message := by
  have hsound := (kms.next_effect call).isSound hvalid h.sound
  obtain ⟨hcontext, record, hstate, -⟩ := h.holds
  obtain ⟨hrequired, hdigesting⟩ := requireState_eq_ok.mp hstate
  obtain ⟨hrecord, hsame⟩ :=
    next_other hvalid h.sound (requireSession_eq_ok.mp hrequired).2 hnamed hlast
  refine ⟨hsound, hsame.trans hcontext, record, requireState_eq_ok.mpr
    ⟨requireSession_eq_ok.mpr ⟨?_, hrecord⟩, hdigesting⟩, fun hne => absurd rfl hne⟩
  -- sessions are open only while the library is up
  by_contra hdown
  rw [hsound.closed (Bool.eq_false_iff.mpr hdown)] at hrecord
  cases hrecord

/-- A request for the digest, with whatever last part, gets the hash of the message with it. -/
theorem retrieves (h : kms.Digests layout embedded session message) {retrieval : Retrieval}
    (hdigest : retrieval.state = .digesting) {word : UInt32} {len : Address}
    (hadmitted : ∀ output, kms.admitted word (retrieval.request session len output) = .ok ()) :
    kms.Retrieves session (fun output => ⟨word, retrieval.request session len output⟩)
      (Sha256.ofBlocks (message ++ retrieval.part)) :=
  retrieves_of_holds h.hasNoTokenKey (hdigest ▸ h.holds)
    (Retrieval.step_digesting hdigest message) hadmitted

/-- Asking for the length of a digest changes nothing, whatever last part is brought along. -/
theorem next_attempt (h : kms.Digests layout embedded session message) {retrieval : Retrieval}
    (hdigest : retrieval.state = .digesting) (word : UInt32) (len : Address)
    {output : Option Buffer}
    (hshort : ∀ buffer, output = some buffer → buffer.room < Sha256.digestLength) :
    kms.next ⟨word, retrieval.request session len output⟩ = kms := by
  cases hadmitted : kms.admitted word (retrieval.request session len output) with
  | error code => rw [next, dispatch_of_refused hadmitted]
  | ok u =>
    have hall (other : Option Buffer) :
        kms.admitted word (retrieval.request session len other) = .ok () := by
      rw [admitted_request word len other output, hadmitted]
    apply (h.retrieves hdigest hall).attempts [output]
    intro brought hmem buffer hbuffer
    obtain rfl := List.mem_singleton.mp hmem
    rw [Sha256.length_ofBlocks]
    exact hshort buffer hbuffer

end Digests

-- ═══════════════════════════════════════════════════════════════════════════
-- Runs
-- ═══════════════════════════════════════════════════════════════════════════

/-- Calls that bring chunks to the digest of a session: every update of the session is answered with
`ok`, and what comes in between asks for the length of the digest, or does not name the session and
leaves the library up. -/
inductive Feeds (session : SessionHandle) :
    Kms (SoftwareCrypto R) T N → List Call → List Bytes → Prop
  | done (kms : Kms (SoftwareCrypto R) T N) : Feeds session kms [] []
  | chunk {kms : Kms (SoftwareCrypto R) T N} {word : UInt32} {data : Placed Bytes}
      {calls : List Call} {chunks : List Bytes}
      (hok : (kms.answerTo ⟨word, .digestUpdate session data⟩).code = .ok)
      (hrest : Feeds session (kms.next ⟨word, .digestUpdate session data⟩) calls chunks) :
      Feeds session kms (⟨word, .digestUpdate session data⟩ :: calls) (data.value :: chunks)
  | attempt {kms : Kms (SoftwareCrypto R) T N} {word : UInt32} {retrieval : Retrieval}
      {len : Address} {output : Option Buffer} {calls : List Call} {chunks : List Bytes}
      (hdigest : retrieval.state = .digesting)
      (hshort : ∀ buffer, output = some buffer → buffer.room < Sha256.digestLength)
      (hrest : Feeds session (kms.next ⟨word, retrieval.request session len output⟩) calls chunks) :
      Feeds session kms (⟨word, retrieval.request session len output⟩ :: calls) chunks
  | other {kms : Kms (SoftwareCrypto R) T N} {call : Call} {calls : List Call}
      {chunks : List Bytes} (hnamed : call.request.session? ≠ some session)
      (hlast : ¬kms.EndsLibrary call) (hrest : Feeds session (kms.next call) calls chunks) :
      Feeds session kms (call :: calls) chunks

/-- A digest absorbs the chunks that are brought to it, in order. -/
theorem Feeds.digests (hvalid : layout.validate = .ok ()) {calls : List Call} {chunks : List Bytes}
    (hfeeds : Feeds session kms calls chunks) (h : kms.Digests layout embedded session message) :
    (kms.after calls).Digests layout embedded session (message ++ chunks.flatten) := by
  induction hfeeds generalizing message with
  | done =>
    rw [List.flatten_nil, List.append_nil]
    exact h
  | chunk hok _ ih =>
    rw [List.flatten_cons, ← List.append_assoc]
    exact ih (h.update hvalid hok)
  | attempt hdigest hshort _ ih =>
    rw [h.next_attempt hdigest _ _ hshort] at ih
    rw [after_cons, h.next_attempt hdigest _ _ hshort]
    exact ih h
  | other hnamed hlast _ ih => exact ih (h.other hvalid hnamed hlast)

/-- A request for a result gets `result` whenever it is answered with `ok`, as it is when it is
accepted and brings a buffer that is long enough. -/
structure HandsOut (kms : Kms (SoftwareCrypto R) T N) (session : SessionHandle)
    (retrieval : Retrieval) (result : Bytes) : Prop where
  of_ok : ∀ (word : UInt32) (len : Address) (buffer : Buffer),
    (kms.answerTo ⟨word, retrieval.request session len (some buffer)⟩).code = .ok →
      kms.answerTo ⟨word, retrieval.request session len (some buffer)⟩ =
        ⟨.ok, .bytes (some result.length) result⟩
  of_accepted : ∀ (word : UInt32) (len : Address) (buffer : Buffer),
    kms.Accepts ⟨word, retrieval.request session len (some buffer)⟩ →
      result.length ≤ buffer.room →
        kms.answerTo ⟨word, retrieval.request session len (some buffer)⟩ =
          ⟨.ok, .bytes (some result.length) result⟩

/-- A result that is retrieved by every buffer that is long enough is handed out. -/
theorem handsOut_of_retrieves {retrieval : Retrieval} {result : Bytes}
    (h : ∀ (word : UInt32) (len : Address),
      (∀ output, kms.admitted word (retrieval.request session len output) = .ok ()) →
        kms.Retrieves session (fun output => ⟨word, retrieval.request session len output⟩) result) :
    kms.HandsOut session retrieval result := by
  have hall {word : UInt32} {len : Address} {buffer : Buffer}
      (hadmitted : kms.admitted word (retrieval.request session len (some buffer)) = .ok ())
      (output : Option Buffer) :
      kms.admitted word (retrieval.request session len output) = .ok () := by
    rw [admitted_request word len output (some buffer), hadmitted]
  constructor
  case of_ok =>
    intro word len buffer hok
    have hretrieves := h word len (hall (admitted_of_ok hok))
    by_cases hroom : result.length ≤ buffer.room
    · exact (hretrieves.fits buffer (List.replicate buffer.room 0) hroom
        List.length_replicate).1
    · rw [(hretrieves.short buffer [] (by omega)).1] at hok
      cases hok
  case of_accepted =>
    intro word len buffer haccepts hroom
    exact ((h word len (hall haccepts.admitted)).fits buffer (List.replicate buffer.room 0) hroom
      List.length_replicate).1

/-- The digest of a message is the same however the message is cut into chunks and whatever comes in
between: at the end, with a last part, or all at once. -/
theorem digest_of_chunks {config : KmsConfig} {crypto : SoftwareCrypto R} {token : T} {nvm : N}
    {start : Kms (SoftwareCrypto R) T N} (hnew : Kms.new config crypto token nvm = .ok start)
    (before : List Call) {word : UInt32} {mechanism : Option PlacedMechanism}
    (hinit : ((start.after before).answerTo ⟨word, .digestInit session mechanism⟩).code = .ok)
    {calls : List Call} {chunks : List Bytes}
    (hfeeds : Feeds session ((start.after before).next ⟨word, .digestInit session mechanism⟩) calls
      chunks) :
    let begun := (start.after before).next ⟨word, .digestInit session mechanism⟩
    (begun.after calls).HandsOut session .digestFinal (Sha256.ofBlocks chunks.flatten) ∧
      (∀ last : Placed Bytes, (begun.after calls).HandsOut session (.digest last)
        (Sha256.ofBlocks (chunks.flatten ++ last.value))) ∧
      ∀ message : Placed Bytes, begun.HandsOut session (.digest message)
        (Sha256.ofBlocks message.value) := by
  intro begun
  have hvalid := (new_eq_ok hnew).1
  have hbegun : begun.Digests config.layout config.embedded session [] :=
    digests_of_digestInit hvalid (isSound_after hnew before) hinit
  have hfed := hfeeds.digests hvalid hbegun
  refine ⟨?_, fun last => ?_, fun message => ?_⟩
  · rw [← List.append_nil chunks.flatten]
    exact handsOut_of_retrieves fun _ _ => hfed.retrieves rfl
  · exact handsOut_of_retrieves fun _ _ => hfed.retrieves rfl
  · exact handsOut_of_retrieves fun _ _ => hbegun.retrieves rfl

/-- The digest of `abc`, brought in three chunks of which one is empty, while another session
computes a digest of its own. -/
theorem digest_of_abc :
    let start := plain .standard (SoftwareCrypto.new (default : XorShift)) NoExternalToken.mk
      (default : SimulatedNvm)
    let before : List Call :=
      [⟨FunctionId.initialise.word, .initialise⟩,
        ⟨FunctionId.openSession.word, .openSession 0 SessionFlags.serialSession none default⟩,
        ⟨FunctionId.openSession.word, .openSession 0 SessionFlags.serialSession none default⟩]
    let init (session : SessionHandle) : Call :=
      ⟨FunctionId.digestInit.word, .digestInit session (some ⟨MechanismKind.sha256, default⟩)⟩
    let update (session : SessionHandle) (data : Bytes) : Call :=
      ⟨FunctionId.digestUpdate.word, .digestUpdate session ⟨default, data⟩⟩
    let calls : List Call :=
      [update 1 [0x61, 0x62], init 2,
        ⟨FunctionId.digest.word, .digest 1 ⟨default, [0x7A]⟩ none default⟩, update 1 [],
        update 2 [0x78], update 1 [0x63],
        ⟨FunctionId.digestFinal.word, .digestFinal 1 (some ⟨default, 31⟩) default⟩]
    let chunks : List Bytes := [[0x61, 0x62], [], [0x63]]
    let begun := (start.after before).next (init 1)
    ((start.after before).answerTo (init 1)).code = .ok ∧ Feeds 1 begun calls chunks ∧
      (begun.after calls).HandsOut 1 .digestFinal (Sha256.ofBlocks [0x61, 0x62, 0x63]) ∧
      (∀ last : Placed Bytes, (begun.after calls).HandsOut 1 (.digest last)
        (Sha256.ofBlocks ([0x61, 0x62, 0x63] ++ last.value))) ∧
      ∀ message : Placed Bytes, begun.HandsOut 1 (.digest message)
        (Sha256.ofBlocks message.value) := by
  intro start before init update calls chunks begun
  have hinit : ((start.after before).answerTo (init 1)).code = .ok := by decide +kernel
  have hfeeds : Feeds 1 begun calls chunks := by
    refine .chunk (by decide +kernel) (.other (by decide) (fun h => nomatch h.1) ?_)
    refine .attempt (show (Retrieval.digest _).state = _ from rfl) nofun ?_
    refine .chunk (by decide +kernel) (.other (by decide) (fun h => nomatch h.1) ?_)
    refine .chunk (by decide +kernel)
      (.attempt (show Retrieval.digestFinal.state = _ from rfl) ?_ (.done _))
    intro buffer hbuffer
    obtain rfl := Option.some.inj hbuffer
    decide
  have hdigests := digest_of_chunks (new_plain (by decide) _ _ _) before hinit hfeeds
  exact ⟨hinit, hfeeds, hdigests⟩

end Kms

end KeyEnclave
