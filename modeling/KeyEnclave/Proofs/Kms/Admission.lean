import KeyEnclave.Proofs.Kms.Latching

/-!
# Function words

A function is latched exactly by the requests that say so, and for good. Before a request is served
its function word is screened: nothing happens to a request that comes with a word of no function,
of a latched one, or of another than its own.

## Main definitions

* `Served.LatchesFunction` — a served call latched a function.
* `Kms.Screens` — what becomes of a call because of its function word.

## Main results

* `FunctionId.withoutOrigin_eq_iff` — which words are the same but for their origins.
* `Kms.screens` — every service screens function words.
* `Kms.isFunctionLatched_after` — the latched functions after a run.
* `Kms.latched_functions_stay_refused` — both, for every run of a service that was configured.
-/

namespace KeyEnclave

namespace Latches

theorem getLsbD_lockFunction {i : Nat} (hi : i < Limits.lockableFunctions) (latches : Latches)
    (id : UInt32) : (latches.lockFunction id).functions.getLsbD i =
      (latches.functions.getLsbD i || decide (id.toNat = i)) := by
  unfold lockFunction
  split
  · simp [hi, eq_comm]
  · next hid =>
    have hne : id.toNat ≠ i := by omega
    simp [hne]

theorem getLsbD_lockFunctions {i : Nat} (hi : i < Limits.lockableFunctions) (ids : List UInt32)
    (latches : Latches) : (ids.foldl lockFunction latches).functions.getLsbD i = true ↔
      latches.functions.getLsbD i = true ∨ ∃ id ∈ ids, id.toNat = i := by
  induction ids generalizing latches with
  | nil => simp
  | cons id ids ih =>
    rw [List.foldl_cons, ih, getLsbD_lockFunction hi]
    simp [or_assoc]

theorem functions_lockKeys (keys : List ObjectHandle) (latches : Latches) :
    (keys.foldl lockKey latches).functions = latches.functions := by
  induction keys generalizing latches with
  | nil => rfl
  | cons key keys ih =>
    rw [List.foldl_cons, ih]
    unfold lockKey
    split <;> rfl

end Latches

namespace FunctionId

/-- Every word from the first to the last is that of a function. -/
theorem exists_word {id : UInt32} (hfirst : firstWord ≤ id) (hend : id < endWord) :
    ∃ function : FunctionId, function.word = id := by
  have hwords : inOrder.map word = (List.range 70).map fun n => UInt32.ofNat (n + 1) := by decide
  have hfirst : 1 ≤ id.toNat := UInt32.le_iff_toNat_le.mp hfirst
  have hend : id.toNat < 71 := UInt32.lt_iff_toNat_lt.mp hend
  have hmem : id ∈ inOrder.map word := by
    rw [hwords, List.mem_map]
    refine ⟨id.toNat - 1, List.mem_range.mpr (by omega), ?_⟩
    rw [Nat.sub_add_cancel hfirst, UInt32.ofNat_toNat]
  obtain ⟨function, -, hword⟩ := List.mem_map.mp hmem
  exact ⟨function, hword⟩

/-- Two words are the same without their origins if they are the same with every bit of an origin
set. -/
theorem withoutOrigin_eq_iff {word other : UInt32} :
    withoutOrigin word = withoutOrigin other ↔ word ||| originMask = other ||| originMask := by
  have hsplit (word : UInt32) (i : Nat) : (word ||| originMask).toBitVec.getLsbD i =
      ((withoutOrigin word).toBitVec.getLsbD i || originMask.toBitVec.getLsbD i) := by
    simp only [withoutOrigin, UInt32.toBitVec_or, UInt32.toBitVec_and, UInt32.toBitVec_not,
      BitVec.getLsbD_or, BitVec.getLsbD_and, BitVec.getLsbD_not]
    cases originMask.toBitVec.getLsbD i with
    | true => simp
    | false =>
      by_cases hi : i < 32
      · simp [hi]
      · simp [hi, BitVec.getLsbD_of_ge _ i (Nat.not_lt.mp hi)]
  have hclear (word : UInt32) : withoutOrigin word = (word ||| originMask) &&& ~~~originMask := by
    refine UInt32.toBitVec_inj.mp (BitVec.eq_of_getLsbD_eq fun i _ => ?_)
    simp only [withoutOrigin, UInt32.toBitVec_or, UInt32.toBitVec_and, UInt32.toBitVec_not,
      BitVec.getLsbD_or, BitVec.getLsbD_and, BitVec.getLsbD_not]
    cases originMask.toBitVec.getLsbD i <;> simp
  constructor
  · intro h
    refine UInt32.toBitVec_inj.mp (BitVec.eq_of_getLsbD_eq fun i _ => ?_)
    rw [hsplit, hsplit, h]
  · intro h
    rw [hclear, hclear, h]

end FunctionId

/-- A call to latch functions was answered with `ok`, and the one numbered `i` was among them. -/
def Served.LatchesFunction (served : Served) (i : Nat) : Prop :=
  ∃ functions, served.call.request = .lockServices functions ∧ served.answer.code = .ok ∧
    ∃ word ∈ functions.value, (FunctionId.withoutOrigin word).toNat = i

namespace Kms

variable {C T N : Type} {kms : Kms C T N} {request : Request} {word : UInt32}

-- ═══════════════════════════════════════════════════════════════════════════
-- Which calls are refused
-- ═══════════════════════════════════════════════════════════════════════════

theorem admitted_of_failed (h : FunctionId.withoutOrigin word < FunctionId.firstWord ∨
      FunctionId.endWord ≤ FunctionId.withoutOrigin word ∨
      kms.latches.isFunctionLocked (FunctionId.withoutOrigin word) = true) :
    kms.admitted word request = .error .functionFailed := by
  unfold admitted
  by_cases houtside : FunctionId.withoutOrigin word < FunctionId.firstWord ∨
      FunctionId.endWord ≤ FunctionId.withoutOrigin word
  · simp only [if_pos houtside]
    rfl
  · simp only [if_neg houtside]
    rw [not_or] at houtside
    obtain ⟨function, hword⟩ := FunctionId.exists_word (UInt32.not_lt.mp houtside.1)
      (UInt32.not_le.mp houtside.2)
    have hlatched := (h.resolve_left houtside.1).resolve_left houtside.2
    rw [← hword] at hlatched ⊢
    simp only [FunctionId.ofWord?_word, hlatched, if_true]
    rfl

theorem admitted_of_mismatched (hfirst : FunctionId.firstWord ≤ FunctionId.withoutOrigin word)
    (hend : FunctionId.withoutOrigin word < FunctionId.endWord)
    (hopen : kms.latches.isFunctionLocked (FunctionId.withoutOrigin word) = false)
    (hother : request.function.word ≠ FunctionId.withoutOrigin word) :
    kms.admitted word request = .error .argumentsBad := by
  have hinside : ¬(FunctionId.withoutOrigin word < FunctionId.firstWord ∨
      FunctionId.endWord ≤ FunctionId.withoutOrigin word) :=
    not_or.mpr ⟨UInt32.not_lt.mpr hfirst, UInt32.not_le.mpr hend⟩
  obtain ⟨function, hword⟩ := FunctionId.exists_word hfirst hend
  have hne : request.function ≠ function := by
    rintro rfl
    exact hother hword
  unfold admitted
  simp only [if_neg hinside]
  rw [← hword] at hopen ⊢
  simp only [FunctionId.ofWord?_word, hopen, hne, ne_eq, not_false_eq_true, if_true,
    Bool.false_eq_true, if_false]
  rfl

variable [CryptoProvider C] [ExternalToken T] [NvmStorage N] {after : Kms C T N}
  {events : List KmsEvent}

/-- What becomes of a call because of its function word, and of the latches of functions. -/
structure Screens (kms : Kms C T N) : Prop where
  /-- A word of no function, or of a latched one, is refused and nothing happens. -/
  failed : ∀ word request, FunctionId.withoutOrigin word < 0x01 ∨
    0x47 ≤ FunctionId.withoutOrigin word ∨
      kms.latches.isFunctionLocked (FunctionId.withoutOrigin word) = true →
    kms.dispatch word request = (⟨.functionFailed, request.untouched⟩, kms, [])
  /-- The word of another function is refused and nothing happens. -/
  mismatched : ∀ word request, 0x01 ≤ FunctionId.withoutOrigin word →
    FunctionId.withoutOrigin word < 0x47 →
    kms.latches.isFunctionLocked (FunctionId.withoutOrigin word) = false →
    request.function.word ≠ FunctionId.withoutOrigin word →
    kms.dispatch word request = (⟨.argumentsBad, request.untouched⟩, kms, [])
  /-- Any other word has the request served. -/
  served : ∀ word request, request.function.word = FunctionId.withoutOrigin word →
    kms.latches.isFunctionLocked (FunctionId.withoutOrigin word) = false →
    kms.dispatch word request =
      (request.concluding ((serve request).run kms).answer, ((serve request).run kms).state,
        ((serve request).run kms).journal)
  /-- The origin in a word plays no part. -/
  origin : ∀ word other request, word ||| 0x00FF0000 = other ||| 0x00FF0000 →
    kms.dispatch word request = kms.dispatch other request
  /-- No call takes the latch of a function back. -/
  keeps : ∀ call i, kms.latches.functions.getLsbD i = true →
    (kms.next call).latches.functions.getLsbD i = true

/-- Only the function that a word is without its origin matters. -/
theorem dispatch_congr {other : UInt32}
    (h : FunctionId.withoutOrigin word = FunctionId.withoutOrigin other) (kms : Kms C T N)
    (request : Request) : kms.dispatch word request = kms.dispatch other request := by
  have hadmitted : kms.admitted word request = kms.admitted other request := by
    unfold admitted
    rw [h]
  unfold dispatch
  rw [hadmitted]

-- ═══════════════════════════════════════════════════════════════════════════
-- Which functions are latched
-- ═══════════════════════════════════════════════════════════════════════════

/-- No other request latches a function, or takes a latch back. -/
theorem Effect.functions_eq (h : kms.Effect request after events)
    (hrequest : ∀ functions, request ≠ .lockServices functions) :
    after.latches.functions = kms.latches.functions := by
  rcases h.latches_cases with hsame | ⟨keys, -, hafter⟩ | ⟨functions, hfunctions, -⟩
  · rw [hsame]
  · rw [hafter]
    exact Latches.functions_lockKeys _ _
  · exact absurd hfunctions (hrequest functions)

theorem dispatch_lockServices (kms : Kms C T N) (word : UInt32)
    (functions : Placed (List UInt32)) :
    (kms.dispatch word (.lockServices functions)).1.code = .ok ∧
        (kms.dispatch word (.lockServices functions)).2.1.latches =
          (functions.value.map FunctionId.withoutOrigin).foldl Latches.lockFunction kms.latches ∨
      (kms.dispatch word (.lockServices functions)).1.code ≠ .ok ∧
        (kms.dispatch word (.lockServices functions)).2.1.latches = kms.latches :=
  dispatch_latching (functions.value = [])
    ((functions.value.map FunctionId.withoutOrigin).foldl Latches.lockFunction) rfl kms word

theorem isFunctionLatched_next {i : Nat} (hi : i < Limits.lockableFunctions) (kms : Kms C T N)
    (call : Call) : (kms.next call).latches.functions.getLsbD i = true ↔
      kms.latches.functions.getLsbD i = true ∨ (kms.served call).LatchesFunction i := by
  by_cases hrequest : ∃ functions, call.request = .lockServices functions
  · obtain ⟨functions, hfunctions⟩ := hrequest
    have hlatches : (kms.served call).LatchesFunction i ↔ (kms.answerTo call).code = .ok ∧
        ∃ word ∈ functions.value, (FunctionId.withoutOrigin word).toNat = i := by
      constructor
      · rintro ⟨functions', hfunctions', hcode, hmem⟩
        obtain rfl : functions' = functions := by simpa [served, hfunctions] using hfunctions'.symm
        exact ⟨hcode, hmem⟩
      · rintro ⟨hcode, hmem⟩
        exact ⟨functions, hfunctions, hcode, hmem⟩
    rw [hlatches]
    unfold next answerTo
    rw [hfunctions]
    rcases dispatch_lockServices kms call.word functions with ⟨hcode, hafter⟩ | ⟨hcode, hafter⟩
    · rw [hafter, Latches.getLsbD_lockFunctions hi]
      simp [hcode]
    · rw [hafter]
      simp [hcode]
  · have hnone : ¬(kms.served call).LatchesFunction i := by
      rintro ⟨functions, hfunctions, -⟩
      exact hrequest ⟨functions, hfunctions⟩
    rw [(kms.next_effect call).functions_eq fun functions h => hrequest ⟨functions, h⟩]
    simp [hnone]

/-- A function is latched after a run if it was before, or if a request of the run latched it. -/
theorem isFunctionLatched_after {i : Nat} (hi : i < Limits.lockableFunctions) (kms : Kms C T N)
    (calls : List Call) : (kms.after calls).latches.functions.getLsbD i = true ↔
      kms.latches.functions.getLsbD i = true ∨
        ∃ served ∈ kms.history calls, served.LatchesFunction i := by
  induction calls generalizing kms with
  | nil => simp [history]
  | cons call calls ih =>
    rw [after_cons, ih, isFunctionLatched_next hi]
    simp [history, or_assoc]

/-- Every service screens function words. -/
theorem screens (kms : Kms C T N) : kms.Screens where
  failed _ _ h := dispatch_of_refused (admitted_of_failed h)
  mismatched _ _ hfirst hend hopen hother :=
    dispatch_of_refused (admitted_of_mismatched hfirst hend hopen hother)
  served word request hword hopen := by
    rw [← hword] at hopen
    have haccepts : kms.Accepts ⟨word, request⟩ := ⟨hword.symm, hopen⟩
    exact dispatch_of_admitted haccepts.admitted
  origin _ _ request h := dispatch_congr (FunctionId.withoutOrigin_eq_iff.mpr h) kms request
  keeps call i h := by
    by_cases hi : i < Limits.lockableFunctions
    · exact (isFunctionLatched_next hi kms call).mpr (.inl h)
    · rw [BitVec.getLsbD_of_ge _ i (Nat.not_lt.mp hi)] at h
      cases h

/-- In every run of a service that was configured, a function is latched exactly when a request that
was answered with `ok` latched it. In any state, a call with a latched or another wrong function word
is refused without a trace. -/
theorem latched_functions_stay_refused {config : KmsConfig} {crypto : C} {token : T} {nvm : N}
    {start : Kms C T N} (hnew : Kms.new config crypto token nvm = .ok start) (calls : List Call) :
    (∀ i < Limits.lockableFunctions, (start.after calls).latches.functions.getLsbD i = true ↔
      ∃ served ∈ start.history calls, served.LatchesFunction i) ∧
    ∀ kms : Kms C T N, kms.Screens := by
  refine ⟨fun i hi => ?_, screens⟩
  have hopen : start.latches.functions.getLsbD i = false := by
    obtain ⟨-, rfl⟩ := new_eq_ok hnew
    exact BitVec.getLsbD_zero
  rw [isFunctionLatched_after hi, hopen]
  simp

/-- A service that latched the function to sign, given with an origin, refuses it from any origin and
goes on to answer other requests. -/
theorem latched_sign_is_refused :
    let start : Kms NoCrypto NoExternalToken NoNvm := plain .standard .mk .mk .mk
    let latched := start.after
      [⟨FunctionId.initialise.word, .initialise⟩,
        ⟨FunctionId.lockServices.tagged .secureWorld,
          .lockServices ⟨default, [FunctionId.sign.tagged .unsecure, 0x1000]⟩⟩]
    let sign : Request := .sign 1 ⟨default, [5, 6]⟩ none default
    latched.latches.functions.getLsbD 0x2B = true ∧
      latched.dispatch (FunctionId.sign.tagged .secureWorld) sign =
        (⟨.functionFailed, sign.untouched⟩, latched, []) ∧
      (latched.answerTo ⟨FunctionId.getInfo.word, .getInfo default⟩).code = .ok := by
  intro start latched sign
  have hvalid : ObjectLayout.standard.validate = .ok () := by decide
  obtain ⟨hlatched, hscreens⟩ :=
    latched_functions_stay_refused (new_plain hvalid NoCrypto.mk NoExternalToken.mk NoNvm.mk)
      [⟨FunctionId.initialise.word, .initialise⟩,
        ⟨FunctionId.lockServices.tagged .secureWorld,
          .lockServices ⟨default, [FunctionId.sign.tagged .unsecure, 0x1000]⟩⟩]
  have hbit : latched.latches.functions.getLsbD 0x2B = true := by decide +kernel
  exact ⟨hbit, (hscreens latched).failed _ _ (.inr (.inr (by decide +kernel))), by decide +kernel⟩

end Kms

end KeyEnclave
