import KeyEnclave.Gate.Call

/-!
# Memory handed to the gate

Addresses are compared here as numbers, without a top of the address space, so what the gate finds
out with additions that fail or saturate is restated byte by byte.

## Main definitions

* `Region.Holds`, `Span.Covers` — the bytes of a region and of memory that is handed over.
* `Span.LiesIn` — all bytes lie in an area and none in the enclave's.
* `Request.Carries` — the memory that a request hands over, buffer by buffer.
* `ServiceArgs.spans`, `ServiceArgs.area` — the memory of any call, and where it has to lie.

## Main results

* `Span.liesIn_of_inCallerRam`, `Span.liesIn_of_inBootloaderRam` — the checks are sound.
* `Request.carries_iff` — the buffers that are checked are those that a request hands over.
-/

namespace KeyEnclave

/-- The byte at an address belongs to the region. -/
def Region.Holds (region : Region) (byte : Nat) : Prop :=
  region.start.toNat ≤ byte ∧ byte < region.start.toNat + region.len.toNat

/-- The byte at an address is handed over. -/
def Span.Covers (span : Span) (byte : Nat) : Prop :=
  span.address.toNat ≤ byte ∧ byte < span.address.toNat + span.len

/-- Every byte lies in `area` and outside of `enclave`. Nothing is asked of an empty span. -/
def Span.LiesIn (span : Span) (area enclave : Region) : Prop :=
  ∀ byte, span.Covers byte → area.Holds byte ∧ ¬enclave.Holds byte

-- ═══════════════════════════════════════════════════════════════════════════
-- Ranges of addresses
-- ═══════════════════════════════════════════════════════════════════════════

namespace Region

variable {region : Region} {address : Address} {len : Nat}

theorem contains_eq_true : region.contains address len = true ↔
    address.toNat + len < addressLimit ∧
      region.start.toNat + region.len.toNat < addressLimit ∧
      region.start.toNat ≤ address.toNat ∧
      address.toNat + len ≤ region.start.toNat + region.len.toNat := by
  simp [contains, and_assoc]

theorem overlaps_eq_true : region.overlaps address len = true ↔
    len ≠ 0 ∧ region.len ≠ 0 ∧
      address.toNat < saturatedEnd region.start region.len.toNat ∧
      region.start.toNat < saturatedEnd address len := by
  simp [overlaps, and_assoc]

/-- Below the top of the address space nothing saturates, so a range that does not overlap a region
has no byte in common with it, wherever the region ends. -/
theorem not_holds_of_not_overlaps (hend : address.toNat + len < addressLimit)
    (h : region.overlaps address len = false) {byte : Nat} (hfirst : address.toNat ≤ byte)
    (hlast : byte < address.toNat + len) : ¬region.Holds byte := by
  rintro ⟨hstart, hstop⟩
  have hregion : region.len ≠ 0 := by
    intro hzero
    rw [hzero] at hstop
    exact absurd hstop (Nat.not_lt.mpr hstart)
  have hoverlaps : region.overlaps address len = true := by
    rw [overlaps_eq_true]
    unfold saturatedEnd
    refine ⟨by omega, hregion, by omega, by omega⟩
  rw [h] at hoverlaps
  cases hoverlaps

end Region

namespace Span

variable {memory : MemoryMap} {span : Span}

theorem liesIn_of_contains {area enclave : Region}
    (hcontains : area.contains span.address span.len = true)
    (hoverlaps : enclave.overlaps span.address span.len = false) : span.LiesIn area enclave := by
  intro byte hcovers
  obtain ⟨hfirst, hlast⟩ := hcovers
  obtain ⟨hend, -, hstart, hstop⟩ := Region.contains_eq_true.mp hcontains
  refine ⟨⟨by omega, by omega⟩, ?_⟩
  exact Region.not_holds_of_not_overlaps hend hoverlaps hfirst hlast

theorem liesIn_of_inCallerRam (h : memory.inCallerRam span.address span.len = true) :
    span.LiesIn memory.ram memory.enclaveRam := by
  simp only [MemoryMap.inCallerRam, Bool.and_eq_true, Bool.not_eq_true'] at h
  exact liesIn_of_contains h.1 h.2

theorem liesIn_of_inBootloaderRam (h : memory.inBootloaderRam span.address span.len = true) :
    span.LiesIn memory.bootloaderRam memory.enclaveRam := by
  simp only [MemoryMap.inBootloaderRam, Bool.and_eq_true, Bool.not_eq_true'] at h
  exact liesIn_of_contains h.1 h.2

theorem liesIn_of_mayForward (h : CallGate.mayForward memory span = true) :
    span.LiesIn memory.ram memory.enclaveRam := by
  simp only [CallGate.mayForward, Bool.or_eq_true, beq_iff_eq] at h
  rcases h with hempty | hram
  · intro byte hcovers
    obtain ⟨hfirst, hlast⟩ := hcovers
    omega
  · exact liesIn_of_inCallerRam hram

end Span

-- ═══════════════════════════════════════════════════════════════════════════
-- The buffers of a request
-- ═══════════════════════════════════════════════════════════════════════════

namespace Request

/-- The mechanism of a request. -/
def mechanism? : Request → Option PlacedMechanism
  | encryptInit _ mechanism _ | decryptInit _ mechanism _ | digestInit _ mechanism
  | signInit _ mechanism _ | verifyInit _ mechanism _ | deriveKey _ mechanism _ _ _
  | generateKeyPair _ mechanism _ _ _ _ => mechanism
  | _ => none

/-- The byte strings of a request that are read. -/
def inputs : Request → List (Placed Bytes)
  | encrypt _ data _ _ | encryptUpdate _ data _ _ | decrypt _ data _ _ | decryptUpdate _ data _ _
  | digest _ data _ _ | digestUpdate _ data | sign _ data _ _ => [data]
  | verify _ data signature => [data, signature]
  | importBlob header blob => [header, blob]
  | _ => []

/-- The templates of a request. -/
def templates : Request → List PlacedTemplate
  | createObject _ template _ | setAttributeValue _ _ template | findObjectsInit _ template
  | deriveKey _ _ _ template _ => [template]
  | generateKeyPair _ _ publicTemplate privateTemplate _ _ => [publicTemplate, privateTemplate]
  | _ => []

/-- The attribute requests of a request. -/
def attributeRequests? : Request → Option PlacedQueries
  | getAttributeValue _ _ values => some values
  | _ => none

/-- The list of identifiers of a request. -/
def identifiers? : Request → Option (Placed (List UInt32))
  | lockKeys keys => some keys
  | lockServices functions => some functions
  | _ => none

/-- The buffers for bytes that a request has filled. -/
def byteBuffers : Request → List Buffer
  | encrypt _ _ output _ | encryptUpdate _ _ output _ | encryptFinal _ output _
  | decrypt _ _ output _ | decryptUpdate _ _ output _ | decryptFinal _ output _
  | digest _ _ output _ | digestFinal _ output _ | sign _ _ output _ => output.toList
  | generateRandom _ output => [output]
  | _ => []

/-- The buffers for words that a request has filled. -/
def wordBuffers : Request → List Buffer
  | getSlotList _ slots _ => slots.toList
  | findObjects _ objects _ => [objects]
  | _ => []

/-- The single values that a request has written. -/
def results : Request → List Span
  | getInfo info => [⟨info, 76⟩]
  | getSlotInfo _ info => [⟨info, 108⟩]
  | getTokenInfo _ info => [⟨info, 124⟩]
  | getMechanismInfo _ _ info | getSessionInfo _ info => [⟨info, 16⟩]
  | openSession _ _ _ handle | createObject _ _ handle | deriveKey _ _ _ _ handle =>
    [wordAt handle]
  | generateKeyPair _ _ _ _ publicKey privateKey => [wordAt publicKey, wordAt privateKey]
  | getSlotList _ _ len | findObjects _ _ len | encrypt _ _ _ len | encryptUpdate _ _ _ len
  | encryptFinal _ _ len | decrypt _ _ _ len | decryptUpdate _ _ _ len | decryptFinal _ _ len
  | digest _ _ _ len | digestFinal _ _ len | sign _ _ _ len => [lengthAt len]
  | _ => []

/-- A request hands over memory. -/
inductive Carries (request : Request) : Span → Prop
  | parameter {mechanism : PlacedMechanism} (h : request.mechanism? = some mechanism) :
      Carries request mechanism.parameter.span
  | input {data : Placed Bytes} (h : data ∈ request.inputs) : Carries request data.span
  | template {placed : PlacedTemplate} (h : placed ∈ request.templates) :
      Carries request ⟨placed.address, 24 * placed.entries.length⟩
  | templateValue {placed : PlacedTemplate} {entry : PlacedAttribute}
      (h : placed ∈ request.templates) (hentry : entry ∈ placed.entries) :
      Carries request entry.value.span
  | attributeRequests {placed : PlacedQueries} (h : request.attributeRequests? = some placed) :
      Carries request ⟨placed.address, 40 * placed.entries.length⟩
  | attributeValue {placed : PlacedQueries} {entry : PlacedQuery} {buffer : Buffer}
      (h : request.attributeRequests? = some placed) (hentry : entry ∈ placed.entries)
      (hbuffer : entry.buffer = some buffer) : Carries request buffer.span
  | identifiers {placed : Placed (List UInt32)} (h : request.identifiers? = some placed) :
      Carries request placed.wordSpan
  | bytes {buffer : Buffer} (h : buffer ∈ request.byteBuffers) : Carries request buffer.span
  | words {buffer : Buffer} (h : buffer ∈ request.wordBuffers) : Carries request buffer.wordSpan
  | result {span : Span} (h : span ∈ request.results) : Carries request span

section Spans

variable {request : Request} {span : Span}

/-- The spans of a request, by what they are the memory of. -/
theorem spans_eq (request : Request) : request.spans =
    (request.mechanism?.toList.map fun mechanism => mechanism.parameter.span) ++
      (request.inputs.map Placed.span ++ (request.templates.flatMap PlacedTemplate.spans ++
        (request.attributeRequests?.toList.flatMap PlacedQueries.spans ++
          (request.identifiers?.toList.map Placed.wordSpan ++
            (request.byteBuffers.map Buffer.span ++
              (request.wordBuffers.map Buffer.wordSpan ++ request.results)))))) := by
  cases request <;> simp [spans, mechanism?, inputs, templates, attributeRequests?, identifiers?,
    byteBuffers, wordBuffers, results, mechanismSpans, outputSpans]

/-- The memory that a request hands over is that of its spans. -/
theorem carries_iff : request.Carries span ↔ span ∈ request.spans := by
  simp only [spans_eq, List.mem_append, List.mem_map, List.mem_flatMap, Option.mem_toList]
  constructor
  · intro h
    cases h with
    | parameter h => exact .inl ⟨_, h, rfl⟩
    | input h => exact .inr (.inl ⟨_, h, rfl⟩)
    | template h => exact .inr (.inr (.inl ⟨_, h, List.mem_cons_self⟩))
    | templateValue h hentry =>
      exact .inr (.inr (.inl ⟨_, h, List.mem_cons_of_mem _ (List.mem_map_of_mem hentry)⟩))
    | attributeRequests h => exact .inr (.inr (.inr (.inl ⟨_, h, List.mem_cons_self⟩)))
    | attributeValue h hentry hbuffer =>
      refine .inr (.inr (.inr (.inl ⟨_, h, List.mem_cons_of_mem _ ?_⟩)))
      exact List.mem_filterMap.mpr ⟨_, hentry, by rw [hbuffer]; rfl⟩
    | identifiers h => exact .inr (.inr (.inr (.inr (.inl ⟨_, h, rfl⟩))))
    | bytes h => exact .inr (.inr (.inr (.inr (.inr (.inl ⟨_, h, rfl⟩)))))
    | words h => exact .inr (.inr (.inr (.inr (.inr (.inr (.inl ⟨_, h, rfl⟩))))))
    | result h => exact .inr (.inr (.inr (.inr (.inr (.inr (.inr h))))))
  · rintro (⟨_, h, rfl⟩ | ⟨_, h, rfl⟩ | ⟨placed, h, hspan⟩ | ⟨placed, h, hspan⟩ | ⟨_, h, rfl⟩ |
      ⟨_, h, rfl⟩ | ⟨_, h, rfl⟩ | h)
    · exact .parameter h
    · exact .input h
    · rcases List.mem_cons.mp hspan with rfl | hvalue
      · exact .template h
      · obtain ⟨entry, hentry, rfl⟩ := List.mem_map.mp hvalue
        exact .templateValue h hentry
    · rcases List.mem_cons.mp hspan with rfl | hvalue
      · exact .attributeRequests h
      · obtain ⟨entry, hentry, hmapped⟩ := List.mem_filterMap.mp hvalue
        obtain ⟨buffer, hbuffer, rfl⟩ := Option.map_eq_some_iff.mp hmapped
        exact .attributeValue h hentry hbuffer
    · exact .identifiers h
    · exact .bytes h
    · exact .words h
    · exact .result h

end Spans

end Request

-- ═══════════════════════════════════════════════════════════════════════════
-- The buffers of a call
-- ═══════════════════════════════════════════════════════════════════════════

namespace ServiceArgs

/-- The memory that a call hands over. -/
def spans : ServiceArgs → List Span
  | imageHeader placed _ | header placed | write _ placed => [placed.span]
  | append input output outputLen =>
    [input.span, output.span, ⟨outputLen, CallGate.lengthLength⟩]
  | finish output outputLen => [output.span, ⟨outputLen, CallGate.lengthLength⟩]
  | imageInfo _ info => [⟨info, CallGate.imageInfoLength⟩]
  | getState _ state => [⟨state, CallGate.imageStateLength⟩]
  | saveIrq state => [state.wordSpan]
  | restoreIrq state => [state.wordSpan]
  | read _ buffer => [buffer.span]
  | kms request => request.spans
  | empty | slot _ | setState .. | erase .. => []

/-- The area that all of it has to lie in. -/
def area : ServiceArgs → MemoryMap → Region
  | imageHeader .. | append .. | finish .. | header _ | getState .. | read .. | write .. =>
    MemoryMap.bootloaderRam
  | empty | imageInfo .. | slot _ | setState .. | saveIrq _ | restoreIrq _ | erase .. | kms _ =>
    MemoryMap.ram

/-- Every byte that a call hands over lies in its area and outside of the enclave's RAM. -/
def Admissible (args : ServiceArgs) (memory : MemoryMap) : Prop :=
  ∀ span ∈ args.spans, span.LiesIn (args.area memory) memory.enclaveRam

variable {args : ServiceArgs} {memory : MemoryMap} {span : Span}

theorem admissible_of_nil (hspans : args.spans = []) : args.Admissible memory := by
  intro other hother
  rw [hspans] at hother
  cases hother

theorem admissible_of_inBootloaderRam (harea : args.area = MemoryMap.bootloaderRam)
    (h : ∀ span ∈ args.spans, memory.inBootloaderRam span.address span.len = true) :
    args.Admissible memory := by
  intro span hspan
  rw [harea]
  exact Span.liesIn_of_inBootloaderRam (h span hspan)

theorem admissible_of_inCallerRam (harea : args.area = MemoryMap.ram) (hspans : args.spans = [span])
    (h : memory.inCallerRam span.address span.len = true) : args.Admissible memory := by
  intro other hother
  rw [hspans, List.mem_singleton] at hother
  rw [hother, harea]
  exact Span.liesIn_of_inCallerRam h

end ServiceArgs

end KeyEnclave
