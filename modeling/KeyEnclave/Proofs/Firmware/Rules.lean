import KeyEnclave.Proofs.Firmware.Cells

/-!
# Rules for firmware images

Rules for what is read from flash, and for a change of a state up to the point where it writes. The
flash may be any at all.

## Main definitions

* `FirmwareImages.Reads` — nothing but reading was done.
* `FirmwareImages.Agreed` — what was read before a state is changed.

## Main results

* `FirmwareImages.setState_agreed` — nothing is written unless two readings agree on a state with
  an edge to the requested one.
-/

namespace KeyEnclave

open KeyEnclave.Action

/-- The operation leaves flash as it is. -/
def FlashOp.IsRead : FlashOp → Prop
  | .read .. => True
  | .write .. | .erase .. => False

def FlashOp.IsErase : FlashOp → Prop
  | .erase .. => True
  | .read .. | .write .. => False

namespace FirmwareImages

variable {F : Type} [Flash F] {images : FirmwareImages F} {number : UInt32} {requested : ImageState}

/-- The images after flash served an operation. -/
def afterFlash (images : FirmwareImages F) (op : FlashOp) : FirmwareImages F :=
  { images with flash := (Flash.serve op images.flash).2 }

/-- One operation on flash, of whose reply nothing is done but to answer with it or fail. -/
theorem askFlash_run {α : Type} (op : FlashOp) (answer : op.Reply → Except ImageError α)
    (images : FirmwareImages F) :
    (askFlash op >>= fun reply => Action.ofExcept (answer reply)).run images =
      ⟨answer (Flash.serve op images.flash).1, images.afterFlash op,
        [⟨op, (Flash.serve op images.flash).1⟩]⟩ := by
  rw [run_bind]
  simp only [askFlash, Action.ask, Action.perform, Action.run]
  cases answer (Flash.serve op images.flash).1 with
  | error e => rfl
  | ok a => rfl

theorem readFlash_run (address : UInt64) (len : Nat) (images : FirmwareImages F) :
    (readFlash address len).run images =
      ⟨flashed (Flash.serve (.read address len) images.flash).1,
        images.afterFlash (.read address len),
        [⟨.read address len, (Flash.serve (.read address len) images.flash).1⟩]⟩ :=
  askFlash_run (.read address len) flashed images

theorem writeFlash_run (address : UInt64) (data : Bytes) (images : FirmwareImages F) :
    (writeFlash address data).run images =
      ⟨flashed (Flash.serve (.write address data) images.flash).1,
        images.afterFlash (.write address data),
        [⟨.write address data, (Flash.serve (.write address data) images.flash).1⟩]⟩ :=
  askFlash_run (.write address data) flashed images

/-- Nothing but reading was done, and the slots are the same. -/
structure Reads {α : Type} (images : FirmwareImages F)
    (outcome : Outcome (FirmwareImages F) FlashExchange ImageError α) : Prop where
  layout_eq : outcome.state.layout = images.layout
  along : FlashAlong (fun op _ => op.IsRead) images.flash outcome.journal outcome.state.flash

theorem Reads.nothing {α : Type} {answer : Except ImageError α} :
    images.Reads ⟨answer, images, []⟩ :=
  ⟨rfl, .nil⟩

theorem Reads.after {α β : Type} {first : Outcome (FirmwareImages F) FlashExchange ImageError α}
    {rest : Outcome (FirmwareImages F) FlashExchange ImageError β} (h : images.Reads first)
    (hrest : first.state.Reads rest) : images.Reads (rest.after first.journal) :=
  ⟨hrest.layout_eq.trans h.layout_eq, h.along.append hrest.along⟩

theorem readFlash_reads (address : UInt64) (len : Nat) :
    (readFlash address len).Ends images images.Reads :=
  Ends.of_run (readFlash_run address len images) ⟨rfl, .single trivial⟩

theorem Reads.bind {α β : Type} {action : Step F α} {next : α → Step F β}
    (h : action.Ends images images.Reads)
    (hnext : ∀ a (images : FirmwareImages F), (next a).Ends images images.Reads) :
    (action >>= next).Ends images images.Reads := by
  refine Ends.bind (h.mono fun outcome houtcome => ?_)
  rcases outcome with ⟨answer, between, journal⟩
  cases answer with
  | error e => exact ⟨houtcome.layout_eq, houtcome.along⟩
  | ok a => exact (hnext a between).mono fun rest hrest => houtcome.after hrest

theorem readStateWords_reads (slot : SlotConfig) :
    (readStateWords slot).Ends images images.Reads :=
  Ends.bind_get (Reads.bind (readFlash_reads _ _) fun _ _ => Ends.pure .nothing)

theorem state_reads (number : UInt32) : (state number).Ends images images.Reads := by
  refine Ends.bind_get (Ends.bind_ofExcept (fun _ _ => .nothing) fun slot _ => ?_)
  exact Reads.bind (readStateWords_reads slot) fun _ _ => Ends.pure .nothing

theorem activeInfo_reads (number : UInt32) : (activeInfo number).Ends images images.Reads := by
  refine Ends.bind_get (Ends.bind_ofExcept (fun _ _ => .nothing) fun slot _ => ?_)
  exact Reads.bind (readFlash_reads _ _) fun _ _ => Ends.pure .nothing

/-- The operation that reads the state field of a slot. -/
abbrev stateRead (layout : ImageLayout) (slot : SlotConfig) : FlashOp :=
  .read (layout.stateAddress slot) stateLength

theorem bind_readStateWords {α : Type} {slot : SlotConfig} {next : StateWords → Step F α}
    {post : Outcome (FirmwareImages F) FlashExchange ImageError α → Prop}
    (hfailed : ∀ e state journal, images.Reads (α := α) ⟨.error e, state, journal⟩ →
      post ⟨.error e, state, journal⟩)
    (hread : ∀ bytes, (Flash.serve (stateRead images.layout slot) images.flash).1 = .ok bytes →
      (next (stateWords bytes)).Ends (images.afterFlash (stateRead images.layout slot)) fun rest =>
        post (rest.after [⟨stateRead images.layout slot, .ok bytes⟩])) :
    (readStateWords slot >>= next).Ends images post := by
  refine Ends.bind (Ends.bind_get (Ends.bind ?_))
  refine Ends.of_run (readFlash_run (images.layout.stateAddress slot) stateLength images) ?_
  generalize hreply : (Flash.serve (stateRead images.layout slot) images.flash).1 = reply
  cases reply with
  | error e =>
    refine hfailed _ _ _ ⟨rfl, ?_⟩
    rw [← hreply]
    exact .single trivial
  | ok bytes => exact hread bytes hreply

/-- The state field of an active slot was read twice, both readings agree, and the lifecycle has an
edge from what they stand for to the requested state. -/
structure Agreed (images : FirmwareImages F) (number : UInt32) (requested : ImageState)
    (slot : SlotConfig) (first second : Bytes) : Prop where
  active : images.layout.activeSlot number = .ok slot
  read_first : (Flash.serve (stateRead images.layout slot) images.flash).1 = .ok first
  read_second : (Flash.serve (stateRead images.layout slot)
    (images.afterFlash (stateRead images.layout slot)).flash).1 = .ok second
  agree : stateWords first = stateWords second
  edge : (ImageState.ofWords (stateWords first)).canBecome requested = true

/-- The images after the state field of a slot was read twice. -/
def readTwice (images : FirmwareImages F) (slot : SlotConfig) : FirmwareImages F :=
  (images.afterFlash (stateRead images.layout slot)).afterFlash (stateRead images.layout slot)

theorem setState_ends {post : Outcome (FirmwareImages F) FlashExchange ImageError Unit → Prop}
    (hstopped : ∀ e state journal, images.Reads (α := Unit) ⟨.error e, state, journal⟩ →
      post ⟨.error e, state, journal⟩)
    (hagreed : ∀ slot first second, images.Agreed number requested slot first second →
      (∀ words ∈ (stateWords first).toList.zip requested.words.toList,
        words.2 &&& ~~~words.1 = 0) →
      (writeChanged (images.layout.stateAddress slot) (stateWords first).toList
        requested.words.toList).Ends (images.readTwice slot) fun rest =>
          post (rest.after [⟨stateRead images.layout slot, .ok first⟩,
            ⟨stateRead images.layout slot, .ok second⟩])) :
    (setState number requested).Ends images post := by
  refine Ends.bind_get (Ends.bind_ofExcept (fun e _ => hstopped e _ _ .nothing) fun slot hslot => ?_)
  refine bind_readStateWords (fun e state journal h => hstopped e state journal h)
    fun first hfirst => ?_
  have hone : images.Reads (α := Unit)
      ⟨.ok (), images.afterFlash (stateRead images.layout slot),
        [⟨stateRead images.layout slot, .ok first⟩]⟩ := by
    rw [← hfirst]
    exact ⟨rfl, .single trivial⟩
  refine bind_readStateWords (fun e state journal h => hstopped e _ _ (hone.after h))
    fun second hsecond => ?_
  have htwo : images.Reads (α := Unit) ⟨.ok (), images.readTwice slot,
      [⟨stateRead images.layout slot, .ok first⟩, ⟨stateRead images.layout slot, .ok second⟩]⟩ := by
    have hagain : (images.afterFlash (stateRead images.layout slot)).Reads (α := Unit)
        ⟨.ok (), images.readTwice slot, [⟨stateRead images.layout slot, .ok second⟩]⟩ := by
      rw [← hsecond]
      exact ⟨rfl, .single trivial⟩
    exact hone.after hagain
  have hrefused (e : ImageError) := hstopped e _ _ ⟨htwo.layout_eq, htwo.along⟩
  refine Ends.failing (fun _ => hrefused _) fun hagree => ?_
  refine Ends.failing (fun _ => hrefused _) fun hedge => ?_
  refine Ends.failing (fun _ => hrefused _) fun hclear => ?_
  have hagreement : images.Agreed number requested slot first second :=
    ⟨hslot, hfirst, hsecond, Decidable.of_not_not hagree, Bool.not_not_eq.mp hedge⟩
  refine hagreed slot first second hagreement fun words hwords => ?_
  simpa using List.any_eq_false.mp (Bool.eq_false_iff.mpr hclear) words hwords

/-- An operation other than reading is asked for only after two readings of the state field of an
active slot agreed on a state with an edge to the requested one. -/
theorem setState_agreed {exchange : FlashExchange}
    (hmem : exchange ∈ ((setState number requested).run images).journal)
    (hop : ¬exchange.1.IsRead) :
    ∃ slot first second, images.Agreed number requested slot first second ∧
      [⟨stateRead images.layout slot, .ok first⟩, ⟨stateRead images.layout slot, .ok second⟩] <+:
        ((setState number requested).run images).journal := by
  revert hmem
  let Told (outcome : Outcome (FirmwareImages F) FlashExchange ImageError Unit) : Prop :=
    exchange ∈ outcome.journal →
      ∃ slot first second, images.Agreed number requested slot first second ∧
        [⟨stateRead images.layout slot, .ok first⟩, ⟨stateRead images.layout slot, .ok second⟩] <+:
          outcome.journal
  show (setState number requested).Ends images Told
  refine setState_ends (fun e state journal hreads hmem => ?_) fun slot first second hagreed _ => ?_
  · exact absurd (hreads.along.op_of_mem hmem) hop
  · intro _
    exact ⟨slot, first, second, hagreed, List.prefix_append ..⟩

end FirmwareImages

end KeyEnclave
