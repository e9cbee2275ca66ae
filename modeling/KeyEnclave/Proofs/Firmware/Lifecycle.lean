import KeyEnclave.Proofs.Firmware.Rules
import KeyEnclave.Proofs.Firmware.StateField
import KeyEnclave.Proofs.Simulation.Flash
import Mathlib.Data.List.Chain

/-!
# The lifecycle of an image over flash

Moving an image to another state writes the words of its state field one after the other, and any of
the writes may fail. Whatever it leaves, the field stands for the old state or the requested one.

## Main definitions

* `FirmwareImages.decoded` — the state that the cells of a slot stand for.
* `FirmwareImages.Overwritten` — what writing the words of a field leaves.
* `FirmwareImages.Moves` — what one change of a state leaves behind.

## Main results

* `FirmwareImages.setState_moves` — one change, on honest flash.
* `FirmwareImages.states_follow_lifecycle` — any sequence of changes.
-/

namespace KeyEnclave

open KeyEnclave.Action

namespace FirmwareImages

variable {F : Type} [HonestFlash F]

/-- The cells of the flash below. -/
def cells (images : FirmwareImages F) : Cells := HonestFlash.cells images.flash

/-- The state that the cells of a slot stand for. -/
def decoded (images : FirmwareImages F) (slot : SlotConfig) : ImageState :=
  ImageState.ofWords (stateWords (images.cells.read (images.layout.stateAddress slot) stateLength))

theorem cells_of_reads {flash last : F} {journal : List FlashExchange}
    (h : FlashAlong (fun op _ => op.IsRead) flash journal last) :
    HonestFlash.cells last = HonestFlash.cells flash := by
  induction h with
  | nil => rfl
  | @cons flash last op journal hop _ ih =>
    cases op with
    | read address len => rw [ih, HonestFlash.cells_of_read]
    | write | erase => cases hop

theorem toList_stateWords_read (cells : Cells) (address : UInt64) :
    (stateWords (cells.read address stateLength)).toList = cells.words address 3 := by
  have hword (position rest : Nat) (h : stateLength = position + (4 + rest)) :
      ((((cells.read address stateLength).drop position).take 4 |> Bytes.asWord?).getD 0) =
        cells.word (address + UInt64.ofNat position) := by
    rw [h, Cells.read_add, List.drop_left' (Cells.length_read ..), Cells.read_add,
      List.take_left' (Cells.length_read ..), Bytes.asWord?, if_pos (Cells.length_read ..)]
    rfl
  have hfirst := hword 0 8 rfl
  have hsecond := hword 4 4 rfl
  have hthird := hword 8 0 rfl
  simp only [stateWords, StateWords.toList, hfirst, hsecond, hthird, Cells.words]
  have hzero : address + UInt64.ofNat 0 = address := UInt64.add_zero address
  have height : address + UInt64.ofNat 8 = address + 4 + 4 := (Cells.add_ofNat_add address 4 4).symm
  rw [hzero, height]
  rfl

/-- Reading, or programming one of the `n` words from `address` on without setting a bit. -/
inductive WordAccess (address : UInt64) (n : Nat) : FlashOp → F → Prop
  | read {source : UInt64} {len : Nat} {flash : F} : WordAccess address n (.read source len) flash
  | write {i : Nat} {word : UInt32} {flash : F} (hi : i < n)
      (hsets : Cells.SetsNone (HonestFlash.cells flash)
        ((HonestFlash.cells flash).program (address + UInt64.ofNat (4 * i)) (Bytes.ofWord word))) :
      WordAccess address n (.write (address + UInt64.ofNat (4 * i)) (Bytes.ofWord word)) flash

theorem WordAccess.next {address : UInt64} {n : Nat} {op : FlashOp} {flash : F}
    (h : WordAccess (address + 4) n op flash) : WordAccess address (n + 1) op flash := by
  cases h with
  | read => exact .read
  | @write i word _ hi hsets =>
    have hplace : address + 4 + UInt64.ofNat (4 * i) = address + UInt64.ofNat (4 * (i + 1)) := by
      rw [Nat.mul_succ, Nat.add_comm]
      exact Cells.add_ofNat_add address 4 (4 * i)
    rw [hplace] at hsets ⊢
    exact .write (Nat.succ_lt_succ hi) hsets

/-- What writing the words of `nexts` over those of `nows` leaves: a front of them was written. -/
structure Overwritten (images : FirmwareImages F) (address : UInt64) (nows nexts : List UInt32)
    (outcome : Outcome (FirmwareImages F) FlashExchange ImageError Unit) : Prop where
  layout_eq : outcome.state.layout = images.layout
  accesses : FlashAlong (WordAccess address nows.length) images.flash outcome.journal
    outcome.state.flash
  setsNone : Cells.SetsNone images.cells outcome.state.cells
  outside : ∀ a, 4 * nows.length ≤ (a - address).toNat → outcome.state.cells a = images.cells a
  words_eq : ∃ k ≤ nows.length,
    outcome.state.cells.words address nows.length = nexts.take k ++ nows.drop k ∧
      (outcome.answer = .ok () → k = nows.length)

section Overwriting

variable {images between : FirmwareImages F} {address : UInt64} {now next : UInt32}
  {nows nexts : List UInt32} {passed : List FlashExchange}
  {rest : Outcome (FirmwareImages F) FlashExchange ImageError Unit}

/-- The first word is in place, and the others are written behind it. -/
theorem Overwritten.cons (h : Overwritten between (address + 4) nows nexts rest)
    (hn : 4 * (nows.length + 1) < UInt64.size) (hlayout : between.layout = images.layout)
    (haccesses : FlashAlong (WordAccess address (nows.length + 1)) images.flash passed
      between.flash)
    (hsets : Cells.SetsNone images.cells between.cells)
    (hword : between.cells.word address = next)
    (houtside : ∀ a, 4 ≤ (a - address).toNat → between.cells a = images.cells a) :
    Overwritten images address (now :: nows) (next :: nexts) (rest.after passed) := by
  have hbehind (a : UInt64) (ha : (a - (address + 4)).toNat < 4 * nows.length) :
      (a - address).toNat = (a - (address + 4)).toNat + 4 := Cells.distance_next (by omega)
  refine ⟨h.layout_eq.trans hlayout, ?_, hsets.trans h.setsNone, fun a ha => ?_, ?_⟩
  · exact haccesses.append (h.accesses.mono fun _ _ => WordAccess.next)
  · rw [List.length_cons] at ha
    refine (h.outside a (Nat.not_lt.mp fun hin => ?_)).trans (houtside a (by omega))
    have hdistance := hbehind a hin
    omega
  · obtain ⟨k, hk, hwords, hdone⟩ := h.words_eq
    refine ⟨k + 1, Nat.succ_le_succ hk, ?_, fun hok => congrArg Nat.succ (hdone hok)⟩
    have hfirst : rest.state.cells.word address = next := by
      rw [← hword]
      refine Cells.word_congr fun a ha => h.outside a (Nat.not_lt.mp fun hin => ?_)
      have hdistance := hbehind a hin
      omega
    show rest.state.cells.word address :: rest.state.cells.words (address + 4) nows.length = _
    rw [hfirst, hwords]
    rfl

/-- A word that was not written keeps its place. -/
theorem Overwritten.failed {e : ImageError} {state : FirmwareImages F}
    (hlayout : state.layout = images.layout) (hcells : state.cells = images.cells)
    (hnow : images.cells.words address nows.length = nows)
    (haccesses : FlashAlong (WordAccess address nows.length) images.flash passed state.flash) :
    Overwritten images address nows nexts ⟨.error e, state, passed⟩ := by
  refine ⟨hlayout, haccesses, ?_, fun a _ => congrFun hcells a, 0, Nat.zero_le _, ?_, ?_⟩
  · show Cells.SetsNone images.cells state.cells
    rw [hcells]
    exact .refl _
  · show state.cells.words address nows.length = nows
    rw [hcells, hnow]
  · intro h
    cases h

theorem WordAccess.first {n : Nat} (hclear : next &&& images.cells.word address = next) :
    WordAccess address (n + 1) (.write address (Bytes.ofWord next)) images.flash := by
  have hsets := Cells.setsNone_program hclear
  have hplace : address + UInt64.ofNat (4 * 0) = address := UInt64.add_zero address
  rw [← hplace] at hsets
  have haccess : WordAccess address (n + 1) _ images.flash := .write (Nat.succ_pos n) hsets
  rwa [hplace] at haccess

/-- A word that was written is in place, and nothing else changed. -/
theorem cells_of_writtenWord (hclear : next &&& images.cells.word address = next)
    (hreply : (Flash.serve (.write address (Bytes.ofWord next)) images.flash).1 = .ok ()) :
    Cells.SetsNone images.cells (images.afterFlash (.write address (Bytes.ofWord next))).cells ∧
      (images.afterFlash (.write address (Bytes.ofWord next))).cells.word address = next ∧
      ∀ a, 4 ≤ (a - address).toNat →
        (images.afterFlash (.write address (Bytes.ofWord next))).cells a = images.cells a := by
  have hsets := Cells.setsNone_program hclear
  have hcells : (images.afterFlash (.write address (Bytes.ofWord next))).cells =
      images.cells.program address (Bytes.ofWord next) :=
    HonestFlash.cells_of_write _ _ _ hreply hsets
  rw [hcells]
  refine ⟨hsets, Cells.word_program_self next, fun a ha => Cells.program_of_le ?_⟩
  rwa [Bytes.length_ofWord]

/-- By induction on the words: each is in place before the next is written. -/
theorem writeChanged_overwritten (hlength : nexts.length = nows.length)
    (hn : 4 * nows.length < UInt64.size) (hnow : images.cells.words address nows.length = nows)
    (hclear : ∀ words ∈ nows.zip nexts, words.2 &&& words.1 = words.2) :
    (writeChanged address nows nexts).Ends images (images.Overwritten address nows nexts) := by
  induction nows generalizing address nexts images with
  | nil =>
    obtain rfl := List.eq_nil_of_length_eq_zero hlength
    exact Ends.pure ⟨rfl, .nil, .refl _, fun _ _ => rfl, 0, Nat.le_refl 0, rfl, fun _ => rfl⟩
  | cons now nows ih =>
    cases nexts with
    | nil => cases hlength
    | cons next nexts =>
      obtain ⟨hfirst, hrest⟩ := List.cons.inj hnow
      have hlengths : nexts.length = nows.length := Nat.succ.inj hlength
      have hclears (words : UInt32 × UInt32) (hmem : words ∈ nows.zip nexts) :
          words.2 &&& words.1 = words.2 := hclear words (List.mem_cons_of_mem _ hmem)
      rw [List.length_cons] at hn
      refine Ends.ite (fun _ => ?_) fun hsame => ?_
      · have hclearFirst : next &&& images.cells.word address = next := by
          rw [hfirst]
          exact hclear (now, next) List.mem_cons_self
        refine Ends.bind (Ends.of_run (writeFlash_run address (Bytes.ofWord next) images) ?_)
        have hstep := FlashAlong.single (WordAccess.first (n := nows.length) hclearFirst)
        generalize hreply : (Flash.serve (.write address (Bytes.ofWord next)) images.flash).1 = reply
          at hstep
        cases reply with
        | error e =>
          exact Overwritten.failed rfl (HonestFlash.cells_of_failedWrite _ _ _ e hreply) hnow hstep
        | ok u =>
          obtain ⟨hsets, hword, houtside⟩ := cells_of_writtenWord hclearFirst hreply
          -- the other words are still as they were
          have hbehind : (images.afterFlash (.write address (Bytes.ofWord next))).cells.words
              (address + 4) nows.length = nows := by
            refine Eq.trans (Cells.words_congr (fun a ha => houtside a ?_) (by omega)) hrest
            rw [Cells.distance_next (by omega)]
            omega
          refine (ih hlengths (by omega) hbehind hclears).mono fun rest h => ?_
          exact h.cons hn rfl hstep hsets hword houtside
      · obtain rfl : now = next := Decidable.of_not_not hsame
        refine (ih hlengths (by omega) hrest hclears).mono fun rest h => ?_
        exact h.cons hn rfl .nil (.refl _) hfirst fun _ _ => rfl

end Overwriting

-- ═══════════════════════════════════════════════════════════════════════════
-- One change
-- ═══════════════════════════════════════════════════════════════════════════

/-- Reading, or clearing bits in a word of the state field of an active slot. -/
def StateAccess (layout : ImageLayout) (number : UInt32) (op : FlashOp) (flash : F) : Prop :=
  op.IsRead ∨ ∃ slot, layout.activeSlot number = .ok slot ∧
    WordAccess (layout.stateAddress slot) 3 op flash

/-- What moving the image in a slot to another state leaves behind. -/
structure Moves (images : FirmwareImages F) (number : UInt32) (requested : ImageState)
    (outcome : Outcome (FirmwareImages F) FlashExchange ImageError Unit) : Prop where
  layout_eq : outcome.state.layout = images.layout
  accesses : FlashAlong (StateAccess images.layout number) images.flash outcome.journal
    outcome.state.flash
  setsNone : Cells.SetsNone images.cells outcome.state.cells
  outside : ∀ a, (∀ slot, images.layout.activeSlot number = .ok slot →
    ¬images.layout.InStateField slot a) → outcome.state.cells a = images.cells a
  /-- The state is the same, or the requested one with an edge to it, whatever failed. -/
  own : ∀ slot, images.layout.slots[number.toNat]? = some slot →
    outcome.state.decoded slot = images.decoded slot ∨
      slot.kind = .active ∧ (images.decoded slot).canBecome requested = true ∧
        outcome.state.decoded slot = requested
  done : outcome.answer = .ok () → ∃ slot, images.layout.activeSlot number = .ok slot ∧
    (images.decoded slot).canBecome requested = true ∧ outcome.state.decoded slot = requested

section Moving

variable {images : FirmwareImages F} {number : UInt32} {requested : ImageState}

theorem decoded_congr {after : FirmwareImages F} {slot : SlotConfig}
    (hlayout : after.layout = images.layout)
    (h : ∀ a, images.layout.InStateField slot a → after.cells a = images.cells a) :
    after.decoded slot = images.decoded slot := by
  rw [decoded, decoded, hlayout, Cells.read_congr h (by decide)]

theorem Reads.cells_eq {α : Type} {outcome : Outcome (FirmwareImages F) FlashExchange ImageError α}
    (h : images.Reads outcome) : outcome.state.cells = images.cells :=
  cells_of_reads h.along

theorem Reads.moves {e : ImageError} {state : FirmwareImages F} {journal : List FlashExchange}
    (h : images.Reads (α := Unit) ⟨.error e, state, journal⟩) :
    images.Moves number requested ⟨.error e, state, journal⟩ := by
  have hcells : state.cells = images.cells := h.cells_eq
  have hsame (slot : SlotConfig) : state.decoded slot = images.decoded slot :=
    decoded_congr h.layout_eq fun a _ => congrFun hcells a
  refine ⟨h.layout_eq, h.along.mono fun _ _ => .inl, ?_, fun a _ => congrFun hcells a,
    fun slot _ => .inl (hsame slot), fun hok => by cases hok⟩
  show Cells.SetsNone images.cells state.cells
  rw [hcells]
  exact .refl _

/-- What two readings agreed on is what the cells of the slot hold. -/
theorem Agreed.words_eq {slot : SlotConfig} {first second : Bytes}
    (h : images.Agreed number requested slot first second) :
    stateWords first = (images.decoded slot).words ∧
      (images.decoded slot).canBecome requested = true := by
  have hread := HonestFlash.read_eq _ _ _ _ h.read_first
  have hdecoded : images.decoded slot = ImageState.ofWords (stateWords first) := by
    rw [hread]
    rfl
  rw [hdecoded]
  refine ⟨(ImageState.words_ofWords fun hinvalid => ?_).symm, h.edge⟩
  have hedge := h.edge
  rw [hinvalid] at hedge
  exact ImageState.not_isFinal_of_canBecome hedge trivial

theorem cells_readTwice (images : FirmwareImages F) (slot : SlotConfig) :
    (images.readTwice slot).cells = images.cells := by
  show HonestFlash.cells (Flash.serve _ (Flash.serve _ images.flash).2).2 = _
  rw [HonestFlash.cells_of_read, HonestFlash.cells_of_read]
  rfl

theorem Overwritten.moves {slot : SlotConfig} {first second : Bytes}
    {rest : Outcome (FirmwareImages F) FlashExchange ImageError Unit}
    (hagreed : images.Agreed number requested slot first second)
    (h : (images.readTwice slot).Overwritten (images.layout.stateAddress slot)
      (stateWords first).toList requested.words.toList rest) :
    images.Moves number requested (rest.after [⟨stateRead images.layout slot, .ok first⟩,
      ⟨stateRead images.layout slot, .ok second⟩]) := by
  obtain ⟨hwords, hedge⟩ := hagreed.words_eq
  obtain ⟨hslot, hkind⟩ := ImageLayout.activeSlot_eq_ok.mp hagreed.active
  have hcells := cells_readTwice images slot
  have hlayout : rest.state.layout = images.layout := h.layout_eq
  -- the field is that of the requested state in front, and that of the old one behind
  obtain ⟨k, hk, hfield, hall⟩ := h.words_eq
  have hmixed : stateWords (rest.state.cells.read (images.layout.stateAddress slot) stateLength) =
      StateWords.mixed k requested.words (images.decoded slot).words := by
    apply StateWords.toList_injective
    rw [StateWords.toList_mixed hk, toList_stateWords_read, ← hwords]
    exact hfield
  have hafter : rest.state.decoded slot = ImageState.ofWords
      (StateWords.mixed k requested.words (images.decoded slot).words) := by
    rw [decoded, hlayout, hmixed]
  have hreads : FlashAlong (StateAccess images.layout number) images.flash
      [⟨stateRead images.layout slot, .ok first⟩, ⟨stateRead images.layout slot, .ok second⟩]
      (images.readTwice slot).flash := by
    rw [← hagreed.read_first, ← hagreed.read_second]
    exact .cons (.inl trivial) (.single (.inl trivial))
  have hwrites : FlashAlong (StateAccess images.layout number) (images.readTwice slot).flash
      rest.journal rest.state.flash :=
    h.accesses.mono fun op flash haccess => .inr ⟨slot, hagreed.active, haccess⟩
  refine ⟨hlayout, hreads.append hwrites, ?_, fun a hout => ?_, fun other hother => ?_,
    fun hok => ?_⟩
  · rw [← hcells]
    exact h.setsNone
  · rw [← hcells]
    exact h.outside a (Nat.not_lt.mp (hout slot hagreed.active))
  · obtain rfl : slot = other := Option.some.inj (hslot.symm.trans hother)
    rcases ImageState.ofWords_mixed hedge k with hold | hnew
    · exact .inl (hafter.trans hold)
    · exact .inr ⟨hkind, hedge, hafter.trans hnew⟩
  · refine ⟨slot, hagreed.active, hedge, hafter.trans ?_⟩
    obtain rfl : k = 3 := hall hok
    exact ImageState.ofWords_words requested

/-- One change of a state over honest flash. -/
theorem setState_moves (images : FirmwareImages F) (number : UInt32) (requested : ImageState) :
    (setState number requested).Ends images (images.Moves number requested) := by
  refine setState_ends (fun e state journal hreads => hreads.moves)
    fun slot first second hagreed hclear => ?_
  have hread := HonestFlash.read_eq _ _ _ _ hagreed.read_first
  have hnow : (images.readTwice slot).cells.words (images.layout.stateAddress slot)
      (stateWords first).toList.length = (stateWords first).toList := by
    rw [cells_readTwice, hread, toList_stateWords_read]
    rfl
  have hbits : ∀ words ∈ (stateWords first).toList.zip requested.words.toList,
      words.2 &&& words.1 = words.2 :=
    fun words hmem => and_eq_left_of_and_not (hclear words hmem)
  have hlength : requested.words.toList.length = (stateWords first).toList.length := rfl
  refine (writeChanged_overwritten hlength ?_ hnow hbits).mono fun rest h => h.moves hagreed
  show 4 * 3 < UInt64.size
  decide

/-- The slots other than the one whose state is changed keep theirs. -/
theorem Moves.others {outcome : Outcome (FirmwareImages F) FlashExchange ImageError Unit}
    (h : images.Moves number requested outcome) (hdisjoint : images.layout.FieldsDisjoint) {i : Nat}
    {slot : SlotConfig} (hslot : images.layout.slots[i]? = some slot) (hne : i ≠ number.toNat) :
    outcome.state.decoded slot = images.decoded slot := by
  refine decoded_congr h.layout_eq fun a hin => h.outside a fun active hactive => ?_
  have hnumber := (ImageLayout.activeSlot_eq_ok.mp hactive).1
  exact hdisjoint.not_inStateField hslot hnumber hne hin

/-- Every slot stays in its state or takes an edge. -/
theorem Moves.follows {outcome : Outcome (FirmwareImages F) FlashExchange ImageError Unit}
    (h : images.Moves number requested outcome) (hdisjoint : images.layout.FieldsDisjoint)
    {slot : SlotConfig} (hslot : slot ∈ images.layout.slots) :
    ImageState.Follows (images.decoded slot) (outcome.state.decoded slot) := by
  obtain ⟨i, hi⟩ := List.mem_iff_getElem?.mp hslot
  by_cases hnumber : i = number.toNat
  · subst hnumber
    rcases h.own slot hi with hsame | ⟨-, hedge, hnew⟩
    · exact .inl hsame
    · rw [hnew]
      exact .inr hedge
  · exact .inl (h.others hdisjoint hi hnumber)

end Moving

-- ═══════════════════════════════════════════════════════════════════════════
-- Runs
-- ═══════════════════════════════════════════════════════════════════════════

end FirmwareImages

/-- A call that moves the image in a slot to another state. -/
structure StateCall where
  number : UInt32
  requested : ImageState

namespace FirmwareImages

/-- What a call leaves behind. -/
def outcomeOf {F : Type} [Flash F] (images : FirmwareImages F) (call : StateCall) :
    Outcome (FirmwareImages F) FlashExchange ImageError Unit :=
  (setState call.number call.requested).run images

variable {F : Type} [HonestFlash F] {images : FirmwareImages F}

/-- The images after a run. -/
def after (images : FirmwareImages F) (calls : List StateCall) : FirmwareImages F :=
  calls.foldl (fun images call => (images.outcomeOf call).state) images

/-- The images before a run and after each of its calls. -/
def history (images : FirmwareImages F) : List StateCall → List (FirmwareImages F)
  | [] => [images]
  | call :: calls => images :: history (images.outcomeOf call).state calls

theorem moves_outcomeOf (images : FirmwareImages F) (call : StateCall) :
    images.Moves call.number call.requested (images.outcomeOf call) :=
  setState_moves images call.number call.requested

theorem layout_after (calls : List StateCall) : (images.after calls).layout = images.layout := by
  induction calls generalizing images with
  | nil => rfl
  | cons call calls ih => exact ih.trans (images.moves_outcomeOf call).layout_eq

theorem head?_history (calls : List StateCall) : (images.history calls).head? = some images := by
  cases calls with
  | nil => rfl
  | cons call calls => rfl

variable {slot : SlotConfig}

theorem isChain_history (hdisjoint : images.layout.FieldsDisjoint)
    (hslot : slot ∈ images.layout.slots) (calls : List StateCall) :
    ((images.history calls).map fun images => images.decoded slot).IsChain ImageState.Follows := by
  induction calls generalizing images with
  | nil => exact .singleton _
  | cons call calls ih =>
    have hmoves := images.moves_outcomeOf call
    rw [history, List.map_cons, List.isChain_cons]
    refine ⟨fun state hstate => ?_, ih (by rwa [hmoves.layout_eq]) (by rwa [hmoves.layout_eq])⟩
    rw [List.head?_map, head?_history] at hstate
    obtain rfl := Option.some.inj hstate
    exact hmoves.follows hdisjoint hslot

/-- A state without an edge to another is never left. -/
theorem decoded_after_of_isFinal (hdisjoint : images.layout.FieldsDisjoint)
    (hslot : slot ∈ images.layout.slots) (hfinal : (images.decoded slot).IsFinal)
    (calls : List StateCall) : (images.after calls).decoded slot = images.decoded slot := by
  induction calls generalizing images with
  | nil => rfl
  | cons call calls ih =>
    have hmoves := images.moves_outcomeOf call
    have hsame : (images.outcomeOf call).state.decoded slot = images.decoded slot := by
      rcases hmoves.follows hdisjoint hslot with hsame | hedge
      · exact hsame
      · exact absurd hfinal (ImageState.not_isFinal_of_canBecome hedge)
    rw [← hsame] at hfinal ⊢
    exact ih (by rwa [hmoves.layout_eq]) (by rwa [hmoves.layout_eq]) hfinal

/-- Every run of changes over honest flash takes each slot along the lifecycle, whatever fails in
it; and on any flash at all nothing is written without two readings that agree. -/
theorem states_follow_lifecycle (images : FirmwareImages F)
    (hdisjoint : images.layout.FieldsDisjoint) (calls : List StateCall) :
    (∀ call, (images.after calls).Moves call.number call.requested
        ((images.after calls).outcomeOf call) ∧
      ∀ (i : Nat) (slot : SlotConfig), i ≠ call.number.toNat →
        images.layout.slots[i]? = some slot →
        ((images.after calls).outcomeOf call).state.decoded slot =
          (images.after calls).decoded slot) ∧
      (∀ slot ∈ images.layout.slots,
        ((images.history calls).map fun images => images.decoded slot).IsChain
          ImageState.Follows ∧
        ((images.decoded slot).IsFinal →
          (images.after calls).decoded slot = images.decoded slot)) ∧
      ∀ (G : Type) [Flash G] (others : FirmwareImages G) (call : StateCall)
        (exchange : FlashExchange), exchange ∈ (others.outcomeOf call).journal →
        ¬exchange.1.IsRead → ∃ slot first second,
          others.Agreed call.number call.requested slot first second ∧
            [⟨stateRead others.layout slot, .ok first⟩,
              ⟨stateRead others.layout slot, .ok second⟩] <+: (others.outcomeOf call).journal := by
  have hlayout : (images.after calls).layout = images.layout := layout_after calls
  refine ⟨fun call => ?_, fun slot hslot => ?_, fun G _ others call exchange hmem hop => ?_⟩
  · have hmoves := (images.after calls).moves_outcomeOf call
    refine ⟨hmoves, fun i slot hne hslot => ?_⟩
    rw [← hlayout] at hdisjoint hslot
    exact hmoves.others hdisjoint hslot hne
  · exact ⟨isChain_history hdisjoint hslot calls,
      fun hfinal => decoded_after_of_isFinal hdisjoint hslot hfinal calls⟩
  · exact setState_agreed hmem hop

/-- An active slot and a slot that receives an update. -/
def pairLayout : ImageLayout where
  slots := [⟨.active, 0x1000⟩, ⟨.download, 0x2000⟩]
  masterSlot := 0
  stateOffset := 0x30
  imageOffset := 0x400

/-- Flash on which the second word of the first state field can not be written; the image in that
slot waits for its validation. -/
def tornFlash : SteadyFlash :=
  ⟨{ cell := fun a => if (a - 0x1038).toNat < 4 then 0 else erasedCell
     faults := { write := [0x1034] } }, rfl⟩

theorem fieldsDisjoint_pairLayout : pairLayout.FieldsDisjoint := by
  refine List.pairwise_pair.mpr fun address hfirst hsecond => ?_
  rw [ImageLayout.inStateField_iff (by decide)] at hfirst hsecond
  have hstop : address.toNat < 0x103C := hfirst.2
  have hstart : 0x2030 ≤ address.toNat := hsecond.1
  omega

/-- A change that fails between two words leaves the requested state, and no later change undoes
it. -/
theorem torn_change_is_rejected :
    ((FirmwareImages.mk tornFlash pairLayout).outcomeOf ⟨0, .invalid⟩).answer = .error .flash ∧
      ∀ calls, (((FirmwareImages.mk tornFlash pairLayout).after [⟨0, .invalid⟩]).after calls).decoded
        ⟨.active, 0x1000⟩ = .invalid := by
  refine ⟨by decide +kernel, fun calls => ?_⟩
  have hinvalid : ((FirmwareImages.mk tornFlash pairLayout).after [⟨0, .invalid⟩]).decoded
      ⟨.active, 0x1000⟩ = .invalid := by decide +kernel
  have hlayout : ((FirmwareImages.mk tornFlash pairLayout).after [⟨0, .invalid⟩]).layout =
      pairLayout := layout_after [⟨0, .invalid⟩]
  have hdisjoint : ((FirmwareImages.mk tornFlash pairLayout).after
      [⟨0, .invalid⟩]).layout.FieldsDisjoint := by
    rw [hlayout]
    exact fieldsDisjoint_pairLayout
  have hrun := states_follow_lifecycle _ hdisjoint calls
  refine ((hrun.2.1 ⟨.active, 0x1000⟩ ?_).2 ?_).trans hinvalid
  · rw [hlayout]
    exact List.mem_cons_self
  · rw [hinvalid]
    trivial

end FirmwareImages

end KeyEnclave
