import KeyEnclave.Proofs.Object.Building

/-!
# Refused attributes

A push that is refused reports that the object is too large, and its attribute is not counted. The
pieces of the attribute that did fit stay in the buffer, though. Behind them nothing can be read any
more, so what such a builder finishes is no object.

## Main definitions

* `ObjectBuilder.afterPushes` — a builder after pushes, of which some may be refused.
* `ObjectBuilder.accepted` — the attributes of the pushes that succeeded.
* `ObjectBuilder.IsUnspoiled` — every push that was refused left the builder as it was.
* `ObjectBuilder.PushEffect` — what one push does.
* `ObjectBuilder.IsSpoiled` — a stub of an attribute stands behind the written ones.

## Main results

* `ObjectBuilder.push_effect` — what one push does to any builder.
* `ObjectBuilder.IsSpoiled.pushed` — no later push mends a spoiled builder.
* `ObjectBuilder.Holds.afterPushes` — after pushes a builder holds what was accepted, or is spoiled.
* `ObjectBuilder.finish_is_object_iff` — when what is finished is an object, and which one.
-/

namespace KeyEnclave

open ObjectFormat

-- ═══════════════════════════════════════════════════════════════════════════
-- Stubs of attributes
-- ═══════════════════════════════════════════════════════════════════════════

namespace ObjectFormat

/-- No attribute can be read where the stub begins, however it goes on within the room. -/
def IsStub (room : Nat) (stub : Bytes) : Prop :=
  ∀ rest, stub.length + rest.length ≤ room → ∀ count,
    skipAttributes (count + 1) (stub ++ rest) = .error .truncated

variable {room count : Nat} {stub body more rest : Bytes} {attributes : List Attribute}
  {kind length : UInt32}

theorem IsStub.append (h : IsStub room stub) (more : Bytes) : IsStub room (stub ++ more) := by
  intro rest hroom count
  rw [List.append_assoc]
  refine h _ ?_ count
  rw [List.length_append] at hroom ⊢
  omega

theorem skipAttributes_of_short (hshort : body.length < 8) :
    skipAttributes (count + 1) body = .error .truncated := by
  cases hword : body.wordAt? 4 with
  | none => rw [skipAttributes, hword]
  | some length =>
    have hlength := Bytes.le_length_of_wordAt? hword
    omega

theorem skipAttributes_of_long (hlong : room < attributeLength length.toNat)
    (hroom : (Bytes.ofWord kind ++ (Bytes.ofWord length ++ rest)).length ≤ room) :
    skipAttributes (count + 1) (Bytes.ofWord kind ++ (Bytes.ofWord length ++ rest)) =
      .error .truncated := by
  have hword : (Bytes.ofWord kind ++ (Bytes.ofWord length ++ rest)).wordAt? 4 = some length := by
    rw [Bytes.wordAt?_ofWord_append _ _ 0, Bytes.wordAt?_ofWord]
  rw [skipAttributes, hword]
  dsimp only
  rw [if_neg (by omega)]

theorem isStub_ofWord (hroom : room < 8) : IsStub room (Bytes.ofWord kind) := by
  intro rest hrest count
  apply skipAttributes_of_short
  rw [List.length_append]
  omega

theorem isStub_of_long (hroom : room < attributeLength length.toNat) (value : Bytes) :
    IsStub room (Bytes.ofWord kind ++ (Bytes.ofWord length ++ value)) := by
  intro rest hrest count
  rw [List.append_assoc, List.append_assoc]
  apply skipAttributes_of_long hroom
  simp only [List.length_append] at hrest ⊢
  omega

/-- Encoded attributes are skipped, whatever is behind them. -/
theorem skipAttributes_encode (hlengths : HaveLengths attributes) (count : Nat) (rest : Bytes) :
    skipAttributes (attributes.length + count) (encode attributes ++ rest) =
      skipAttributes count rest := by
  obtain ⟨entries, rfl, hbytes, -⟩ := exists_entries hlengths
  rw [← hbytes, List.length_map]
  exact skipAttributes_entries entries count rest

/-- Behind encoded attributes a stub leaves no count with which the body could be read. -/
theorem skipAttributes_stub (hlengths : HaveLengths attributes) (hne : stub ≠ [])
    (hstub : IsStub stub.length stub) (hcount : attributes.length ≤ count) :
    skipAttributes count (encode attributes ++ stub) ≠ .ok [] := by
  intro hskip
  obtain ⟨more, rfl⟩ := Nat.exists_eq_add_of_le hcount
  rw [skipAttributes_encode hlengths] at hskip
  cases more with
  | zero => exact hne (Except.ok.inj hskip)
  | succ more =>
    have hrefused := hstub [] (Nat.le_refl _) more
    rw [List.append_nil, hskip] at hrefused
    cases hrefused

end ObjectFormat

namespace ObjectBuilder

variable {capacity : Nat} {builder after : ObjectBuilder capacity} {handle : ObjectHandle}
  {written : List Attribute} {a : Attribute} {stub : Bytes}

-- ═══════════════════════════════════════════════════════════════════════════
-- Runs
-- ═══════════════════════════════════════════════════════════════════════════

/-- The builder after a push, whether it succeeds or not. -/
def pushed (builder : ObjectBuilder capacity) (a : Attribute) : ObjectBuilder capacity :=
  (builder.push a.kind a.value).2

/-- Whether a push succeeds. -/
def accepts (builder : ObjectBuilder capacity) (a : Attribute) : Bool :=
  (builder.push a.kind a.value).1.isOk

/-- The builder after pushes. -/
def afterPushes (builder : ObjectBuilder capacity) (pushes : List Attribute) :
    ObjectBuilder capacity := pushes.foldl pushed builder

/-- The pushes of a run, each with the builder that it finds. -/
def steps (builder : ObjectBuilder capacity) :
    List Attribute → List (ObjectBuilder capacity × Attribute)
  | [] => []
  | a :: pushes => (builder, a) :: (builder.pushed a).steps pushes

/-- The attributes of the pushes that succeed. -/
def accepted (builder : ObjectBuilder capacity) (pushes : List Attribute) : List Attribute :=
  ((builder.steps pushes).filter fun step => step.1.accepts step.2).map Prod.snd

/-- Every push that is refused leaves the builder as it was. -/
def IsUnspoiled (builder : ObjectBuilder capacity) (pushes : List Attribute) : Prop :=
  ∀ step ∈ builder.steps pushes, step.1.accepts step.2 = false → step.1.pushed step.2 = step.1

instance (builder : ObjectBuilder capacity) (pushes : List Attribute) :
    Decidable (builder.IsUnspoiled pushes) :=
  inferInstanceAs (Decidable (∀ step ∈ builder.steps pushes, _ → _))

theorem isUnspoiled_cons {pushes : List Attribute} : builder.IsUnspoiled (a :: pushes) ↔
    (builder.accepts a = false → builder.pushed a = builder) ∧
      (builder.pushed a).IsUnspoiled pushes := List.forall_mem_cons

theorem accepted_cons (builder : ObjectBuilder capacity) (a : Attribute) (pushes : List Attribute) :
    builder.accepted (a :: pushes) =
      (if builder.accepts a then [a] else []) ++ (builder.pushed a).accepted pushes := by
  simp only [accepted, steps, List.filter_cons]
  by_cases hok : builder.accepts a = true
  · rw [if_pos hok, if_pos hok]
    rfl
  · rw [if_neg hok, if_neg hok]
    rfl

-- ═══════════════════════════════════════════════════════════════════════════
-- One push
-- ═══════════════════════════════════════════════════════════════════════════

/-- What a push answers, and the builder that it leaves. -/
inductive PushEffect (builder : ObjectBuilder capacity) (a : Attribute) :
    Except ObjectError Unit → ObjectBuilder capacity → Prop
  /-- There is an attribute of the type. -/
  | known (hmem : a.kind ∈ Template.kinds builder.attributes) :
      PushEffect builder a (.ok ()) builder
  /-- The attribute is written. -/
  | appended (hnew : a.kind ∉ Template.kinds builder.attributes)
      (hvalue : a.value.length < UInt32.size)
      (hfits : builder.buffer.length + (encodeAttribute a).length ≤ capacity) :
      PushEffect builder a (.ok ()) ⟨builder.buffer ++ encodeAttribute a, builder.count + 1⟩
  /-- Nothing is written, as the length is no word, or there is no room for the type. -/
  | refused (hnew : a.kind ∉ Template.kinds builder.attributes)
      (hfull : UInt32.size ≤ a.value.length ∨ capacity < builder.buffer.length + 4) :
      PushEffect builder a (.error .tooLarge) builder
  /-- The attribute is written in part. -/
  | cut (stub : Bytes) (hnew : a.kind ∉ Template.kinds builder.attributes)
      (hvalue : a.value.length < UInt32.size)
      (hover : capacity < builder.buffer.length + (encodeAttribute a).length)
      (hlong : 4 ≤ stub.length)
      (hfits : builder.buffer.length + stub.length ≤ capacity)
      (hstub : IsStub (capacity - builder.buffer.length) stub) :
      PushEffect builder a (.error .tooLarge) ⟨builder.buffer ++ stub, builder.count⟩

/-- What was written of an attribute when one of its pieces did not fit: nothing, or a stub. -/
theorem isStub_of_cut {front rest : List Bytes} {piece : Bytes} {room : Nat}
    (hvalue : a.value.length < UInt32.size) (hpieces : piecesOf a = front ++ piece :: rest)
    (hover : room < front.flatten.length + piece.length) :
    (front = [] ∧ room < 4) ∨ (4 ≤ front.flatten.length ∧ IsStub room front.flatten) := by
  have hlength : (UInt32.ofNat a.value.length).toNat = a.value.length :=
    UInt32.toNat_ofNat_of_lt' hvalue
  have htotal := attributeLength_eq a.value.length
  rw [attributeHeadLength] at htotal
  rcases front with _ | ⟨_, _ | ⟨_, _ | ⟨_, _ | ⟨_, front⟩⟩⟩⟩
  -- the type did not fit
  · simp only [piecesOf, List.nil_append, List.cons.injEq] at hpieces
    obtain ⟨rfl, -⟩ := hpieces
    exact .inl ⟨rfl, by simpa using hover⟩
  -- the length did not fit
  · simp only [piecesOf, List.cons_append, List.nil_append, List.cons.injEq] at hpieces
    obtain ⟨rfl, rfl, -⟩ := hpieces
    simp only [List.flatten_cons, List.flatten_nil, List.append_nil, Bytes.length_ofWord] at hover ⊢
    exact .inr ⟨Nat.le_refl _, isStub_ofWord hover⟩
  -- the value did not fit
  · simp only [piecesOf, List.cons_append, List.nil_append, List.cons.injEq] at hpieces
    obtain ⟨rfl, rfl, rfl, -⟩ := hpieces
    simp only [List.flatten_cons, List.flatten_nil, List.length_append, List.length_nil,
      Bytes.length_ofWord] at hover ⊢
    exact .inr ⟨by omega, isStub_of_long (by rw [hlength]; omega) _⟩
  -- the padding did not fit
  · simp only [piecesOf, List.cons_append, List.nil_append, List.cons.injEq] at hpieces
    obtain ⟨rfl, rfl, rfl, rfl, -⟩ := hpieces
    simp only [List.flatten_cons, List.flatten_nil, List.length_append, List.length_nil,
      List.length_replicate, Bytes.length_ofWord] at hover ⊢
    exact .inr ⟨by omega, isStub_of_long (by rw [hlength]; omega) _⟩
  · have hmany := congrArg List.length hpieces
    simp only [piecesOf, List.length_cons, List.length_append, List.length_nil] at hmany
    omega

theorem push_effect (hfits : builder.buffer.length ≤ capacity) (a : Attribute) :
    builder.PushEffect a (builder.push a.kind a.value).1 (builder.push a.kind a.value).2 := by
  have hany : builder.attributes.any (·.kind == a.kind) = true ↔
      a.kind ∈ Template.kinds builder.attributes := by simp [Template.kinds]
  by_cases hmem : a.kind ∈ Template.kinds builder.attributes
  · rw [push, if_pos (hany.mpr hmem)]
    exact .known hmem
  have hnew : ¬builder.attributes.any (·.kind == a.kind) = true := fun h => hmem (hany.mp h)
  by_cases hvalue : UInt32.size ≤ a.value.length
  · rw [push, if_neg hnew, if_pos hvalue]
    exact .refused hmem (.inl hvalue)
  have hflatten : (piecesOf a).flatten.length = (encodeAttribute a).length :=
    congrArg List.length (flatten_piecesOf a)
  by_cases hroom : builder.buffer.length + (encodeAttribute a).length ≤ capacity
  · have happend : appendPieces capacity builder.buffer (piecesOf a) = _ :=
      appendPieces_of_fits (by rwa [hflatten])
    rw [push_of_appendPieces hnew hvalue happend, flatten_piecesOf]
    exact .appended hmem (Nat.not_le.mp hvalue) hroom
  · obtain ⟨front, piece, rest, hpieces, happend, hwritten, hover⟩ :=
      appendPieces_of_not_fits hfits
        (show capacity < builder.buffer.length + (piecesOf a).flatten.length by
          rw [hflatten]
          omega)
    have hrest : capacity - builder.buffer.length < front.flatten.length + piece.length := by omega
    rw [push_of_appendPieces_error hnew hvalue happend]
    rcases isStub_of_cut (Nat.not_le.mp hvalue) hpieces hrest with ⟨rfl, hfull⟩ | ⟨hlong, hstub⟩
    · rw [List.flatten_nil, List.append_nil]
      exact .refused hmem (.inr (by omega))
    · exact .cut _ hmem (Nat.not_le.mp hvalue) (Nat.not_le.mp hroom) hlong hwritten hstub

/-- The buffer is no longer than it may be, and every attribute that is counted stands in it. -/
structure IsSized (builder : ObjectBuilder capacity) : Prop where
  fits : builder.buffer.length ≤ capacity
  counted : headLength + 8 * builder.count.toNat ≤ builder.buffer.length

theorem PushEffect.isSized {result : Except ObjectError Unit}
    (heffect : builder.PushEffect a result after) (h : builder.IsSized) : after.IsSized := by
  cases heffect with
  | known | refused => exact h
  | appended hnew hvalue hfits =>
    refine ⟨by rwa [List.length_append], ?_⟩
    have hmore := eight_le_attributeLength a.value.length
    have hcounted := h.counted
    have hnext : (builder.count + 1).toNat ≤ builder.count.toNat + 1 := by
      rw [UInt32.toNat_add]
      exact Nat.mod_le _ _
    show headLength + 8 * (builder.count + 1).toNat ≤ (builder.buffer ++ encodeAttribute a).length
    rw [List.length_append, length_encodeAttribute]
    omega
  | cut stub hnew hvalue hover hlong hfits hstub =>
    refine ⟨by rwa [List.length_append], ?_⟩
    rw [List.length_append]
    exact Nat.le_trans h.counted (Nat.le_add_right _ _)

theorem PushEffect.prefix_buffer {result : Except ObjectError Unit}
    (heffect : builder.PushEffect a result after) : builder.buffer <+: after.buffer := by
  cases heffect with
  | known | refused => exact List.prefix_rfl
  | appended | cut => exact List.prefix_append _ _

theorem IsSized.pushed (h : builder.IsSized) (a : Attribute) : (builder.pushed a).IsSized :=
  (push_effect h.fits a).isSized h

theorem IsSized.afterPushes (h : builder.IsSized) (pushes : List Attribute) :
    (builder.afterPushes pushes).IsSized := by
  induction pushes generalizing builder with
  | nil => exact h
  | cons a pushes ih => exact ih (h.pushed a)

/-- A buffer only grows. -/
theorem IsSized.prefix_afterPushes (h : builder.IsSized) (pushes : List Attribute) :
    builder.buffer <+: (builder.afterPushes pushes).buffer := by
  induction pushes generalizing builder with
  | nil => exact List.prefix_rfl
  | cons a pushes ih => exact (push_effect h.fits a).prefix_buffer.trans (ih (h.pushed a))

theorem Holds.isSized (h : builder.Holds handle written) : builder.IsSized := by
  refine ⟨by rw [h.length_buffer]; exact h.fits, ?_⟩
  rw [h.length_buffer, h.count]
  exact Nat.add_le_add_left (length_le_length_encode written) _

/-- A push succeeds exactly if there is an attribute of the type, or room for one more. -/
theorem PushEffect.isOk_iff {result : Except ObjectError Unit}
    (heffect : builder.PushEffect a result after) :
    result.isOk = true ↔ a.kind ∈ Template.kinds builder.attributes ∨
      (a.value.length < UInt32.size ∧
        builder.buffer.length + attributeLength a.value.length ≤ capacity) := by
  rw [← length_encodeAttribute]
  cases heffect with
  | known hmem => exact ⟨fun _ => .inl hmem, fun _ => rfl⟩
  | appended hnew hvalue hfits => exact ⟨fun _ => .inr ⟨hvalue, hfits⟩, fun _ => rfl⟩
  | refused hnew hfull =>
    refine ⟨fun hok => absurd hok (by decide), ?_⟩
    rintro (hmem | ⟨hvalue, hfits⟩)
    · exact absurd hmem hnew
    · have hlonger := eight_le_attributeLength a.value.length
      rw [length_encodeAttribute] at hfits
      omega
  | cut stub hnew hvalue hover hlong hfits hstub =>
    refine ⟨fun hok => absurd hok (by decide), ?_⟩
    rintro (hmem | ⟨-, hroom⟩)
    · exact absurd hmem hnew
    · omega

/-- A push is refused for want of room only. It leaves the attributes and their number as they were,
and the buffer too if there is no room even for the type. -/
theorem PushEffect.of_error {e : ObjectError} (heffect : builder.PushEffect a (.error e) after) :
    e = .tooLarge ∧ after.count = builder.count ∧ builder.buffer <+: after.buffer ∧
      (after = builder ↔
        UInt32.size ≤ a.value.length ∨ capacity < builder.buffer.length + 4) := by
  have hprefix := heffect.prefix_buffer
  cases heffect with
  | refused hnew hfull => exact ⟨rfl, rfl, hprefix, fun _ => hfull, fun _ => rfl⟩
  | cut stub hnew hvalue hover hlong hfits hstub =>
    refine ⟨rfl, rfl, hprefix, fun hsame => ?_, fun hfull => ?_⟩
    · have hbuffer := congrArg (fun b => b.buffer.length) hsame
      simp only [List.length_append] at hbuffer
      omega
    · omega

-- ═══════════════════════════════════════════════════════════════════════════
-- Spoiled builders
-- ═══════════════════════════════════════════════════════════════════════════

/-- A stub stands behind the attributes that were written before it, and whatever was pushed later
is a part of it. -/
structure IsSpoiled (builder : ObjectBuilder capacity) (handle : ObjectHandle)
    (written : List Attribute) (stub : Bytes) : Prop where
  sized : builder.IsSized
  buffer : builder.buffer = openHead handle ++ (encode written ++ stub)
  lengths : HaveLengths written
  ne_nil : stub ≠ []
  stub : IsStub (capacity - headLength - (encode written).length) stub
  count : written.length ≤ builder.count.toNat

theorem IsSpoiled.grow (h : builder.IsSpoiled handle written stub) {more : Bytes} {count : UInt32}
    (hsized : (⟨builder.buffer ++ more, count⟩ : ObjectBuilder capacity).IsSized)
    (hcount : builder.count.toNat ≤ count.toNat) :
    (⟨builder.buffer ++ more, count⟩ : ObjectBuilder capacity).IsSpoiled handle written
      (stub ++ more) where
  sized := hsized
  buffer := by rw [h.buffer, List.append_assoc, List.append_assoc]
  lengths := h.lengths
  ne_nil := List.append_ne_nil_of_left_ne_nil h.ne_nil more
  stub := h.stub.append more
  count := Nat.le_trans h.count hcount

theorem IsSpoiled.of_effect (h : builder.IsSpoiled handle written stub)
    {result : Except ObjectError Unit} (heffect : builder.PushEffect a result after)
    (hwords : after.buffer.length < headLength + UInt32.size) :
    ∃ stub, after.IsSpoiled handle written stub := by
  have hsized := heffect.isSized h.sized
  cases heffect with
  | known | refused => exact ⟨stub, h⟩
  | appended hnew hvalue hfits =>
    refine ⟨_, h.grow hsized ?_⟩
    have hcounted := h.sized.counted
    have hlonger := eight_le_attributeLength a.value.length
    simp only [List.length_append, length_encodeAttribute] at hwords
    have hsmall : builder.count.toNat + 1 < UInt32.size := by omega
    have hnext : (builder.count + 1).toNat = builder.count.toNat + 1 := by
      rw [UInt32.toNat_add]
      exact Nat.mod_eq_of_lt hsmall
    rw [hnext]
    exact Nat.le_succ _
  | cut more hnew hvalue hover hlong hfits hstub => exact ⟨_, h.grow hsized (Nat.le_refl _)⟩

/-- No later push mends a spoiled builder, not even one that succeeds. -/
theorem IsSpoiled.pushed (h : builder.IsSpoiled handle written stub)
    (hwords : (builder.pushed a).buffer.length < headLength + UInt32.size) :
    ∃ stub, (builder.pushed a).IsSpoiled handle written stub :=
  h.of_effect (push_effect h.sized.fits a) hwords

theorem IsSpoiled.afterPushes (h : builder.IsSpoiled handle written stub) (pushes : List Attribute)
    (hwords : (builder.afterPushes pushes).buffer.length < headLength + UInt32.size) :
    ∃ stub, (builder.afterPushes pushes).IsSpoiled handle written stub := by
  induction pushes generalizing builder stub with
  | nil => exact ⟨stub, h⟩
  | cons a pushes ih =>
    have hgrows := ((h.sized.pushed a).prefix_afterPushes pushes).length_le
    obtain ⟨stub, hspoiled⟩ := h.pushed (Nat.lt_of_le_of_lt hgrows hwords)
    exact ih hspoiled hwords

-- ═══════════════════════════════════════════════════════════════════════════
-- Finished objects
-- ═══════════════════════════════════════════════════════════════════════════

/-- What is finished is read as an object if the size of its body is a word, and the body is as many
attributes as were counted. -/
theorem parse_finish_eq_ok {body : Bytes} {view : ObjectView}
    (hbuffer : builder.buffer = openHead handle ++ body) :
    ObjectView.parse builder.finish = .ok view ↔
      body.length < UInt32.size ∧ view = ⟨handle, builder.count, body⟩ ∧
        skipAttributes builder.count.toNat body = .ok [] := by
  let words : List UInt32 :=
    [version, configuration, UInt32.ofNat body.length, builder.count, handle]
  have hhead : (words.flatMap Bytes.ofWord).length = headLength := by simp [words, headLength]
  have hbytes : builder.finish = words.flatMap Bytes.ofWord ++ body := finish_eq hbuffer
  have hlength : builder.finish.length = headLength + body.length := by
    rw [hbytes, List.length_append, hhead]
  have hbody : (builder.finish.take builder.finish.length).drop headLength = body := by
    rw [List.take_length, hbytes, ← hhead, List.drop_left]
  have hword {i : Nat} (hi : i < 5) : builder.finish.wordAt? (4 * i) = some words[i] := by
    rw [hbytes]
    exact Bytes.wordAt?_words hi body
  rw [ObjectView.parse_eq_ok, ObjectView.parseFront_eq_ok]
  constructor
  · rintro ⟨-, -, ⟨size, hsize, hstop⟩, hcount, hhandle, -, hview, hattributes⟩
    have hwhole : body.length = size.toNat := by omega
    obtain ⟨found, count, rest⟩ := view
    obtain rfl : rest = body := hview.trans hbody
    obtain rfl : builder.count = count :=
      Option.some.inj ((hword (by decide : 3 < 5)).symm.trans hcount)
    obtain rfl : handle = found :=
      Option.some.inj ((hword (by decide : 4 < 5)).symm.trans hhandle)
    exact ⟨hwhole ▸ size.toNat_lt, rfl, hattributes⟩
  · rintro ⟨hsize, rfl, hattributes⟩
    exact {
      version := hword (by decide : 0 < 5)
      configuration := hword (by decide : 1 < 5)
      size := by
        refine ⟨_, hword (by decide : 2 < 5), ?_⟩
        rw [hlength]
        exact congrArg _ (UInt32.toNat_ofNat_of_lt' hsize).symm
      count := hword (by decide : 3 < 5)
      handle := hword (by decide : 4 < 5)
      length_le := Nat.le_refl _
      body := hbody.symm
      attributes := hattributes }

/-- What a spoiled builder finishes is no object. -/
theorem IsSpoiled.not_object (h : builder.IsSpoiled handle written stub) (view : ObjectView) :
    ObjectView.parse builder.finish ≠ .ok view := by
  intro hparse
  obtain ⟨-, -, hskip⟩ := (parse_finish_eq_ok h.buffer).mp hparse
  have hfits := h.sized.fits
  rw [h.buffer, List.length_append, List.length_append, length_openHead] at hfits
  have hstub : IsStub stub.length stub := fun rest hrest => h.stub rest (by omega)
  exact skipAttributes_stub h.lengths h.ne_nil hstub h.count hskip

/-- A push to a builder that holds its attributes leaves it holding what was accepted, or it is
refused and spoils the builder. -/
theorem Holds.of_effect (h : builder.Holds handle written) {result : Except ObjectError Unit}
    (heffect : builder.PushEffect a result after)
    (hwords : after.buffer.length < headLength + UInt32.size) :
    ((result.isOk = false → after = builder) ∧
        after.Holds handle (Template.merge written (if result.isOk then [a] else []))) ∨
      (¬(result.isOk = false → after = builder) ∧ ∃ stub, after.IsSpoiled handle written stub) := by
  have hsized := heffect.isSized h.isSized
  cases heffect with
  | known hmem =>
    rw [h.attributes_eq] at hmem
    refine .inl ⟨fun _ => rfl, ?_⟩
    show builder.Holds handle (Template.merge written [a])
    rw [Template.merge_cons, if_pos hmem]
    exact h
  | appended hnew hvalue hfits =>
    rw [h.attributes_eq] at hnew
    have hlength : (builder.buffer ++ encodeAttribute a).length =
        headLength + (encode (written ++ [a])).length := by
      rw [h.buffer, encode_concat, List.append_assoc, List.length_append, length_openHead]
    have hroom := hsized.fits
    rw [hlength] at hwords hroom
    refine .inl ⟨fun hrefused => absurd hrefused (by decide), ?_⟩
    show ObjectBuilder.Holds _ handle (Template.merge written [a])
    rw [Template.merge_cons, if_neg hnew]
    exact h.append (by omega) hroom
  | refused hnew hfull => exact .inl ⟨fun _ => rfl, h⟩
  | cut stub hnew hvalue hover hlong hfits hstub =>
    refine .inr ⟨fun hsame => ?_, stub, hsized, ?_, h.lengths, ?_, ?_, Nat.le_of_eq h.count.symm⟩
    · have hbuffer := congrArg (fun b => b.buffer.length) (hsame rfl)
      simp only [List.length_append] at hbuffer
      omega
    · rw [h.buffer, List.append_assoc]
    · exact List.ne_nil_of_length_pos (by omega)
    · rwa [h.length_buffer, ← Nat.sub_sub] at hstub

/-- After pushes of which none spoiled it, a builder holds the first of each type of the attributes
that were accepted. -/
theorem Holds.afterPushes (h : builder.Holds handle written) (pushes : List Attribute)
    (hwords : (builder.afterPushes pushes).buffer.length < headLength + UInt32.size) :
    (builder.IsUnspoiled pushes ∧ (builder.afterPushes pushes).Holds handle
        (Template.merge written (builder.accepted pushes))) ∨
      (¬builder.IsUnspoiled pushes ∧
        ∃ before stub, (builder.afterPushes pushes).IsSpoiled handle before stub) := by
  induction pushes generalizing builder written with
  | nil => exact .inl ⟨fun _ hmem => absurd hmem List.not_mem_nil, h⟩
  | cons a pushes ih =>
    have hgrows := ((h.isSized.pushed a).prefix_afterPushes pushes).length_le
    rw [isUnspoiled_cons, accepted_cons, Template.merge_append]
    rcases h.of_effect (push_effect h.isSized.fits a) (Nat.lt_of_le_of_lt hgrows hwords) with
      ⟨hkept, hafter⟩ | ⟨hspoils, stub, hspoiled⟩
    · rcases ih hafter hwords with ⟨hrest, hfinal⟩ | ⟨hrest, hfinal⟩
      · exact .inl ⟨⟨hkept, hrest⟩, hfinal⟩
      · exact .inr ⟨fun hboth => hrest hboth.2, hfinal⟩
    · obtain ⟨stub, hfinal⟩ := hspoiled.afterPushes pushes hwords
      exact .inr ⟨fun hboth => hspoils hboth.1, written, stub, hfinal⟩

/-- After any pushes to a builder a push succeeds exactly if its type is there or its attribute has
room. It is refused for want of room only, and then it leaves the builder as it was exactly if its
length is no word or not even its type has room. What is finished is an object exactly if every
refused push left the builder as it was, and the size of the body is a word; it then has the first
of each type of the attributes whose pushes succeeded. -/
theorem finish_is_object_iff (handle : ObjectHandle) (hcapacity : headLength ≤ capacity) :
    ∃ start : ObjectBuilder capacity, new capacity handle = .ok start ∧ ∀ pushes,
      let final := start.afterPushes pushes
      (∀ a, final.accepts a = true ↔ a.kind ∈ Template.kinds final.attributes ∨
        (a.value.length < UInt32.size ∧
          final.buffer.length + attributeLength a.value.length ≤ capacity)) ∧
      (∀ a e, (final.push a.kind a.value).1 = .error e →
        e = .tooLarge ∧ (final.pushed a).count = final.count ∧
          final.buffer <+: (final.pushed a).buffer ∧
          (final.pushed a = final ↔
            UInt32.size ≤ a.value.length ∨ capacity < final.buffer.length + 4)) ∧
      ((∃ view, ObjectView.parse final.finish = .ok view) ↔
        start.IsUnspoiled pushes ∧ final.buffer.length < headLength + UInt32.size) ∧
      ∀ view, ObjectView.parse final.finish = .ok view →
        view.handle = handle ∧ view.attributes = Template.firsts (start.accepted pushes) := by
  obtain ⟨start, hnew, hholds⟩ := new_eq handle hcapacity
  refine ⟨start, hnew, fun pushes => ?_⟩
  intro final
  have hfits : final.buffer.length ≤ capacity := (hholds.isSized.afterPushes pushes).fits
  have hobject (hkept : start.IsUnspoiled pushes)
      (hwords : final.buffer.length < headLength + UInt32.size) :
      ∃ view, ObjectView.parse final.finish = .ok view ∧ view.handle = handle ∧
        view.attributes = Template.firsts (start.accepted pushes) := by
    rcases hholds.afterPushes pushes hwords with ⟨-, hfinal⟩ | ⟨hspoils, -⟩
    · have hlength : final.buffer.length = _ := hfinal.length_buffer
      exact hfinal.parse_finish (by omega)
    · exact absurd hkept hspoils
  have hkept {view : ObjectView} (hparse : ObjectView.parse final.finish = .ok view) :
      start.IsUnspoiled pushes ∧ final.buffer.length < headLength + UInt32.size := by
    obtain ⟨body, hbody⟩ : ∃ body, openHead handle ++ body = final.buffer := by
      refine List.IsPrefix.trans ?_ (hholds.isSized.prefix_afterPushes pushes)
      rw [hholds.buffer]
      exact List.prefix_append _ _
    have hwords : final.buffer.length < headLength + UInt32.size := by
      have hsize := ((parse_finish_eq_ok hbody.symm).mp hparse).1
      rw [← hbody, List.length_append, length_openHead]
      omega
    rcases hholds.afterPushes pushes hwords with ⟨hunspoiled, -⟩ | ⟨-, before, stub, hspoiled⟩
    · exact ⟨hunspoiled, hwords⟩
    · exact absurd hparse (hspoiled.not_object view)
  refine ⟨fun a => ?_, fun a e hrefused => ?_, ?_, fun view hparse => ?_⟩
  · exact (push_effect hfits a).isOk_iff
  · have heffect := push_effect hfits a
    rw [hrefused] at heffect
    exact heffect.of_error
  · constructor
    · rintro ⟨view, hparse⟩
      exact hkept hparse
    · rintro ⟨hunspoiled, hwords⟩
      obtain ⟨view, hparse, -⟩ := hobject hunspoiled hwords
      exact ⟨view, hparse⟩
  · obtain ⟨hunspoiled, hwords⟩ := hkept hparse
    obtain ⟨found, hfound, hview⟩ := hobject hunspoiled hwords
    obtain rfl : view = found := Except.ok.inj (hparse.symm.trans hfound)
    exact hview

/-- A buffer that is full keeps the object in it: the refused push left nothing. -/
theorem full_buffer_keeps_object :
    let label : Attribute := ⟨AttributeKind.label, [1, 2, 3, 4]⟩
    let pushes := [label, ⟨AttributeKind.value, [1]⟩, ⟨AttributeKind.label, []⟩]
    headLength ≤ 32 ∧ ∃ start : ObjectBuilder 32, new 32 5 = .ok start ∧
      start.accepted pushes = [label, ⟨AttributeKind.label, []⟩] ∧
      ∃ view, ObjectView.parse (start.afterPushes pushes).finish = .ok view ∧
        view.handle = 5 ∧ view.attributes = [label] := by
  intro label pushes
  have hcapacity : headLength ≤ 32 := by decide
  obtain ⟨start, hnew, hruns⟩ := finish_is_object_iff 5 hcapacity
  have hstart : (⟨openHead 5, 0⟩ : ObjectBuilder 32) = start := Except.ok.inj hnew
  obtain ⟨-, -, hobject, hview⟩ := hruns pushes
  subst hstart
  obtain ⟨view, hparse⟩ := hobject.mpr ⟨by decide, by decide⟩
  have haccepted : accepted (⟨openHead 5, 0⟩ : ObjectBuilder 32) pushes =
      [label, ⟨AttributeKind.label, []⟩] := by decide
  refine ⟨hcapacity, _, hnew, haccepted, view, hparse, (hview view hparse).1, ?_⟩
  rw [(hview view hparse).2, haccepted]
  rfl

/-- A value that is one byte too long: its type and its length stay, what is finished is no object,
and a value that fitted before is refused. -/
theorem refused_push_spoils_object :
    ∃ start : ObjectBuilder 32, new 32 5 = .ok start ∧
      let long : Attribute := ⟨AttributeKind.label, [1, 2, 3, 4, 5]⟩
      (start.push long.kind long.value).1 = .error .tooLarge ∧ start.pushed long ≠ start ∧
        ObjectView.parse start.finish = .ok ⟨5, 0, []⟩ ∧
        ObjectView.parse (start.pushed long).finish = .error .badHeader ∧
        (start.push AttributeKind.label [1]).1 = .ok () ∧
        ((start.pushed long).push AttributeKind.label [1]).1 = .error .tooLarge :=
  ⟨_, rfl, rfl, by decide, rfl, rfl, rfl, rfl⟩

end ObjectBuilder

end KeyEnclave
