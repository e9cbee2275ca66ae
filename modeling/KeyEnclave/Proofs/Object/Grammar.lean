import KeyEnclave.Proofs.Object.Splitting

/-!
# The grammar of serialised objects

A byte string is an object when it is five words and as many attributes as they say, each with as
many bytes as its length word says and up to three more that pad it. The parser accepts these byte
strings and no others, and what it accepts is read back attribute by attribute, to the last one.

## Main definitions

* `ObjectFormat.Entry` — an attribute as it is written, with any bytes for padding.
* `ObjectFormat.Written` — an object as it is written.
* `ObjectFormat.walk` — the parser's loop over offsets, in numbers of the machine.

## Main results

* `ObjectFormat.skipAttributes_eq_ok` — what is skipped is as many written attributes.
* `ObjectFormat.readAttributes_entries` — written attributes are read back, all of them.
* `ObjectFormat.walksWithin` — the loop neither wraps nor leaves the body, and ends soon.
* `ObjectView.parseFront_grammar` — the parser accepts exactly the grammar.
-/

namespace KeyEnclave

theorem Bytes.word?_eq_some {bytes : Bytes} {word : UInt32} :
    word? bytes = some word ↔ bytes = ofWord word ++ bytes.drop 4 := by
  constructor
  · intro h
    unfold word? at h
    split at h
    · next hlength =>
      have htake : (bytes.take 4).length = 4 := List.length_take_of_le hlength
      have hlt : toNatLE (bytes.take 4) < UInt32.size := by
        have := toNatLE_lt (bytes.take 4)
        rwa [htake] at this
      have hfour := ofNatLE_toNatLE (bytes.take 4)
      rw [htake] at hfour
      have hword : ofWord word = bytes.take 4 := by
        rw [← Option.some.inj h, ofWord, UInt32.toNat_ofNat_of_lt' hlt, hfour]
      rw [hword, List.take_append_drop]
    · cases h
  · intro h
    rw [h, word?_ofWord_append]

theorem Bytes.wordAt?_eq_some {bytes : Bytes} {position : Nat} {word : UInt32} :
    wordAt? bytes position = some word ↔
      bytes.drop position = ofWord word ++ bytes.drop (position + 4) := by
  rw [wordAt?, word?_eq_some, List.drop_drop]

theorem Bytes.wordAt?_drop (bytes : Bytes) (offset position : Nat) :
    wordAt? (bytes.drop offset) position = wordAt? bytes (offset + position) := by
  rw [wordAt?, wordAt?, List.drop_drop]

/-- A word is found only where all of its bytes are. -/
theorem Bytes.le_length_of_wordAt? {bytes : Bytes} {position : Nat} {word : UInt32}
    (h : wordAt? bytes position = some word) : position + 4 ≤ bytes.length := by
  have hlength := congrArg List.length (wordAt?_eq_some.mp h)
  simp only [List.length_drop, List.length_append, length_ofWord] at hlength
  omega

theorem Bytes.wordAt?_ofWord_append (word : UInt32) (rest : Bytes) (position : Nat) :
    wordAt? (ofWord word ++ rest) (position + 4) = wordAt? rest position := by
  have hdrop : (ofWord word ++ rest).drop (position + 4) = rest.drop position := by
    rw [List.drop_append, length_ofWord, Nat.add_sub_cancel, List.drop_of_length_le (by simp),
      List.nil_append]
  rw [wordAt?, wordAt?, hdrop]

theorem Bytes.wordAt?_ofWord (word : UInt32) (rest : Bytes) :
    wordAt? (ofWord word ++ rest) 0 = some word := by
  simp [wordAt?]

/-- Words written one behind the other are read back. -/
theorem Bytes.wordAt?_words {words : List UInt32} {i : Nat} (hi : i < words.length) (rest : Bytes) :
    wordAt? (words.flatMap ofWord ++ rest) (4 * i) = some words[i] := by
  induction words generalizing i with
  | nil => cases hi
  | cons word words ih =>
    rw [List.flatMap_cons, List.append_assoc]
    cases i with
    | zero => exact wordAt?_ofWord _ _
    | succ i =>
      rw [Nat.mul_succ, wordAt?_ofWord_append]
      exact ih (Nat.lt_of_succ_lt_succ hi)

namespace ObjectFormat

-- ═══════════════════════════════════════════════════════════════════════════
-- Written attributes
-- ═══════════════════════════════════════════════════════════════════════════

theorem attributeLength_eq (length : Nat) :
    attributeLength length = attributeHeadLength + (length + paddingLength length) := by
  unfold attributeLength paddingLength attributeHeadLength
  omega

theorem paddingLength_lt (length : Nat) : paddingLength length < 4 := Nat.mod_lt _ (by decide)

theorem four_dvd_add_paddingLength (length : Nat) : 4 ∣ length + paddingLength length := by
  unfold paddingLength
  omega

/-- An attribute as it is written: its type, the length of its value, the value, and up to three
bytes, of any value, that fill the last word. -/
structure Entry where
  kind : AttributeKind
  length : UInt32
  value : Bytes
  padding : Bytes
  length_value : value.length = length.toNat
  short : padding.length < 4
  aligned : 4 ∣ value.length + padding.length

namespace Entry

/-- The bytes of a written attribute. -/
def bytes (entry : Entry) : Bytes :=
  Bytes.ofWord entry.kind ++ (Bytes.ofWord entry.length ++ (entry.value ++ entry.padding))

/-- The attribute that was written. -/
def toAttribute (entry : Entry) : Attribute := ⟨entry.kind, entry.value⟩

/-- The bytes that fill the last word are zero. -/
def IsZeroPadded (entry : Entry) : Prop := ∀ byte ∈ entry.padding, byte = 0

variable (entry : Entry) (rest : Bytes)

theorem length_bytes : entry.bytes.length = attributeLength entry.length.toNat := by
  have hvalue := entry.length_value
  have hshort := entry.short
  have haligned := entry.aligned
  simp only [bytes, attributeLength, attributeHeadLength, List.length_append, Bytes.length_ofWord]
  omega

theorem drop_bytes : (entry.bytes ++ rest).drop (attributeLength entry.length.toNat) = rest := by
  rw [← entry.length_bytes, List.drop_left]

theorem drop_head :
    (entry.bytes ++ rest).drop attributeHeadLength = entry.value ++ (entry.padding ++ rest) := by
  have hhead : (Bytes.ofWord entry.kind ++ Bytes.ofWord entry.length).length =
      attributeHeadLength := by simp [attributeHeadLength]
  rw [← hhead, bytes, ← List.append_assoc, List.append_assoc, List.drop_left, List.append_assoc]

theorem wordAt?_kind : (entry.bytes ++ rest).wordAt? 0 = some entry.kind := by
  rw [bytes, List.append_assoc]
  exact Bytes.word?_ofWord_append _ _

theorem wordAt?_length : (entry.bytes ++ rest).wordAt? 4 = some entry.length := by
  have hdrop : (entry.bytes ++ rest).drop 4 =
      Bytes.ofWord entry.length ++ (entry.value ++ entry.padding ++ rest) := by
    rw [bytes, List.append_assoc, ← Bytes.length_ofWord entry.kind, List.drop_left,
      List.append_assoc]
  rw [Bytes.wordAt?, hdrop]
  exact Bytes.word?_ofWord_append _ _

/-- Where a type and a length stand and the length is not too great, an attribute is written. -/
theorem exists_of_front {body : Bytes} {length : UInt32} (hword : body.wordAt? 4 = some length)
    (hsize : attributeLength length.toNat ≤ body.length) :
    ∃ entry : Entry, entry.length = length ∧
      body = entry.bytes ++ body.drop (attributeLength length.toNat) := by
  have hlength := Bytes.le_length_of_wordAt? hword
  obtain ⟨kind, hkind⟩ : ∃ kind, body.wordAt? 0 = some kind := by
    rw [Bytes.wordAt?, Bytes.word?, if_pos (by rw [List.length_drop]; omega)]
    exact ⟨_, rfl⟩
  have hhead : body = Bytes.ofWord kind ++ (Bytes.ofWord length ++ body.drop attributeHeadLength) :=
    (Bytes.wordAt?_eq_some.mp hkind).trans (congrArg _ (Bytes.wordAt?_eq_some.mp hword))
  rw [attributeLength_eq] at hsize ⊢
  have hvalue : ((body.drop attributeHeadLength).take length.toNat).length = length.toNat :=
    List.length_take_of_le (by rw [List.length_drop]; omega)
  have hpadding : (((body.drop attributeHeadLength).drop length.toNat).take
      (paddingLength length.toNat)).length = paddingLength length.toNat :=
    List.length_take_of_le (by rw [List.length_drop, List.length_drop]; omega)
  refine ⟨{
    kind := kind
    length := length
    value := (body.drop attributeHeadLength).take length.toNat
    padding := ((body.drop attributeHeadLength).drop length.toNat).take (paddingLength length.toNat)
    length_value := hvalue
    short := by rw [hpadding]; exact paddingLength_lt _
    aligned := by rw [hvalue, hpadding]; exact four_dvd_add_paddingLength _ }, rfl, ?_⟩
  rw [← List.drop_drop, ← List.drop_drop, bytes, List.append_assoc, List.append_assoc,
    List.append_assoc, List.take_append_drop, List.take_append_drop]
  exact hhead

end Entry

section Skipping

variable {count : Nat} {body rest : Bytes}

/-- A written attribute is skipped in one round. -/
theorem skipAttributes_bytes (entry : Entry) (count : Nat) (rest : Bytes) :
    skipAttributes (count + 1) (entry.bytes ++ rest) = skipAttributes count rest := by
  have hroom : attributeLength entry.length.toNat ≤ (entry.bytes ++ rest).length := by
    rw [List.length_append, entry.length_bytes]
    exact Nat.le_add_right ..
  rw [skipAttributes, entry.wordAt?_length]
  dsimp only
  rw [if_pos hroom, entry.drop_bytes]

theorem skipAttributes_entries (entries : List Entry) (count : Nat) (rest : Bytes) :
    skipAttributes (entries.length + count) (entries.flatMap Entry.bytes ++ rest) =
      skipAttributes count rest := by
  induction entries with
  | nil => rw [List.length_nil, Nat.zero_add, List.flatMap_nil, List.nil_append]
  | cons entry entries ih =>
    rw [List.length_cons, Nat.add_right_comm, List.flatMap_cons, List.append_assoc,
      skipAttributes_bytes, ih]

/-- What is skipped is as many written attributes as are to be skipped. -/
theorem skipAttributes_eq_ok : skipAttributes count body = .ok rest ↔
    ∃ entries : List Entry, entries.length = count ∧
      body = entries.flatMap Entry.bytes ++ rest := by
  constructor
  · intro h
    induction count generalizing body with
    | zero => exact ⟨[], rfl, Except.ok.inj h⟩
    | succ count ih =>
      unfold skipAttributes at h
      split at h
      · cases h
      · next length hword =>
        dsimp only at h
        split at h
        · next hsize =>
          obtain ⟨entry, -, hbody⟩ := Entry.exists_of_front hword hsize
          obtain ⟨entries, hlength, hrest⟩ := ih h
          refine ⟨entry :: entries, by rw [List.length_cons, hlength], ?_⟩
          rw [List.flatMap_cons, List.append_assoc, ← hrest]
          exact hbody
        · cases h
  · rintro ⟨entries, rfl, rfl⟩
    exact skipAttributes_entries entries 0 rest

/-- Written attributes are read back, each with just its value, however they are padded. -/
theorem readAttributes_entries (entries : List Entry) (rest : Bytes) :
    readAttributes entries.length (entries.flatMap Entry.bytes ++ rest) =
      entries.map Entry.toAttribute := by
  induction entries with
  | nil => rfl
  | cons entry entries ih =>
    have hroom : entry.length.toNat ≤ (entry.value ++ (entry.padding ++
        (entries.flatMap Entry.bytes ++ rest))).length := by
      rw [List.length_append, entry.length_value]
      exact Nat.le_add_right ..
    rw [List.flatMap_cons, List.append_assoc, List.length_cons]
    simp only [readAttributes, entry.wordAt?_kind, entry.wordAt?_length, entry.drop_head,
      if_pos hroom, entry.drop_bytes, ih]
    rw [← entry.length_value, List.take_left]
    rfl

end Skipping

-- ═══════════════════════════════════════════════════════════════════════════
-- The loop over offsets
-- ═══════════════════════════════════════════════════════════════════════════

/-- The sum of two numbers of a machine whose numbers are below `limit`, if it is one of them. -/
def checkedAdd (limit a b : Nat) : Option Nat := if a + b < limit then some (a + b) else none

/-- The offset after an attribute whose value has `length` bytes, each addition checked. -/
def nextOffset (limit offset length : Nat) : Option Nat := do
  let unpadded ← checkedAdd limit length (attributeHeadLength + 3)
  checkedAdd limit offset (unpadded / 4 * 4)

/-- The loop that finds the end of `count` attributes from an offset on, and the offset at which
each round of it begins. The position of a length word is added up without a check: on a machine
whose numbers are below `limit` it could wrap. -/
def walk (limit : Nat) (body : Bytes) : Nat → Nat → Except ObjectError Nat × List Nat
  | 0, offset => (.ok offset, [])
  | count + 1, offset =>
    match body.wordAt? ((offset + 4) % limit) with
    | none => (.error .truncated, [offset])
    | some length =>
      match nextOffset limit offset length.toNat with
      | none => (.error .truncated, [offset])
      | some next =>
        if body.length < next then (.error .truncated, [offset])
        else ((walk limit body count next).1, offset :: (walk limit body count next).2)

/-- A loop over a body that has gone from one offset on finds what skipping the attributes finds,
and every round of it begins inside the body, where nothing wraps and only words that lie in the
body are found. -/
structure WalksWithin (limit : Nat) (body : Bytes) (count offset : Nat) : Prop where
  result : skipAttributes count (body.drop offset) =
    (walk limit body count offset).1.map fun stop => body.drop stop
  rounds : (walk limit body count offset).2.length ≤ (body.length - offset) / 8 + 1
  offsets : ∀ round ∈ (walk limit body count offset).2, round ≤ body.length ∧ round + 8 < limit
  words : ∀ round ∈ (walk limit body count offset).2, ∀ word,
    body.wordAt? ((round + 4) % limit) = some word → round + 8 ≤ body.length

section Walking

variable {limit count offset length next : Nat} {body : Bytes}

theorem of_nextOffset_eq_some (h : nextOffset limit offset length = some next) :
    next = offset + attributeLength length := by
  simp only [nextOffset, checkedAdd, Option.bind_eq_bind, Option.bind_eq_some_iff,
    Option.ite_none_right_eq_some] at h
  obtain ⟨unpadded, ⟨-, hunpadded⟩, -, hnext⟩ := h
  obtain rfl := Option.some.inj hunpadded
  exact (Option.some.inj hnext).symm

theorem of_nextOffset_eq_none (h : nextOffset limit offset length = none) :
    limit ≤ offset + attributeLength length + 3 := by
  unfold nextOffset checkedAdd at h
  unfold attributeLength
  split at h
  · simp only [Option.bind_eq_bind, Option.bind_some] at h
    split at h
    · cases h
    · omega
  · omega

/-- A round that finds the attribute cut short is the last one. -/
theorem WalksWithin.ended
    (hskip : skipAttributes (count + 1) (body.drop offset) = .error .truncated)
    (hwalk : walk limit body (count + 1) offset = (.error .truncated, [offset]))
    (hoffset : offset ≤ body.length) (hlimit : offset + 8 < limit) :
    WalksWithin limit body (count + 1) offset := by
  refine ⟨?_, ?_, ?_, ?_⟩
  · rw [hskip, hwalk]
    rfl
  · rw [hwalk]
    exact Nat.succ_le_succ (Nat.zero_le _)
  · rw [hwalk]
    intro round hround
    rw [List.mem_singleton.mp hround]
    exact ⟨hoffset, hlimit⟩
  · rw [hwalk]
    intro round hround word hword
    rw [List.mem_singleton.mp hround] at hword ⊢
    rw [Nat.mod_eq_of_lt (by omega)] at hword
    exact Bytes.le_length_of_wordAt? hword

/-- A round that finds a whole attribute is followed by the loop from its end on. -/
theorem WalksWithin.continued
    (hskip : skipAttributes (count + 1) (body.drop offset) = skipAttributes count (body.drop next))
    (hwalk : walk limit body (count + 1) offset =
      ((walk limit body count next).1, offset :: (walk limit body count next).2))
    (hafter : WalksWithin limit body count next)
    (hnext : offset + 8 ≤ next) (hfits : next ≤ body.length) (hlimit : offset + 8 < limit) :
    WalksWithin limit body (count + 1) offset := by
  refine ⟨?_, ?_, ?_, ?_⟩
  · rw [hskip, hwalk]
    exact hafter.result
  · rw [hwalk, List.length_cons]
    have := hafter.rounds
    omega
  · rw [hwalk]
    refine List.forall_mem_cons.mpr ⟨⟨by omega, hlimit⟩, hafter.offsets⟩
  · rw [hwalk]
    refine List.forall_mem_cons.mpr ⟨fun _ _ => by omega, hafter.words⟩

/-- Whatever the length words are, and however many attributes there should be. -/
theorem walksWithin (hwords : UInt32.size ≤ limit) (hlimit : 2 * body.length < limit) (count : Nat)
    (hoffset : offset ≤ body.length) : WalksWithin limit body count offset := by
  induction count generalizing offset with
  | zero => exact ⟨rfl, Nat.zero_le _, fun _ h => absurd h List.not_mem_nil,
      fun _ h => absurd h List.not_mem_nil⟩
  | succ count ih =>
    have hwrap : offset + 8 < limit := by
      have : (8 : Nat) < UInt32.size / 2 := by decide
      omega
    have hposition : (offset + 4) % limit = offset + 4 := Nat.mod_eq_of_lt (by omega)
    cases hword : body.wordAt? (offset + 4) with
    | none =>
      refine .ended ?_ ?_ hoffset hwrap
      · rw [skipAttributes, Bytes.wordAt?_drop, hword]
      · rw [walk, hposition, hword]
    | some length =>
      have hskip : skipAttributes (count + 1) (body.drop offset) =
          if attributeLength length.toNat ≤ body.length - offset then
            skipAttributes count (body.drop (offset + attributeLength length.toNat))
          else .error .truncated := by
        rw [skipAttributes, Bytes.wordAt?_drop, hword]
        simp only [List.length_drop, List.drop_drop]
      cases hnext : nextOffset limit offset length.toNat with
      | none =>
        have hover := of_nextOffset_eq_none hnext
        rw [if_neg (by omega)] at hskip
        refine .ended hskip ?_ hoffset hwrap
        simp only [walk, hposition, hword, hnext]
      | some next =>
        obtain rfl := of_nextOffset_eq_some hnext
        have height : 8 ≤ attributeLength length.toNat := by
          unfold attributeLength attributeHeadLength
          omega
        by_cases hfits : offset + attributeLength length.toNat ≤ body.length
        · rw [if_pos (by omega)] at hskip
          refine .continued hskip ?_ (ih hfits) (by omega) hfits hwrap
          simp only [walk, hposition, hword, hnext, if_neg (Nat.not_lt.mpr hfits)]
        · rw [if_neg (by omega)] at hskip
          refine .ended hskip ?_ hoffset hwrap
          simp only [walk, hposition, hword, hnext, if_pos (Nat.lt_of_not_le hfits)]

end Walking

-- ═══════════════════════════════════════════════════════════════════════════
-- Written objects
-- ═══════════════════════════════════════════════════════════════════════════

/-- An object as it is written: the words of its head, and as many attributes of as many bytes as
these say. -/
structure Written where
  size : UInt32
  count : UInt32
  handle : ObjectHandle
  entries : List Entry
  size_eq : (entries.flatMap Entry.bytes).length = size.toNat
  count_eq : entries.length = count.toNat

namespace Written

variable (object : Written)

/-- The words of the head. -/
def head : List UInt32 := [version, configuration, object.size, object.count, object.handle]

/-- The attributes one behind the other. -/
def body : Bytes := object.entries.flatMap Entry.bytes

/-- The bytes of a written object. -/
def bytes : Bytes := object.head.flatMap Bytes.ofWord ++ object.body

/-- What is parsed from a written object. -/
def view : ObjectView := ⟨object.handle, object.count, object.body⟩

theorem length_head : (object.head.flatMap Bytes.ofWord).length = headLength := by
  simp [head, headLength]

theorem length_bytes : object.bytes.length = headLength + object.size.toNat := by
  rw [bytes, List.length_append, length_head, body, object.size_eq]

theorem attributes_view : object.view.attributes = object.entries.map Entry.toAttribute := by
  have hread := readAttributes_entries object.entries []
  rw [List.append_nil, object.count_eq] at hread
  exact hread

end Written

end ObjectFormat

namespace ObjectView

open ObjectFormat

variable {bytes : Bytes} {view : ObjectView} {length : Nat}

theorem isFront_written (object : Written) (rest : Bytes) :
    IsFront (object.bytes ++ rest) object.view object.bytes.length := by
  have hwords {i : Nat} (hi : i < 5) :
      (object.bytes ++ rest).wordAt? (4 * i) = some object.head[i] := by
    rw [Written.bytes, List.append_assoc]
    exact Bytes.wordAt?_words hi _
  have hskip : skipAttributes object.count.toNat (object.body ++ []) = .ok [] :=
    skipAttributes_eq_ok.mpr ⟨object.entries, object.count_eq, rfl⟩
  rw [List.append_nil] at hskip
  exact {
    version := hwords (by decide : 0 < 5)
    configuration := hwords (by decide : 1 < 5)
    size := ⟨_, hwords (by decide : 2 < 5), object.length_bytes⟩
    count := hwords (by decide : 3 < 5)
    handle := hwords (by decide : 4 < 5)
    length_le := by
      rw [List.length_append]
      exact Nat.le_add_right ..
    body := by
      rw [List.take_left, Written.bytes, ← object.length_head, List.drop_left]
      rfl
    attributes := hskip }

theorem parse_written (object : Written) : parse object.bytes = .ok object.view := by
  have hfront := isFront_written object []
  rw [List.append_nil] at hfront
  exact parse_eq_ok.mpr (parseFront_eq_ok.mpr hfront)

theorem exists_written (h : IsFront bytes view length) :
    ∃ object : Written, object.bytes = bytes.take length ∧ object.view = view := by
  obtain ⟨hversion, hconfiguration, ⟨size, hsize, rfl⟩, hcount, hhandle, hle, hbody, hattributes⟩ := h
  obtain ⟨entries, hentries, hwritten⟩ := skipAttributes_eq_ok.mp hattributes
  rw [List.append_nil] at hwritten
  have hlength : view.body.length = size.toNat := by
    rw [hbody, List.length_drop, List.length_take_of_le hle, Nat.add_sub_cancel_left]
  have hhead : bytes = [version, configuration, size, view.count, view.handle].flatMap Bytes.ofWord ++
      bytes.drop headLength := by
    rw [Bytes.wordAt?_eq_some] at hversion hconfiguration hsize hcount hhandle
    simp only [List.flatMap_cons, List.flatMap_nil, List.append_nil, List.append_assoc]
    exact hversion.trans (congrArg _ (hconfiguration.trans (congrArg _ (hsize.trans
      (congrArg _ (hcount.trans (congrArg _ hhandle)))))))
  rw [List.drop_take, Nat.add_sub_cancel_left] at hbody
  refine ⟨⟨size, view.count, view.handle, entries, by rw [← hwritten, hlength], hentries⟩, ?_,
    congrArg (ObjectView.mk view.handle view.count) hwritten.symm⟩
  have htake : bytes.take headLength =
      [version, configuration, size, view.count, view.handle].flatMap Bytes.ofWord := by
    rw [hhead]
    exact List.take_left' (by simp [headLength])
  rw [List.take_add, htake, ← hbody]
  exact congrArg _ hwritten.symm

/-- An object is accepted at the front of a byte string when it is written there, and read as it is
written, to its last attribute; whatever comes behind it changes nothing. The loop over its
attributes neither wraps nor leaves the bytes, and it ends within a round for every eight bytes,
on every machine that has the words of an object and the offsets of the byte string among its
numbers: a byte string takes no more than half of them. -/
theorem parseFront_grammar (bytes : Bytes) :
    (∀ view length, parseFront bytes = .ok (view, length) ↔
      ∃ object : Written, object.bytes <+: bytes ∧ object.view = view ∧
        headLength + object.size.toNat = length) ∧
    (∀ object : Written, object.bytes <+: bytes →
      object.view.attributes = object.entries.map Entry.toAttribute ∧
      parse (bytes.take (headLength + object.size.toNat)) = .ok object.view ∧
      ∀ rest, parseFront (bytes ++ rest) = .ok (object.view, headLength + object.size.toNat)) ∧
    (∀ view, parse bytes = .ok view ↔ parseFront bytes = .ok (view, bytes.length)) ∧
    ∀ limit, UInt32.size ≤ limit → 2 * bytes.length < limit → ∀ stop count,
      WalksWithin limit ((bytes.take stop).drop headLength) count 0 := by
  have hwhole (object : Written) (rest : Bytes) :
      parseFront (object.bytes ++ rest) = .ok (object.view, headLength + object.size.toNat) := by
    rw [← object.length_bytes]
    exact parseFront_eq_ok.mpr (isFront_written object rest)
  refine ⟨fun view length => ⟨fun h => ?_, ?_⟩, ?_, fun view => ?_, ?_⟩
  · have hfront := parseFront_eq_ok.mp h
    obtain ⟨object, hbytes, hview⟩ := exists_written hfront
    refine ⟨object, hbytes ▸ List.take_prefix _ _, hview, ?_⟩
    rw [← object.length_bytes, hbytes, List.length_take_of_le hfront.bounds.2]
  · rintro ⟨object, ⟨rest, rfl⟩, rfl, rfl⟩
    exact hwhole object rest
  · rintro object ⟨rest, rfl⟩
    refine ⟨object.attributes_view, ?_, fun more => ?_⟩
    · rw [← object.length_bytes, List.take_left]
      exact parse_written object
    · rw [List.append_assoc]
      exact hwhole object (rest ++ more)
  · exact parse_eq_ok
  · intro limit hwords hlimit stop count
    refine walksWithin hwords ?_ count (Nat.zero_le _)
    rw [List.length_drop, List.length_take]
    omega

/-- The greatest count and the greatest length end the loop in its first round. -/
theorem parseFront_grammar_greatest :
    let bytes := [version, configuration, 8, 0xFFFFFFFF, 5, 0, 0xFFFFFFFF].flatMap Bytes.ofWord
    2 * bytes.length < UInt32.size ∧ parseFront bytes = .error .truncated ∧
      WalksWithin UInt32.size ((bytes.take 28).drop headLength) 0xFFFFFFFF 0 :=
  ⟨by decide, rfl,
    (parseFront_grammar _).2.2.2 UInt32.size (Nat.le_refl _) (by decide) 28 0xFFFFFFFF⟩

end ObjectView

end KeyEnclave
