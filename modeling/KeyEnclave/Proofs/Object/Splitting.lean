import KeyEnclave.Kms.Import
import KeyEnclave.Proofs.Action.Ends

/-!
# Splitting a plaintext into objects

The objects of a plaintext lie one behind the other, and each says how long it is. What it says is
never less than its head, so splitting comes to an end.

## Main definitions

* `IsPiece` — an object of the installed range, and nothing else.

## Main results

* `ObjectView.isFront_append` — an object is read off the front of whatever follows it.
* `splitObjects_eq_ok` — the pieces are the plaintext, all of it, piece by piece.
* `length_lt_of_dataLenRange` — splitting stops by itself before every twentieth byte was used up.
-/

namespace KeyEnclave

theorem Bytes.wordAt?_append {front rest : Bytes} {position : Nat}
    (h : position + 4 ≤ front.length) :
    wordAt? (front ++ rest) position = wordAt? front position := by
  have hdrop : (front ++ rest).drop position = front.drop position ++ rest :=
    List.drop_append_of_le_length (by omega)
  have hlength : 4 ≤ (front.drop position).length := by
    rw [List.length_drop]
    omega
  rw [wordAt?, wordAt?, hdrop, word?, word?, if_pos hlength,
    if_pos (Nat.le_trans hlength (by simp)), List.take_append_of_le_length hlength]

namespace ObjectView

open ObjectFormat

variable {front rest bytes : Bytes} {view : ObjectView} {length : Nat}

/-- What makes the first `length` bytes an object. -/
structure IsFront (bytes : Bytes) (view : ObjectView) (length : Nat) : Prop where
  version : bytes.wordAt? 0 = some version
  configuration : bytes.wordAt? 4 = some configuration
  size : ∃ size, bytes.wordAt? 8 = some size ∧ length = headLength + size.toNat
  count : bytes.wordAt? 12 = some view.count
  handle : bytes.wordAt? 16 = some view.handle
  length_le : length ≤ bytes.length
  body : view.body = (bytes.take length).drop headLength
  attributes : skipAttributes view.count.toNat view.body = .ok []

theorem headWord_eq_ok {position : Nat} {word : UInt32} :
    headWord bytes position = .ok word ↔ bytes.wordAt? position = some word := by
  unfold headWord
  split
  · next found hfound => rw [hfound, Except.ok.injEq, Option.some.injEq]
  · next hfound =>
    rw [hfound]
    constructor <;> intro h <;> cases h

theorem parseFront_eq_ok : parseFront bytes = .ok (view, length) ↔ IsFront bytes view length := by
  simp only [parseFront, bind_eq_ok, failing_eq_ok, headWord_eq_ok]
  constructor
  · rintro ⟨_, hversion, hv, _, hconfiguration, hc, size, hsize, count, hcount, handle, hhandle,
      hlength, rest, hattributes, hrest, hview⟩
    obtain ⟨rfl, rfl⟩ := Prod.mk.inj (Except.ok.inj hview)
    rw [Decidable.of_not_not hv] at hversion
    rw [Decidable.of_not_not hc] at hconfiguration
    rw [Decidable.of_not_not hrest] at hattributes
    exact ⟨hversion, hconfiguration, ⟨size, hsize, rfl⟩, hcount, hhandle, Nat.not_lt.mp hlength, rfl,
      hattributes⟩
  · rintro ⟨hversion, hconfiguration, ⟨size, hsize, rfl⟩, hcount, hhandle, hlength, hbody,
      hattributes⟩
    rw [hbody] at hattributes
    refine ⟨_, hversion, not_not_intro rfl, _, hconfiguration, not_not_intro rfl, size, hsize, _,
      hcount, _, hhandle, Nat.not_lt.mpr hlength, [], hattributes, not_not_intro rfl, ?_⟩
    rw [← hbody]
    rfl

/-- An object is no shorter than its head, and no longer than what it is read from. -/
theorem IsFront.bounds (h : IsFront bytes view length) :
    headLength ≤ length ∧ length ≤ bytes.length := by
  obtain ⟨size, -, hlength⟩ := h.size
  exact ⟨by omega, h.length_le⟩

/-- An object is read off the front of whatever follows it. -/
theorem isFront_append (h : headLength ≤ front.length) :
    IsFront (front ++ rest) view front.length ↔ IsFront front view front.length := by
  have hword (position : Nat) (hposition : position ≤ 16) :
      (front ++ rest).wordAt? position = front.wordAt? position := by
    refine Bytes.wordAt?_append (Nat.le_trans ?_ h)
    show position + 4 ≤ 20
    omega
  have htake : (front ++ rest).take front.length = front.take front.length := by
    rw [List.take_left, List.take_length]
  constructor
  · rintro ⟨hversion, hconfiguration, hsize, hcount, hhandle, -, hbody, hattributes⟩
    rw [hword _ (by omega)] at hversion hconfiguration hsize hcount hhandle
    rw [htake] at hbody
    exact ⟨hversion, hconfiguration, hsize, hcount, hhandle, Nat.le_refl _, hbody, hattributes⟩
  · rintro ⟨hversion, hconfiguration, ⟨size, hsize, hlength⟩, hcount, hhandle, -, hbody,
      hattributes⟩
    refine ⟨(hword 0 (by omega)).trans hversion, (hword 4 (by omega)).trans hconfiguration,
      ⟨size, (hword 8 (by omega)).trans hsize, hlength⟩, (hword 12 (by omega)).trans hcount,
      (hword 16 (by omega)).trans hhandle, ?_, ?_, hattributes⟩
    · rw [List.length_append]
      exact Nat.le_add_right ..
    · rw [htake, hbody]

/-- The whole of a byte string is an object when its front is, and ends where it does. -/
theorem parse_eq_ok : parse bytes = .ok view ↔ parseFront bytes = .ok (view, bytes.length) := by
  simp only [parse, bind_eq_ok, failing_eq_ok]
  constructor
  · rintro ⟨⟨found, length⟩, hfront, hlength, hview⟩
    obtain rfl : found = view := Except.ok.inj hview
    obtain rfl : length = bytes.length := Decidable.of_not_not hlength
    exact hfront
  · intro h
    exact ⟨(view, bytes.length), h, not_not_intro rfl, rfl⟩

theorem parse?_eq_some : parse? bytes = some view ↔ IsFront bytes view bytes.length := by
  rw [← parseFront_eq_ok, ← parse_eq_ok, parse?]
  cases parse bytes with
  | error e =>
    constructor <;> intro h <;> cases h
  | ok found =>
    show some found = some view ↔ Except.ok found = Except.ok view
    rw [Option.some.injEq, Except.ok.injEq]

/-- An object at the front is the object that its bytes alone are. -/
theorem parseFront_eq_ok_iff : parseFront bytes = .ok (view, length) ↔
    parse? (bytes.take length) = some view ∧ (bytes.take length).length = length := by
  rw [parse?_eq_some, parseFront_eq_ok]
  constructor
  · intro h
    obtain ⟨hhead, hle⟩ := h.bounds
    have htake : (bytes.take length).length = length := List.length_take_of_le hle
    refine ⟨?_, htake⟩
    rw [← List.take_append_drop length bytes] at h
    have hfront : IsFront (bytes.take length ++ bytes.drop length) view
      (bytes.take length).length := by rwa [htake]
    exact (isFront_append (by rwa [htake])).mp hfront
  · rintro ⟨h, htake⟩
    have hhead := h.bounds.1
    have hfront : IsFront (bytes.take length ++ bytes.drop length) view
      (bytes.take length).length := (isFront_append hhead).mpr h
    rwa [List.take_append_drop, htake] at hfront

end ObjectView

/-- An object of the installed range, and nothing else. -/
def IsPiece (layout : ObjectLayout) (piece : Bytes) : Prop :=
  ∃ view, ObjectView.parse? piece = some view ∧ layout.classify view.handle = .nvmStatic

section Splitting

variable {layout : ObjectLayout} {budget : Nat} {plain : Bytes} {pieces : List Bytes}

theorem IsPiece.headLength_le {piece : Bytes} (h : IsPiece layout piece) :
    ObjectFormat.headLength ≤ piece.length := by
  obtain ⟨view, hparse, -⟩ := h
  exact (ObjectView.parse?_eq_some.mp hparse).bounds.1

theorem IsPiece.of_parseFront {view : ObjectView} {length : Nat}
    (h : ObjectView.parseFront plain = .ok (view, length))
    (hclass : layout.classify view.handle = .nvmStatic) :
    IsPiece layout (plain.take length) ∧ (plain.take length).length = length := by
  obtain ⟨hparse, hlength⟩ := ObjectView.parseFront_eq_ok_iff.mp h
  exact ⟨⟨view, hparse, hclass⟩, hlength⟩

theorem IsPiece.parseFront {piece : Bytes} (h : IsPiece layout piece) (rest : Bytes) :
    ∃ view, ObjectView.parseFront (piece ++ rest) = .ok (view, piece.length) ∧
      layout.classify view.handle = .nvmStatic := by
  obtain ⟨view, hparse, hclass⟩ := h
  refine ⟨view, ObjectView.parseFront_eq_ok_iff.mpr ?_, hclass⟩
  rw [List.take_left]
  exact ⟨hparse, rfl⟩

theorem mapError_eq_ok {α ε δ : Type} {x : Except ε α} {wrap : ε → δ} {a : α} :
    x.mapError wrap = .ok a ↔ x = .ok a := by
  cases x with
  | error e =>
    constructor <;> intro h <;> cases h
  | ok found =>
    show Except.ok found = Except.ok a ↔ _
    rw [Except.ok.injEq, Except.ok.injEq]

theorem splitObjects_nil : splitObjects layout budget [] = .ok [] := by
  cases budget <;> rfl

theorem splitObjects_zero (hne : plain ≠ []) : splitObjects layout 0 plain ≠ .ok pieces := by
  obtain ⟨first, others, rfl⟩ := List.exists_cons_of_ne_nil hne
  simp only [splitObjects, ne_eq, bind_eq_ok, failing_eq_ok]
  rintro ⟨-, -, -, h⟩
  cases h

/-- One round of splitting takes an object off the front. -/
theorem splitObjects_succ (hne : plain ≠ []) : splitObjects layout (budget + 1) plain = .ok pieces ↔
    ∃ view length rest, ObjectView.parseFront plain = .ok (view, length) ∧
      layout.classify view.handle = .nvmStatic ∧
      splitObjects layout budget (plain.drop length) = .ok rest ∧
      pieces = plain.take length :: rest := by
  obtain ⟨first, others, rfl⟩ := List.exists_cons_of_ne_nil hne
  simp only [splitObjects, bind_eq_ok, failing_eq_ok, mapError_eq_ok]
  constructor
  · rintro ⟨⟨view, length⟩, hfront, hclass, rest, hrest, hpieces⟩
    exact ⟨view, length, rest, hfront, Decidable.of_not_not hclass, hrest,
      (Except.ok.inj hpieces).symm⟩
  · rintro ⟨view, length, rest, hfront, hclass, hrest, rfl⟩
    exact ⟨(view, length), hfront, not_not_intro hclass, rest, hrest, rfl⟩

/-- No piece is empty. -/
theorem flatten_ne_nil (h : ∀ piece ∈ pieces, IsPiece layout piece) (hne : pieces ≠ []) :
    pieces.flatten ≠ [] := by
  obtain ⟨piece, rest, rfl⟩ := List.exists_cons_of_ne_nil hne
  have hhead : 20 ≤ piece.length := (h piece List.mem_cons_self).headLength_le
  intro hempty
  have hlength := congrArg List.length hempty
  rw [List.flatten_cons, List.length_append, List.length_nil] at hlength
  omega

/-- The pieces are the plaintext, one behind the other, as long as the budget lasts. -/
theorem splitObjects_eq_ok : splitObjects layout budget plain = .ok pieces ↔
    pieces.flatten = plain ∧ pieces.length ≤ budget ∧ ∀ piece ∈ pieces, IsPiece layout piece := by
  induction budget generalizing plain pieces with
  | zero =>
    by_cases hempty : plain = []
    · subst hempty
      rw [splitObjects_nil, Except.ok.injEq]
      constructor
      · rintro rfl
        exact ⟨rfl, Nat.le_refl 0, fun _ h => by cases h⟩
      · rintro ⟨-, hlength, -⟩
        exact (List.eq_nil_of_length_eq_zero (Nat.le_zero.mp hlength)).symm
    · constructor
      · exact fun h => absurd h (splitObjects_zero hempty)
      · rintro ⟨hflatten, hlength, -⟩
        rw [List.eq_nil_of_length_eq_zero (Nat.le_zero.mp hlength)] at hflatten
        exact absurd hflatten.symm hempty
  | succ budget ih =>
    by_cases hempty : plain = []
    · subst hempty
      rw [splitObjects_nil, Except.ok.injEq]
      constructor
      · rintro rfl
        exact ⟨rfl, Nat.zero_le _, fun _ h => by cases h⟩
      · rintro ⟨hflatten, -, hpieces⟩
        exact (Decidable.not_not.mp fun hne => flatten_ne_nil hpieces (Ne.symm hne) hflatten)
    · rw [splitObjects_succ hempty]
      constructor
      · rintro ⟨view, length, rest, hfront, hclass, hrest, rfl⟩
        obtain ⟨hflatten, hlength, hpieces⟩ := ih.mp hrest
        have hpiece := (IsPiece.of_parseFront hfront hclass).1
        refine ⟨?_, Nat.succ_le_succ hlength, List.forall_mem_cons.mpr ⟨hpiece, hpieces⟩⟩
        rw [List.flatten_cons, hflatten, List.take_append_drop]
      · rintro ⟨rfl, hlength, hpieces⟩
        cases pieces with
        | nil => exact absurd rfl hempty
        | cons piece rest =>
          obtain ⟨hpiece, hrest⟩ := List.forall_mem_cons.mp hpieces
          obtain ⟨view, hfront, hclass⟩ := hpiece.parseFront rest.flatten
          rw [List.flatten_cons]
          refine ⟨view, piece.length, rest, hfront, hclass, ?_, ?_⟩
          · rw [List.drop_left]
            exact ih.mpr ⟨rfl, Nat.le_of_succ_le_succ hlength, hrest⟩
          · rw [List.take_left]

/-- Every round takes at least the head of an object, so splitting that runs out of its budget has
more than that much before it. -/
theorem length_lt_of_dataLenRange (h : splitObjects layout budget plain = .error .dataLenRange) :
    ObjectFormat.headLength * budget < plain.length := by
  induction budget generalizing plain with
  | zero =>
    cases plain with
    | nil =>
      rw [splitObjects_nil] at h
      cases h
    | cons first others => exact Nat.succ_pos others.length
  | succ budget ih =>
    cases plain with
    | nil =>
      rw [splitObjects_nil] at h
      cases h
    | cons first others =>
      simp only [splitObjects] at h
      generalize first :: others = plain at h ⊢
      cases hfront : ObjectView.parseFront plain with
      | error e =>
        rw [hfront] at h
        cases h
      | ok front =>
        obtain ⟨view, length⟩ := front
        have hparsed : (ObjectView.parseFront plain).mapError (fun _ => ReturnCode.dataInvalid) =
            .ok (view, length) := mapError_eq_ok.mpr hfront
        simp only [hparsed, bind, Except.bind] at h
        split at h
        · cases h
        · cases hrest : splitObjects layout budget (plain.drop length) with
          | ok rest =>
            rw [hrest] at h
            cases h
          | error code =>
            rw [hrest] at h
            obtain rfl := Except.error.inj h
            have hleft := ih hrest
            have hbounds := (ObjectView.parseFront_eq_ok.mp hfront).bounds
            rw [List.length_drop] at hleft
            rw [Nat.mul_succ]
            omega

end Splitting

end KeyEnclave
