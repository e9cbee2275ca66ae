import KeyEnclave.Action

/-!
# What an action ends in

A rule for every way to build an action, read backwards: what has to hold of the parts for a
property to hold of the outcome of the whole.

## Main definitions

* `Outcome.after` — an outcome with the exchanges that came before it.
* `Action.Ends` — the outcome of an action, started in a state, has a property.

## Design notes

A rule for `m >>= f` hands the state and the journal of `m` to `f` as they are, so what was read
from the state before stays tied to it. Actions with a specification of their own take the property
as a parameter and are used in the same way as the rules here.
-/

namespace KeyEnclave

variable {σ τ ι κ ε δ α β : Type}

/-- An outcome with the exchanges that came before it. -/
def Outcome.after (journal : List ι) (outcome : Outcome σ ι ε α) : Outcome σ ι ε α :=
  { outcome with journal := journal ++ outcome.journal }

namespace Action

/-- What `action` leaves behind when it is started in `s` has the property `post`. -/
def Ends (action : Action σ ι ε α) (s : σ) (post : Outcome σ ι ε α → Prop) : Prop :=
  post (action.run s)

namespace Ends

variable {s t : σ} {action : Action σ ι ε α} {next : α → Action σ ι ε β}

theorem mono {post weaker : Outcome σ ι ε α → Prop} (h : action.Ends s post)
    (hpost : ∀ outcome, post outcome → weaker outcome) : action.Ends s weaker :=
  hpost _ h

section Bind

variable {post : Outcome σ ι ε β → Prop}

theorem bind (h : action.Ends s fun outcome =>
      match outcome with
      | ⟨.ok a, t, journal⟩ => (next a).Ends t fun rest => post (rest.after journal)
      | ⟨.error e, t, journal⟩ => post ⟨.error e, t, journal⟩) :
    (action >>= next).Ends s post := by
  show post ((action >>= next).run s)
  rw [run_bind]
  revert h
  unfold Ends
  rcases action.run s with ⟨answer | answer, t, journal⟩
  · exact id
  · exact id

/-- An action whose outcome is known can be replaced by it. -/
theorem bind_run {a : α} {journal : List ι} (hrun : action.run s = ⟨.ok a, t, journal⟩)
    (h : (next a).Ends t fun rest => post (rest.after journal)) :
    (action >>= next).Ends s post := by
  refine bind ?_
  unfold Ends
  rw [hrun]
  exact h

theorem bind_pure {a : α} (h : (next a).Ends s post) :
    ((pure a : Action σ ι ε α) >>= next).Ends s post := h

theorem bind_throw {e : ε} (h : post ⟨.error e, s, []⟩) :
    ((throw e : Action σ ι ε α) >>= next).Ends s post := h

theorem bind_get {next : σ → Action σ ι ε β} (h : (next s).Ends s post) :
    ((get : Action σ ι ε σ) >>= next).Ends s post := h

theorem bind_set {next : PUnit → Action σ ι ε β} (h : (next ⟨⟩).Ends t post) :
    ((set t : Action σ ι ε PUnit) >>= next).Ends s post := h

theorem bind_modify {f : σ → σ} {next : PUnit → Action σ ι ε β} (h : (next ⟨⟩).Ends (f s) post) :
    ((modify f : Action σ ι ε PUnit) >>= next).Ends s post := h

/-- An outcome that is already known is either an error, which is passed on, or an answer. -/
theorem bind_ofExcept {x : Except ε α} (herror : ∀ e, x = .error e → post ⟨.error e, s, []⟩)
    (hok : ∀ a, x = .ok a → (next a).Ends s post) : (ofExcept x >>= next).Ends s post := by
  cases x with
  | error e => exact herror e rfl
  | ok a => exact hok a rfl

/-- A check that is known to pass can be left out. -/
theorem bind_ok {x : Except ε α} {a : α} (hx : x = .ok a) (h : (next a).Ends s post) :
    (ofExcept x >>= next).Ends s post := by
  rw [hx]
  exact h

theorem bind_attempt {action : Action σ ι δ α} {next : Except δ α → Action σ ι ε β}
    (h : action.Ends s fun outcome => (next outcome.answer).Ends outcome.state fun rest =>
      post (rest.after outcome.journal)) :
    (attempt action >>= next).Ends s post := h

end Bind

section Single

variable {post : Outcome σ ι ε α → Prop}

theorem pure {a : α} (h : post ⟨.ok a, s, []⟩) : (pure a : Action σ ι ε α).Ends s post := h

theorem throw {e : ε} (h : post ⟨.error e, s, []⟩) : (throw e : Action σ ι ε α).Ends s post := h

theorem of_run {outcome : Outcome σ ι ε α} (hrun : action.run s = outcome) (h : post outcome) :
    action.Ends s post := by
  unfold Ends
  rw [hrun]
  exact h

theorem ite {p : Prop} [Decidable p] {other : Action σ ι ε α} (hthen : p → action.Ends s post)
    (helse : ¬p → other.Ends s post) : (if p then action else other).Ends s post := by
  split
  · next h => exact hthen h
  · next h => exact helse h

/-- The usual check: fail if `p` holds, and go on otherwise. -/
theorem failing {p : Prop} [Decidable p] {e : ε} {next : PUnit → Action σ ι ε α}
    (hfail : p → post ⟨.error e, s, []⟩) (hgo : ¬p → (next ⟨⟩).Ends s post) :
    (if p then (MonadExceptOf.throw e : Action σ ι ε PUnit) >>= next else next ⟨⟩).Ends s post :=
  ite hfail hgo

end Single

section Checked

variable {γ : Type} {post : Outcome σ ι ε γ → Prop} {passed : β → Prop}

/-- Checks that an action makes one by one, and that are `x >>= checks` together: what follows from
their failing or passing together may be used at each. -/
theorem bind_checked {x : Except ε α} {checks : α → Except ε β} {next : α → Action σ ι ε γ}
    (h : (∀ e, (x >>= checks) = .error e → post ⟨.error e, s, []⟩) ∧
      ∀ b, (x >>= checks) = .ok b → passed b)
    (hnext : ∀ a, ((∀ e, checks a = .error e → post ⟨.error e, s, []⟩) ∧
      ∀ b, checks a = .ok b → passed b) → (next a).Ends s post) :
    (ofExcept x >>= next).Ends s post := by
  cases x with
  | error e => exact h.1 e rfl
  | ok a => exact hnext a h

theorem failing_checked {p : Prop} [Decidable p] {e : ε} {checks : PUnit → Except ε β}
    {next : PUnit → Action σ ι ε γ}
    (h : (∀ found, (if p then (MonadExceptOf.throw e : Except ε PUnit) >>= checks
        else checks ⟨⟩) = .error found → post ⟨.error found, s, []⟩) ∧
      ∀ b, (if p then (MonadExceptOf.throw e : Except ε PUnit) >>= checks else checks ⟨⟩) = .ok b →
        passed b)
    (hnext : ((∀ found, checks ⟨⟩ = .error found → post ⟨.error found, s, []⟩) ∧
      ∀ b, checks ⟨⟩ = .ok b → passed b) → (next ⟨⟩).Ends s post) :
    (if p then (MonadExceptOf.throw e : Action σ ι ε PUnit) >>= next else next ⟨⟩).Ends s post := by
  split
  · next hp => exact h.1 e (if_pos hp)
  · next hp =>
    simp only [if_neg hp] at h
    exact hnext h

end Checked

end Ends

/-- What was exchanged first stays in the journal. -/
theorem mem_journal_bind {action : Action σ ι ε α} {next : α → Action σ ι ε β} {s : σ} {i : ι}
    (h : i ∈ (action.run s).journal) : i ∈ ((action >>= next).run s).journal := by
  rw [run_bind]
  revert h
  rcases action.run s with ⟨answer | answer, t, journal⟩
  · exact id
  · exact List.mem_append_left _

end Action

-- ═══════════════════════════════════════════════════════════════════════════
-- Checks
-- ═══════════════════════════════════════════════════════════════════════════

section Checks

variable {e : ε} {b : β}

/-- Checks in a row succeed when each of them does. -/
theorem bind_eq_ok {x : Except ε α} {next : α → Except ε β} :
    (x >>= next) = .ok b ↔ ∃ a, x = .ok a ∧ next a = .ok b := by
  cases x with
  | error e =>
    constructor
    · intro h
      cases h
    · rintro ⟨a, h, -⟩
      cases h
  | ok a =>
    constructor
    · exact fun h => ⟨a, rfl, h⟩
    · rintro ⟨a, ⟨⟩, h⟩
      exact h

theorem failing_eq_ok {p : Prop} [Decidable p] {next : PUnit → Except ε β} :
    (if p then (throw e : Except ε PUnit) >>= next else next ⟨⟩) = .ok b ↔
      ¬p ∧ next ⟨⟩ = .ok b := by
  split
  · next h =>
    constructor
    · intro herror
      cases herror
    · exact fun hnot => absurd h hnot.1
  · next h => exact ⟨fun hok => ⟨h, hok⟩, And.right⟩

/-- Checks in a row do not fail with an error that none of them fails with. -/
theorem bind_ne_error {x : Except ε α} {next : α → Except ε β} (hx : x ≠ .error e)
    (hnext : ∀ a, next a ≠ .error e) : (x >>= next) ≠ .error e := by
  cases x with
  | error found => exact fun h => hx (congrArg Except.error (Except.error.inj h))
  | ok a => exact hnext a

theorem failing_ne_error {p : Prop} [Decidable p] {found : ε} {next : PUnit → Except ε β}
    (hfound : found ≠ e) (hnext : next ⟨⟩ ≠ .error e) :
    (if p then (throw found : Except ε PUnit) >>= next else next ⟨⟩) ≠ .error e := by
  split
  · exact fun h => hfound (Except.error.inj h)
  · exact hnext

end Checks

end KeyEnclave
