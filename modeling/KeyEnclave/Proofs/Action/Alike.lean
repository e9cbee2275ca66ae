import KeyEnclave.Action

/-!
# Two runs of an action

An action is run from two states, or two actions are, and what is asked is whether the answers differ
and how the states that are left are related. The rules mirror those for one run.

## Main definitions

* `Action.EndsAlike` — two runs have the same answer and leave related states.

## Design notes

The two actions are kept apart, since each of them goes on with what it read from its own state.
Journals are not compared.
-/

namespace KeyEnclave.Action

variable {σ τ ι κ ε δ α β : Type}

/-- Started in `s` and in `t`, two actions have the same answer and leave states related by
`post`. -/
def EndsAlike (action action' : Action σ ι ε α) (s t : σ) (post : σ → σ → Prop) : Prop :=
  (action.run s).answer = (action'.run t).answer ∧ post (action.run s).state (action'.run t).state

namespace EndsAlike

variable {action action' : Action σ ι ε α} {s t : σ} {post : σ → σ → Prop}

section Single

theorem pure {a : α} (h : post s t) :
    EndsAlike (Pure.pure a : Action σ ι ε α) (Pure.pure a) s t post :=
  ⟨rfl, h⟩

theorem throw {e : ε} (h : post s t) :
    EndsAlike (MonadExceptOf.throw e : Action σ ι ε α) (MonadExceptOf.throw e) s t post :=
  ⟨rfl, h⟩

theorem ite {p : Prop} [Decidable p] {other other' : Action σ ι ε α}
    (hthen : p → EndsAlike action action' s t post)
    (helse : ¬p → EndsAlike other other' s t post) :
    EndsAlike (if p then action else other) (if p then action' else other') s t post := by
  by_cases hp : p
  · simp only [if_pos hp]
    exact hthen hp
  · simp only [if_neg hp]
    exact helse hp

theorem failing {p : Prop} [Decidable p] {e : ε} {next next' : PUnit → Action σ ι ε α}
    (h : post s t) (hgo : ¬p → EndsAlike (next ⟨⟩) (next' ⟨⟩) s t post) :
    EndsAlike (if p then (MonadExceptOf.throw e : Action σ ι ε PUnit) >>= next else next ⟨⟩)
      (if p then (MonadExceptOf.throw e : Action σ ι ε PUnit) >>= next' else next' ⟨⟩) s t post :=
  ite (fun _ => ⟨rfl, h⟩) hgo

end Single

section Bind

variable {next next' : α → Action σ ι ε β}

/-- Two runs that end alike go on from related states with the same answer, unless both fail. -/
theorem bind {mid : σ → σ → Prop} (h : EndsAlike action action' s t mid)
    (hfailed : ∀ s t, mid s t → post s t)
    (hnext : ∀ a s t, mid s t → EndsAlike (next a) (next' a) s t post) :
    EndsAlike (action >>= next) (action' >>= next') s t post := by
  obtain ⟨hanswer, hmid⟩ := h
  unfold EndsAlike
  rw [run_bind, run_bind]
  revert hanswer hmid
  rcases action.run s with ⟨answer, s', journal⟩
  rcases action'.run t with ⟨answer', t', journal'⟩
  rintro rfl hmid
  cases answer with
  | error e => exact ⟨rfl, hfailed s' t' hmid⟩
  | ok a => exact hnext a s' t' hmid

/-- A relation that is kept by what comes first only has to be kept by the rest. -/
theorem bind_kept (h : EndsAlike action action' s t post)
    (hnext : ∀ a s t, post s t → EndsAlike (next a) (next' a) s t post) :
    EndsAlike (action >>= next) (action' >>= next') s t post :=
  bind h (fun _ _ h => h) hnext

theorem bind_pure {f : α → β} (h : EndsAlike action action' s t post) :
    EndsAlike (action >>= fun a => Pure.pure (f a)) (action' >>= fun a => Pure.pure (f a)) s t
      post :=
  bind_kept h fun _ _ _ h => pure h

/-- Runs of which the outcomes are known can be replaced by them, whether the answers are the same
or not. -/
theorem bind_run {γ : Type} {action' : Action σ ι ε γ} {next' : γ → Action σ ι ε β} {a : α} {c : γ}
    {s' t' : σ} {journal journal' : List ι} (hrun : action.run s = ⟨.ok a, s', journal⟩)
    (hrun' : action'.run t = ⟨.ok c, t', journal'⟩)
    (h : EndsAlike (next a) (next' c) s' t' post) :
    EndsAlike (action >>= next) (action' >>= next') s t post := by
  unfold EndsAlike
  rw [run_bind, run_bind, hrun, hrun']
  exact h

theorem bind_failed {e : ε} {s' t' : σ} {journal journal' : List ι}
    (hrun : action.run s = ⟨.error e, s', journal⟩)
    (hrun' : action'.run t = ⟨.error e, t', journal'⟩) (h : post s' t') :
    EndsAlike (action >>= next) (action' >>= next') s t post := by
  unfold EndsAlike
  rw [run_bind, run_bind, hrun, hrun']
  exact ⟨rfl, h⟩

theorem bind_get {next next' : σ → Action σ ι ε β} (h : EndsAlike (next s) (next' t) s t post) :
    EndsAlike ((get : Action σ ι ε σ) >>= next) (get >>= next') s t post := h

theorem bind_set {s' t' : σ} {next next' : PUnit → Action σ ι ε β}
    (h : EndsAlike (next ⟨⟩) (next' ⟨⟩) s' t' post) :
    EndsAlike ((set s' : Action σ ι ε PUnit) >>= next) (set t' >>= next') s t post := h

theorem bind_modify {f f' : σ → σ} {next next' : PUnit → Action σ ι ε β}
    (h : EndsAlike (next ⟨⟩) (next' ⟨⟩) (f s) (f' t) post) :
    EndsAlike ((modify f : Action σ ι ε PUnit) >>= next) (modify f' >>= next') s t post := h

theorem bind_throw {e : ε} (h : post s t) :
    EndsAlike ((MonadExceptOf.throw e : Action σ ι ε α) >>= next)
      (MonadExceptOf.throw e >>= next') s t post :=
  ⟨rfl, h⟩

theorem bind_ofExcept {x : Except ε α} (h : post s t)
    (hok : ∀ a, x = .ok a → EndsAlike (next a) (next' a) s t post) :
    EndsAlike (ofExcept x >>= next) (ofExcept x >>= next') s t post := by
  cases x with
  | error e => exact ⟨rfl, h⟩
  | ok a => exact hok a rfl

theorem bind_attempt {action action' : Action σ ι δ α} {next next' : Except δ α → Action σ ι ε β}
    {mid : σ → σ → Prop} (h : EndsAlike action action' s t mid)
    (hnext : ∀ x s t, mid s t → EndsAlike (next x) (next' x) s t post) :
    EndsAlike (attempt action >>= next) (attempt action' >>= next') s t post := by
  have hgoes := hnext (action.run s).answer _ _ h.2
  show EndsAlike (next (action.run s).answer) (next' (action'.run t).answer) _ _ post
  rw [← h.1]
  exact hgoes

end Bind

/-- A loop of which every round keeps two states related. -/
theorem forM {body : α → Action σ ι ε PUnit} (xs : List α)
    (hbody : ∀ x ∈ xs, ∀ s t, post s t → EndsAlike (body x) (body x) s t post) (h : post s t) :
    EndsAlike (xs.forM body) (xs.forM body) s t post := by
  induction xs generalizing s t with
  | nil => exact ⟨rfl, h⟩
  | cons x xs ih =>
    rw [List.forall_mem_cons] at hbody
    exact bind_kept (hbody.1 s t h) fun _ _ _ h => ih hbody.2 h

/-- Two runs on a part of the state end alike on the whole. -/
theorem within {action action' : Action τ κ ε α} {get : σ → τ} {put : σ → τ → σ} {note : κ → ι}
    {mid : τ → τ → Prop} (h : EndsAlike action action' (get s) (get t) mid)
    (hput : ∀ u v, mid u v → post (put s u) (put t v)) :
    EndsAlike (action.within get put note) (action'.within get put note) s t post :=
  ⟨h.1, hput _ _ h.2⟩

theorem mapError {action action' : Action σ ι δ α} {wrap : δ → ε}
    (h : EndsAlike action action' s t post) :
    EndsAlike (action.mapError wrap) (action'.mapError wrap) s t post :=
  ⟨congrArg (Except.mapError wrap) h.1, h.2⟩

end EndsAlike

end KeyEnclave.Action
