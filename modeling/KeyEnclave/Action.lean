/-!
# Actions

An action works on a state, may fail, and keeps a journal of its exchanges with collaborators. A
failed action keeps what it did to the state before it failed, and what it exchanged.

## Main definitions

* `Outcome` — the answer of an action, the state it left and its journal.
* `Action` — actions, a monad with state and errors.
* `Action.attempt` — run an action and go on with its answer, failed or not.
* `Action.perform` — do what cannot fail; `Action.ask` — one exchange with a collaborator.
* `Action.within` — run an action on a part of the state.
* `Action.Keeps`, `Action.Notes` — an invariant of the state; a property of every exchange.

## Design notes

The journal is not part of the state, so two states are equal when everything that later answers
depend on is equal.
-/

namespace KeyEnclave

/-- What an action leaves behind. -/
structure Outcome (σ ι ε α : Type) where
  answer : Except ε α
  state : σ
  /-- The exchanges in the order in which they happened. -/
  journal : List ι

/-- An action on `σ` that exchanges `ι`, fails with `ε` and answers with `α`. -/
def Action (σ ι ε α : Type) : Type := σ → Outcome σ ι ε α

namespace Action

variable {σ τ ι κ ε δ α β : Type}

/-- What an action does to a state. -/
def run (action : Action σ ι ε α) (s : σ) : Outcome σ ι ε α := action s

/-- Answer without doing anything. -/
def answer (a : α) : Action σ ι ε α := fun s => ⟨.ok a, s, []⟩

/-- Fail without doing anything. -/
def fail (e : ε) : Action σ ι ε α := fun s => ⟨.error e, s, []⟩

/-- Run `next` on the answer of `action`, unless `action` fails. -/
def andThen (action : Action σ ι ε α) (next : α → Action σ ι ε β) : Action σ ι ε β := fun s =>
  match action s with
  | ⟨.ok a, s, journal⟩ =>
    let outcome := next a s
    { outcome with journal := journal ++ outcome.journal }
  | ⟨.error e, s, journal⟩ => ⟨.error e, s, journal⟩

instance : Monad (Action σ ι ε) where
  pure := answer
  bind := andThen

instance : MonadExceptOf ε (Action σ ι ε) where
  throw := fail
  tryCatch action handler := fun s =>
    match action s with
    | ⟨.ok a, s, journal⟩ => ⟨.ok a, s, journal⟩
    | ⟨.error e, s, journal⟩ =>
      let outcome := handler e s
      { outcome with journal := journal ++ outcome.journal }

instance : MonadStateOf σ (Action σ ι ε) where
  get := fun s => ⟨.ok s, s, []⟩
  set s := fun _ => ⟨.ok (), s, []⟩
  modifyGet f := fun s => ⟨.ok (f s).1, (f s).2, []⟩

/-- Answer or fail with an outcome that is already known. -/
def ofExcept : Except ε α → Action σ ι ε α
  | .ok a => answer a
  | .error e => fail e

/-- Run an action and answer with its own answer, failed or not. -/
def attempt (action : Action σ ι δ α) : Action σ ι ε (Except δ α) := fun s =>
  let outcome := action s
  ⟨.ok outcome.answer, outcome.state, outcome.journal⟩

/-- Fail as `action` does, but with the error that `wrap` makes of its error. -/
def mapError (wrap : δ → ε) (action : Action σ ι δ α) : Action σ ι ε α := fun s =>
  let outcome := action s
  ⟨outcome.answer.mapError wrap, outcome.state, outcome.journal⟩

/-- Do what cannot fail: answer, go to another state and note exchanges. -/
def perform (f : σ → α × σ × List ι) : Action σ ι ε α := fun s =>
  let (a, s, journal) := f s
  ⟨.ok a, s, journal⟩

/-- One exchange: the collaborator `get s` serves an operation, and `note` says what the operation
and its reply are called in the journal. -/
def ask {Op : Type} {Reply : Op → Type} (get : σ → τ) (put : σ → τ → σ)
    (serve : (op : Op) → τ → Reply op × τ) (note : (op : Op) × Reply op → ι) (op : Op) :
    Action σ ι ε (Reply op) :=
  perform fun s =>
    let (reply, t) := serve op (get s)
    (reply, put s t, [note ⟨op, reply⟩])

/-- Run an action on the part `get s` of the state; `note` says what its exchanges are called in
the journal of the whole. -/
def within (get : σ → τ) (put : σ → τ → σ) (note : κ → ι) (action : Action τ κ ε α) :
    Action σ ι ε α := fun s =>
  let outcome := action (get s)
  ⟨outcome.answer, put s outcome.state, outcome.journal.map note⟩

@[simp] theorem run_pure (a : α) (s : σ) : (pure a : Action σ ι ε α).run s = ⟨.ok a, s, []⟩ := rfl

@[simp] theorem run_throw (e : ε) (s : σ) :
    (throw e : Action σ ι ε α).run s = ⟨.error e, s, []⟩ := rfl

@[simp] theorem run_get (s : σ) : (get : Action σ ι ε σ).run s = ⟨.ok s, s, []⟩ := rfl

@[simp] theorem run_set (s t : σ) : (set t : Action σ ι ε PUnit).run s = ⟨.ok (), t, []⟩ := rfl

@[simp] theorem run_modify (f : σ → σ) (s : σ) :
    (modify f : Action σ ι ε PUnit).run s = ⟨.ok (), f s, []⟩ := rfl

theorem run_bind (action : Action σ ι ε α) (next : α → Action σ ι ε β) (s : σ) :
    (action >>= next).run s =
      match action.run s with
      | ⟨.ok a, s, journal⟩ =>
        let outcome := (next a).run s
        { outcome with journal := journal ++ outcome.journal }
      | ⟨.error e, s, journal⟩ => ⟨.error e, s, journal⟩ := rfl

/-- An action keeps `P` when it leads from every state with `P` to a state with `P`, failed or
not. -/
def Keeps (P : σ → Prop) (action : Action σ ι ε α) : Prop := ∀ s, P s → P (action.run s).state

/-- An action notes only exchanges with `Q` when started in a state with `P`. -/
def Notes (P : σ → Prop) (Q : ι → Prop) (action : Action σ ι ε α) : Prop :=
  ∀ s, P s → ∀ i ∈ (action.run s).journal, Q i

theorem Keeps.bind {P : σ → Prop} {action : Action σ ι ε α} {next : α → Action σ ι ε β}
    (hm : Keeps P action) (hf : ∀ a, Keeps P (next a)) : Keeps P (action >>= next) := by
  intro s hs
  have h := hm s hs
  rw [run_bind]
  split
  · next a t j heq =>
    rw [heq] at h
    exact hf a t h
  · next e t j heq =>
    rw [heq] at h
    exact h

theorem Notes.bind {P : σ → Prop} {Q : ι → Prop} {action : Action σ ι ε α}
    {next : α → Action σ ι ε β} (hk : Keeps P action) (hm : Notes P Q action)
    (hf : ∀ a, Notes P Q (next a)) : Notes P Q (action >>= next) := by
  intro s hs i hi
  have hstate := hk s hs
  have hnotes := hm s hs
  rw [run_bind] at hi
  split at hi
  · next a t j heq =>
    rw [heq] at hstate hnotes
    rcases List.mem_append.mp hi with h | h
    · exact hnotes i h
    · exact hf a t hstate i h
  · next e t j heq =>
    rw [heq] at hnotes
    exact hnotes i hi

end Action

end KeyEnclave
