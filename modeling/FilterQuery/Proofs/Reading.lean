
namespace FilterQuery

variable {ρ ε σ α β : Type}

/-- A state and all that it was before, the latest first. -/
structure Tape (σ : Type) where
  now : σ
  past : List σ

namespace Tape

def start (s : σ) : Tape σ := ⟨s, []⟩

def points (t : Tape σ) : List σ := t.now :: t.past

def move (f : σ → σ) (t : Tape σ) : Tape σ := ⟨f t.now, t.points⟩

@[simp] theorem now_move (f : σ → σ) (t : Tape σ) : (t.move f).now = f t.now := rfl

theorem now_mem_points (t : Tape σ) : t.now ∈ t.points := List.mem_cons_self

end Tape

/-- Where a reader returns or rejects, the tape goes on from where it stands. `none` is for a reader
that breaks off. -/
abbrev Reading (ρ ε σ : Type) : Type → Type := ReaderT ρ (ExceptT ε (StateT (Tape σ) Option))

namespace Reading

def state : Reading ρ ε σ σ := do return (← get).now

def move (f : σ → σ) : Reading ρ ε σ Unit := modify (Tape.move f)

def abort : Reading ρ ε σ α := fun _ _ => none

/-- A loop, each round of which goes on with a value or ends with a result. It breaks off where it
is not over in the given number of rounds. -/
def rounds (step : α → Reading ρ ε σ (α ⊕ β)) : Nat → α → Reading ρ ε σ β
  | 0, _ => abort
  | n + 1, a => do
    match ← step a with
    | .inl a' => rounds step n a'
    | .inr b => return b

/-- The reader comes to an end. Where it returns a value this is as the first condition says, and
where it rejects with an error as the second one says. -/
inductive Meets (f : Reading ρ ε σ α) (r : ρ) (t : Tape σ) (returns : α → Tape σ → Prop)
    (rejects : ε → Tape σ → Prop) : Prop
  | returned {x : α} {t' : Tape σ} (h : f r t = some (.ok x, t')) (hx : returns x t')
  | rejected {e : ε} {t' : Tape σ} (h : f r t = some (.error e, t')) (he : rejects e t')

section
variable {f : Reading ρ ε σ α} {g : α → Reading ρ ε σ β} {r : ρ} {t : Tape σ}
  {P : α → Tape σ → Prop} {Q : β → Tape σ → Prop} {E : ε → Tape σ → Prop}

theorem meets_pure {x : α} (h : P x t) : Meets (pure x) r t P E := .returned rfl h

theorem Meets.mono {P' : α → Tape σ → Prop} {E' : ε → Tape σ → Prop} (h : Meets f r t P E)
    (hP : ∀ x t', P x t' → P' x t') (hE : ∀ e t', E e t' → E' e t') : Meets f r t P' E' := by
  cases h with
  | returned h hx => exact .returned h (hP _ _ hx)
  | rejected h he => exact .rejected h (hE _ _ he)

theorem Meets.mono_rejects {E' : ε → Tape σ → Prop} (h : Meets f r t P E)
    (hE : ∀ e t', E e t' → E' e t') : Meets f r t P E' :=
  h.mono (fun _ _ hx => hx) hE

theorem bind_of_returned {x : α} {t' : Tape σ} (h : f r t = some (.ok x, t')) :
    (f >>= g) r t = g x r t' := by
  simp only [bind, ReaderT.bind, ExceptT.bind, ExceptT.mk, StateT.bind, h]
  rfl

theorem bind_of_rejected {e : ε} {t' : Tape σ} (h : f r t = some (.error e, t')) :
    (f >>= g) r t = some (.error e, t') := by
  simp only [bind, ReaderT.bind, ExceptT.bind, ExceptT.mk, StateT.bind, h]
  rfl

theorem bind_of_aborted (h : f r t = none) : (f >>= g) r t = none := by
  simp only [bind, ReaderT.bind, ExceptT.bind, ExceptT.mk, StateT.bind, h]
  rfl

theorem bind_read {g : ρ → Reading ρ ε σ β} : (read >>= g) r t = g r r t := rfl

theorem meets_bind_of_returned {x : α} {t' : Tape σ} (h : f r t = some (.ok x, t'))
    (hg : Meets (g x) r t' Q E) : Meets (f >>= g) r t Q E := by
  cases hg with
  | returned h' hy => exact .returned ((bind_of_returned h).trans h') hy
  | rejected h' he => exact .rejected ((bind_of_returned h).trans h') he

theorem Meets.bind (hf : Meets f r t P E) (hg : ∀ x t', P x t' → Meets (g x) r t' Q E) :
    Meets (f >>= g) r t Q E := by
  cases hf with
  | returned h hx => exact meets_bind_of_returned h (hg _ _ hx)
  | rejected h he => exact .rejected (bind_of_rejected h) he

theorem meets_bind_read {g : ρ → Reading ρ ε σ β} (h : Meets (g r) r t Q E) :
    Meets (read >>= g) r t Q E :=
  meets_bind_of_returned rfl h

theorem meets_bind_state {g : σ → Reading ρ ε σ β} (h : Meets (g t.now) r t Q E) :
    Meets (state >>= g) r t Q E :=
  meets_bind_of_returned rfl h

theorem meets_bind_move {m : σ → σ} {g : Unit → Reading ρ ε σ β}
    (h : Meets (g ()) r (t.move m) Q E) : Meets (move m >>= g) r t Q E :=
  meets_bind_of_returned rfl h

/-- A loop whose rounds keep the invariant and make the tape smaller comes to an end. -/
theorem meets_rounds {step : α → Reading ρ ε σ (α ⊕ β)} (inv : α → Tape σ → Prop)
    (size : Tape σ → Nat)
    (hstep : ∀ a t, inv a t → Meets (step a) r t
      (fun x t' => match x with
        | .inl a' => inv a' t' ∧ size t' < size t
        | .inr b => Q b t') E)
    {n : Nat} {a : α} (h : inv a t) (hn : size t < n) : Meets (rounds step n a) r t Q E := by
  induction n generalizing a t with
  | zero => cases hn
  | succ n ih =>
    refine (hstep a t h).bind fun x t' hx => ?_
    cases x with
    | inl a' => exact ih hx.1 (by omega)
    | inr b => exact meets_pure hx

theorem Meets.exists_returned (h : Meets f r t P fun _ _ => False) :
    ∃ x t', f r t = some (.ok x, t') ∧ P x t' := by
  cases h with
  | returned h hx => exact ⟨_, _, h, hx⟩
  | rejected _ he => exact he.elim

end

/-- Where the first reader does not break off, the second one comes to the same end. -/
def Approximates (f f' : Reading ρ ε σ α) : Prop := ∀ r t x, f r t = some x → f' r t = some x

namespace Approximates

variable {f f' : Reading ρ ε σ α} {g g' : α → Reading ρ ε σ β}

theorem refl : Approximates f f := fun _ _ _ h => h

theorem abort : Approximates abort f := by
  rintro _ _ _ ⟨⟩

theorem bind (hf : Approximates f f') (hg : ∀ x, Approximates (g x) (g' x)) :
    Approximates (f >>= g) (f' >>= g') := by
  intro r t y h
  cases hx : f r t with
  | none =>
    rw [bind_of_aborted hx] at h
    cases h
  | some z =>
    obtain ⟨x | x, t'⟩ := z
    · rw [bind_of_rejected hx] at h
      rwa [bind_of_rejected (hf r t _ hx)]
    · rw [bind_of_returned hx] at h
      rw [bind_of_returned (hf r t _ hx)]
      exact hg x r t' y h

theorem rounds {step step' : α → Reading ρ ε σ (α ⊕ β)}
    (h : ∀ a, Approximates (step a) (step' a)) (n : Nat) (a : α) :
    Approximates (rounds step n a) (rounds step' n a) := by
  induction n generalizing a with
  | zero => exact refl
  | succ n ih =>
    refine (h a).bind fun x => ?_
    cases x with
    | inl a' => exact ih a'
    | inr b => exact refl

end Approximates

end Reading

end FilterQuery
