import FilterQuery.Proofs.Paging.Exact
import FilterQuery.Proofs.Session.Lines

namespace FilterQuery

namespace Session

variable {s s' : Session} {line : String} {earlier later lines : List String}

/-- The session once the lines have been answered, if none of them ends it. -/
def after (s : Session) : List String → Option Session
  | [] => some s
  | line :: lines => (s.step line).bind fun answered => answered.2.bind fun s => s.after lines

def GoesOn (c : Config) (line : String) : Prop := ¬ Quits line ∧ ¬ Overflows c line

theorem run_append (h : s.after earlier = some s') (later : List String) :
    s.run (earlier ++ later) =
      ⟨(s.run earlier).answers ++ (s'.run later).answers, (s'.run later).broken⟩ := by
  induction earlier generalizing s with
  | nil =>
    cases h
    rfl
  | cons line earlier ih =>
    rw [after] at h
    obtain ⟨⟨answer, next⟩, hstep, h⟩ := Option.bind_eq_some_iff.mp h
    obtain ⟨next, rfl, hnext⟩ := Option.bind_eq_some_iff.mp h
    simp only [List.cons_append, run, hstep, ih hnext]

/-- What stands at the marked places. -/
def marked {α : Type} : List Bool → List α → List α
  | true :: marks, x :: xs => x :: marked marks xs
  | false :: marks, _ :: xs => marked marks xs
  | _, _ => []

end Session

end FilterQuery
