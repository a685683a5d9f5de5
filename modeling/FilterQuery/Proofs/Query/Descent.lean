import FilterQuery.Proofs.Query.FirstMisfit
import FilterQuery.Proofs.Reading

namespace FilterQuery.Query

namespace Descent

open Grammar FilterQuery.Query.Parser

/-- The tokens that are read, the groups that are open, the comparisons that are begun and the
expressions that are still being read. Nothing that a reader does depends on the last of them. -/
structure Counters where
  position : Nat
  depth : Nat
  comparisons : Nat
  active : Nat
deriving DecidableEq, Repr

namespace Counters

def initial : Counters := ⟨0, 0, 0, 0⟩

def advance (c : Counters) : Counters := { c with position := c.position + 1 }

def count (c : Counters) : Counters := { c with comparisons := c.comparisons + 1 }

def descend (c : Counters) : Counters := { c with depth := c.depth + 1 }

def ascend (c : Counters) : Counters := { c with depth := c.depth - 1 }

def enter (c : Counters) : Counters := { c with active := c.active + 1 }

def leave (c : Counters) : Counters := { c with active := c.active - 1 }

end Counters

abbrev Reader : Type → Type := Reading (List Token) ParseError Counters

def kindAt (ts : List Token) (i : Nat) : Option Token.Kind := ts[i]?.map Token.kind

def errorAt (ts : List Token) (i : Nat) (expected : Expected) : ParseError :=
  match ts[i]? with
  | some t => ⟨t.span.start, expected, some t.kind⟩
  | none => ⟨(ts.getLast?.map fun t => t.span.stop).getD 0, expected, none⟩

def next : Reader (Option Token.Kind) := do return kindAt (← read) (← Reading.state).position

def fail {α : Type} (expected : Expected) : Reader α := do
  throw (errorAt (← read) (← Reading.state).position expected)

def advance : Reader Unit := do
  if (← next).isSome then Reading.move .advance

def expect (kind : Token.Kind) (expected : Expected) : Reader Unit := do
  if (← next) = some kind then advance else fail expected

def literal : Reader Literal := do
  match (← next).bind Token.Kind.literal? with
  | some l =>
    advance
    return l
  | none => fail .literal

def loop {α β : Type} (step : α → Reader (α ⊕ β)) (a : α) : Reader β := do
  Reading.rounds step ((← read).length + 1) a

def moreLiterals : List Literal → Reader (List Literal) :=
  loop fun ls => do
    if (← next) = some .comma then
      advance
      return .inl (ls ++ [← literal])
    else return .inr ls

def operand (op : Operator) : Reader (Operand Literal) := do
  if op.takesList then
    expect .openParen (.listOpening op)
    let ls ← moreLiterals [← literal]
    expect .closeParen .listContinuation
    return .list ls
  else if (← next) = some .openParen then fail (.singleLiteral op)
  else return .single (← literal)

def operator : Reader Operator := do
  match ← next with
  | some (.operator op) =>
    advance
    return op
  | _ => fail .operator

def comparison : Reader Predicate := do
  match ← next with
  | some (.name field) =>
    if (← Reading.state).comparisons < maxComparisons then
      Reading.move .count
      advance
      let op ← operator
      return .test ⟨field, op, ← operand op⟩
    else fail .fewerComparisons
  | _ => fail .term

inductive Connective
  | and
  | or
deriving DecidableEq, Repr

namespace Connective

def kind : Connective → Token.Kind
  | and => .and
  | or => .or

def join : Connective → Predicate → Predicate → Predicate
  | and => .and
  | or => .or

end Connective

/-- Goes on with parts that are connected, joining them to the left. -/
def moreParts (k : Connective) (part : Reader Predicate) : Predicate → Reader Predicate :=
  loop fun left => do
    if (← next) = some k.kind then
      advance
      return .inl (k.join left (← part))
    else return .inr left

def connected (k : Connective) (part : Reader Predicate) : Reader Predicate := do
  moreParts k part (← part)

def term (inner : Reader Predicate) : Reader Predicate := do
  if (← next) = some .openParen then
    if (← Reading.state).depth < maxNesting then
      advance
      Reading.move .descend
      let p ← inner
      Reading.move .ascend
      expect .closeParen .groupClosing
      return p
    else fail .shallowerNesting
  else comparison

def conjunction (inner : Reader Predicate) : Reader Predicate := connected .and (term inner)

def disjunction (inner : Reader Predicate) : Reader Predicate := connected .or (conjunction inner)

/-- An expression, with room for `n` of them inside one another. -/
def expression : Nat → Reader Predicate
  | 0 => Reading.abort
  | n + 1 => do
    Reading.move .enter
    let p ← disjunction (expression n)
    Reading.move .leave
    return p

/-- All tokens; no tokens at all ask for every record. -/
def predicate : Reader Predicate := do
  if (← read).isEmpty then return .everything
  else
    let p ← expression 33
    if (← next).isSome then fail .connectiveOrEnd else return p

/-- The answer of the parser from the state on, where `i` tokens are read. -/
def resume (s : State) (ts : List Token) (i : Nat) : Except ParseError Predicate :=
  s.run (lastStop 0 (ts.take i)) (ts.drop i)

/-- The state cannot go on with the next token, or cannot be the last one where there is none. -/
def Refuses (s : State) (x : Expected) : Option Token.Kind → Prop
  | some k => s.step k = .error x
  | none => s.finish = .error x

variable {ts : List Token} {i : Nat} {k : Token.Kind} {s s' : State}

theorem exists_getElem_of_kindAt (h : kindAt ts i = some k) : ∃ t, ts[i]? = some t ∧ t.kind = k :=
  Option.map_eq_some_iff.mp h

theorem lt_length_of_kindAt (h : kindAt ts i = some k) : i < ts.length := by
  obtain ⟨_, ht, -⟩ := exists_getElem_of_kindAt h
  exact (List.getElem?_eq_some_iff.mp ht).1

theorem resume_of_moves (h : kindAt ts i = some k) (hm : Moves s k s') :
    resume s ts i = resume s' ts (i + 1) := by
  obtain ⟨t, ht, rfl⟩ := exists_getElem_of_kindAt h
  obtain ⟨hi, rfl⟩ := List.getElem?_eq_some_iff.mp ht
  rw [resume, List.drop_eq_getElem_cons hi, State.run, step_of_moves hm, resume,
    List.take_add_one, ht, Option.toList_some, lastStop_concat]

theorem lastStop_eq (stop : Nat) (ts : List Token) :
    lastStop stop ts = (ts.getLast?.map fun t => t.span.stop).getD stop := by
  induction ts generalizing stop with
  | nil => rfl
  | cons t ts ih =>
    rw [lastStop, ih, List.getLast?_cons]
    cases ts.getLast? <;> rfl

theorem resume_congr (hs : ∀ k ∈ kindAt ts i, s.step k = s'.step k)
    (hf : s.finish = s'.finish) : resume s ts i = resume s' ts i := by
  cases ht : ts[i]? with
  | some t =>
    obtain ⟨hi, rfl⟩ := List.getElem?_eq_some_iff.mp ht
    rw [resume, resume, List.drop_eq_getElem_cons hi, State.run, State.run,
      hs _ (by simp [kindAt, ht])]
  | none =>
    rw [resume, resume, List.drop_eq_nil_of_le (List.getElem?_eq_none_iff.mp ht), State.run,
      State.run, hf]

theorem refuses_of_forall {x : Expected} {next : Option Token.Kind}
    (hs : ∀ k ∈ next, s.step k = .error x) (hf : s.finish = .error x) : Refuses s x next := by
  cases next with
  | none => exact hf
  | some k => exact hs k rfl

theorem resume_of_refuses {x : Expected} (h : Refuses s x (kindAt ts i)) :
    resume s ts i = .error (errorAt ts i x) := by
  cases ht : ts[i]? with
  | some t =>
    obtain ⟨hi, rfl⟩ := List.getElem?_eq_some_iff.mp ht
    have hs : s.step ts[i].kind = .error x := by simpa [kindAt, ht] using! h
    rw [resume, List.drop_eq_getElem_cons hi, State.run, hs, errorAt, ht]
  | none =>
    have hs : s.finish = .error x := by simpa [kindAt, ht] using! h
    have hi : ts.length ≤ i := List.getElem?_eq_none_iff.mp ht
    rw [resume, List.drop_eq_nil_of_le hi, List.take_of_length_le hi, State.run, hs, errorAt, ht,
      lastStop_eq]
    rfl

structure Counters.Within (ts : List Token) (c : Counters) : Prop where
  position_le : c.position ≤ ts.length
  depth_le : c.depth ≤ maxNesting
  comparisons_le : c.comparisons ≤ maxComparisons
  active_le : c.active ≤ c.depth + 1

def Safe (ts : List Token) (t : Tape Counters) : Prop := ∀ c ∈ t.points, c.Within ts

theorem safe_start : Safe ts (Tape.start .initial) := by
  intro c hc
  obtain rfl := List.mem_singleton.mp hc
  exact ⟨Nat.zero_le _, Nat.zero_le _, Nat.zero_le _, Nat.zero_le _⟩

variable {t t' t'' : Tape Counters} {s'' : State} {m m' n n' : Nat}

theorem Safe.move {f : Counters → Counters} (h : Safe ts t)
    (hf : t.now.Within ts → (f t.now).Within ts) : Safe ts (t.move f) :=
  List.forall_mem_cons.mpr ⟨hf (h _ t.now_mem_points), h⟩

theorem Safe.group (hd : t.now.depth < maxNesting) (h : Safe ts t) :
    Safe ts ((t.move .descend).move .enter) := by
  have hdescend : Safe ts (t.move .descend) := h.move fun hw =>
    { hw with depth_le := hd, active_le := Nat.le_succ_of_le hw.active_le }
  refine hdescend.move fun hw => { hw with active_le := ?_ }
  exact Nat.succ_le_succ (h _ t.now_mem_points).active_le

theorem Safe.leave (h : Safe ts t) : Safe ts (t.move .leave) :=
  h.move fun hw => { hw with active_le := Nat.le_trans (Nat.sub_le _ _) hw.active_le }

/-- From `t` to `t'` at least `m` tokens are read and `n` comparisons begun. Each group that is
opened is closed. -/
structure Passed (ts : List Token) (m n : Nat) (t t' : Tape Counters) : Prop where
  position_le : t.now.position + m ≤ t'.now.position
  position_le_max : t'.now.position ≤ max t.now.position ts.length
  depth_eq : t'.now.depth = t.now.depth
  active_eq : t'.now.active = t.now.active
  comparisons_eq : t'.now.comparisons = t.now.comparisons + n

namespace Passed

theorem trans (h : Passed ts m n t t') (h' : Passed ts m' n' t' t'') :
    Passed ts (m + m') (n + n') t t'' := by
  obtain ⟨hp, hp', hd, ha, hc⟩ := h
  obtain ⟨hq, hq', hd', ha', hc'⟩ := h'
  exact ⟨by omega, by omega, hd'.trans hd, ha'.trans ha, by omega⟩

theorem mono (h : Passed ts m n t t') (hm : m' ≤ m) : Passed ts m' n t t' :=
  { h with position_le := Nat.le_trans (Nat.add_le_add_left hm _) h.position_le }

theorem expression (h : Passed ts m n (t.move .enter) t') : Passed ts m n t (t'.move .leave) :=
  { h with active_eq := Nat.sub_eq_of_eq_add h.active_eq }

theorem group (h : Passed ts m n (t.move .descend) t') : Passed ts m n t (t'.move .ascend) :=
  { h with depth_eq := Nat.sub_eq_of_eq_add h.depth_eq }

end Passed

/-- From `t` to `t'` the readers have passed as the parser did, from the state `s` to `s'`. -/
structure Reaches (ts : List Token) (t : Tape Counters) (s : State) (m n : Nat)
    (t' : Tape Counters) (s' : State) : Prop extends Passed ts m n t t' where
  safe : Safe ts t → Safe ts t'
  resume_eq : resume s ts t.now.position = resume s' ts t'.now.position

/-- The reader fails as the parser does that goes on from the state `s`. -/
structure Fails (ts : List Token) (t : Tape Counters) (s : State) (e : ParseError)
    (t' : Tape Counters) : Prop where
  safe : Safe ts t → Safe ts t'
  resume_eq : resume s ts t.now.position = .error e

namespace Reaches

theorem refl : Reaches ts t s 0 0 t s :=
  ⟨⟨Nat.le_refl _, Nat.le_max_left _ _, rfl, rfl, rfl⟩, id, rfl⟩

theorem trans (h : Reaches ts t s m n t' s') (h' : Reaches ts t' s' m' n' t'' s'') :
    Reaches ts t s (m + m') (n + n') t'' s'' :=
  ⟨h.toPassed.trans h'.toPassed, h'.safe ∘ h.safe, h.resume_eq.trans h'.resume_eq⟩

theorem mono (h : Reaches ts t s m n t' s') (hm : m' ≤ m) : Reaches ts t s m' n t' s' :=
  { h with toPassed := h.toPassed.mono hm }

theorem advance (hk : kindAt ts t.now.position = some k) (hm : Moves s k s') :
    Reaches ts t s 1 0 (t.move .advance) s' := by
  have hi := lt_length_of_kindAt hk
  refine ⟨⟨Nat.le_refl _, Nat.le_trans hi (Nat.le_max_right _ _), rfl, rfl, rfl⟩, ?_,
    resume_of_moves hk hm⟩
  exact fun h => h.move fun hw => { hw with position_le := hi }

theorem count (hc : t.now.comparisons < maxComparisons) : Reaches ts t s 0 1 (t.move .count) s :=
  ⟨⟨Nat.le_refl _, Nat.le_max_left _ _, rfl, rfl, rfl⟩,
    fun h => h.move fun hw => { hw with comparisons_le := hc }, rfl⟩

/-- An expression that is read one group further in. -/
theorem group (hd : t.now.depth < maxNesting)
    (h : Reaches ts ((t.move .descend).move .enter) s m n t' s') :
    Reaches ts t s m n ((t'.move .leave).move .ascend) s' := by
  have hpassed := h.toPassed.expression.group
  refine ⟨hpassed, fun ht => ?_, h.resume_eq⟩
  refine (h.safe (ht.group hd)).leave.move fun hw => ⟨hw.position_le, ?_, hw.comparisons_le, ?_⟩
  · exact Nat.le_trans (Nat.sub_le _ _) hw.depth_le
  · have hactive := (ht _ t.now_mem_points).active_le
    rwa [← hpassed.active_eq, ← hpassed.depth_eq] at hactive

theorem fails {e : ParseError} (h : Reaches ts t s m n t' s') (h' : Fails ts t' s' e t'') :
    Fails ts t s e t'' :=
  ⟨h'.safe ∘ h.safe, h.resume_eq.trans h'.resume_eq⟩

end Reaches

theorem fails_of_refuses {x : Expected} (h : Refuses s x (kindAt ts t.now.position)) :
    Fails ts t s (errorAt ts t.now.position x) t :=
  ⟨id, resume_of_refuses h⟩

theorem Reaches.stop {x : Expected} (h : Reaches ts t s m n t' s')
    (hs : ∀ k ∈ kindAt ts t'.now.position, s'.step k = .error x) (hf : s'.finish = .error x) :
    Fails ts t s (errorAt ts t'.now.position x) t' :=
  h.fails (fails_of_refuses (refuses_of_forall hs hf))

section

variable {α β : Type} {P : α → Tape Counters → Prop} {Q : β → Tape Counters → Prop}
  {E : ParseError → Tape Counters → Prop}

open Reading

theorem meets_bind_next {g : Option Token.Kind → Reader β}
    (h : Meets (g (kindAt ts t.now.position)) ts t Q E) : Meets (next >>= g) ts t Q E :=
  meets_bind_of_returned rfl h

theorem meets_fail {x : Expected} (h : E (errorAt ts t.now.position x) t) :
    Meets (fail x : Reader α) ts t P E :=
  .rejected rfl h

theorem advance_of_kindAt (hk : kindAt ts t.now.position = some k) :
    advance ts t = some (.ok (), t.move .advance) := by
  have hnext : next ts t = some (.ok (some k), t) := by
    rw [← hk]
    rfl
  exact bind_of_returned hnext

theorem meets_advance {P : Unit → Tape Counters → Prop} (hk : kindAt ts t.now.position = some k)
    (h : P () (t.move .advance)) : Meets advance ts t P E :=
  .returned (advance_of_kindAt hk) h

theorem meets_bind_advance {g : Unit → Reader β} (hk : kindAt ts t.now.position = some k)
    (h : Meets (g ()) ts (t.move .advance) Q E) : Meets (advance >>= g) ts t Q E :=
  meets_bind_of_returned (advance_of_kindAt hk) h

theorem meets_bind_expect {x : Expected} {g : Unit → Reader β}
    (hk : kindAt ts t.now.position = some k → Meets (g ()) ts (t.move .advance) Q E)
    (hx : kindAt ts t.now.position ≠ some k → E (errorAt ts t.now.position x) t) :
    Meets (expect k x >>= g) ts t Q E := by
  have h : Meets (expect k x) ts t
      (fun _ t' => kindAt ts t.now.position = some k ∧ t' = t.move .advance) E := by
    apply meets_bind_next
    split
    · next h => exact meets_advance h ⟨h, rfl⟩
    · next h => exact meets_fail (hx h)
  refine h.bind ?_
  rintro _ _ ⟨h, rfl⟩
  exact hk h

theorem meets_bind_literal {g : Literal → Reader β}
    (hl : ∀ k l, kindAt ts t.now.position = some k → Names k l →
      Meets (g l) ts (t.move .advance) Q E)
    (hx : (∀ k ∈ kindAt ts t.now.position, k.literal? = none) →
      E (errorAt ts t.now.position .literal) t) :
    Meets (literal >>= g) ts t Q E := by
  have h : Meets literal ts t (fun l t' => ∃ k, kindAt ts t.now.position = some k ∧
      Names k l ∧ t' = t.move .advance) E := by
    apply meets_bind_next
    split
    · next l h =>
      obtain ⟨k, hk, hl⟩ := Option.bind_eq_some_iff.mp h
      exact meets_bind_advance hk (meets_pure ⟨k, hk, literal?_eq_some_iff.mp hl, rfl⟩)
    · next h =>
      refine meets_fail (hx fun k hk => ?_)
      exact Option.bind_eq_none_iff.mp h k hk
  refine h.bind ?_
  rintro l _ ⟨k, hk, hn, rfl⟩
  exact hl k l hk hn

theorem meets_bind_operator {g : Operator → Reader β}
    (ho : ∀ op, kindAt ts t.now.position = some (.operator op) →
      Meets (g op) ts (t.move .advance) Q E)
    (hx : (∀ op, kindAt ts t.now.position ≠ some (.operator op)) →
      E (errorAt ts t.now.position .operator) t) :
    Meets (operator >>= g) ts t Q E := by
  have h : Meets operator ts t (fun op t' => kindAt ts t.now.position = some (.operator op) ∧
      t' = t.move .advance) E := by
    apply meets_bind_next
    split
    · next op h => exact meets_bind_advance h (meets_pure ⟨h, rfl⟩)
    · next h => exact meets_fail (hx h)
  refine h.bind ?_
  rintro op _ ⟨h, rfl⟩
  exact ho op h

theorem meets_loop {step : α → Reader (α ⊕ β)} (inv : α → Tape Counters → Prop)
    (hstep : ∀ a t, inv a t → Meets (step a) ts t
      (fun x t' => match x with
        | .inl a' => inv a' t' ∧ ts.length - t'.now.position < ts.length - t.now.position
        | .inr b => Q b t') E)
    {a : α} (h : inv a t) : Meets (loop step a) ts t Q E := by
  rw [loop]
  apply meets_bind_read
  exact meets_rounds inv (fun t => ts.length - t.now.position) hstep h
    (Nat.lt_succ_of_le (Nat.sub_le _ _))

end

end Descent

end FilterQuery.Query
