/-!
# Fallible programs over a state

Straight-line programs, assertions and loops with a step bound, the relation "this run returns",
and the rules by which a property of the state is carried through a program: sequencing, loops
and iteration over a list.
-/
namespace Foundation

/-- A program over the state `σ` that may stop with a fault in `ε`. -/
abbrev Program (σ ε α : Type) := StateT σ (Except ε) α

namespace Program

variable {σ ε α β κ : Type}

/-- The current state. -/
def fetch : Program σ ε σ := fun s => .ok (s, s)

/-- A value read off the current state. -/
def reads (f : σ → α) : Program σ ε α := fun s => .ok (f s, s)

def update (f : σ → σ) : Program σ ε Unit := fun s => .ok ((), f s)

def fault (e : ε) : Program σ ε α := fun _ => .error e

/-- Stop with the fault `e` unless `c` holds. -/
def check (e : ε) (c : Prop) [Decidable c] : Program σ ε Unit := if c then pure () else fault e

/-- The value of an option, or the fault `e`. -/
def expect (e : ε) : Option α → Program σ ε α
  | some a => pure a
  | none => fault e

/-- The value of a computation that may fail, its error wrapped. -/
def ofExcept {ε' : Type} (wrap : ε' → ε) : Except ε' α → Program σ ε α
  | .ok a => pure a
  | .error e => fault (wrap e)

/-- Run a program on the part `get` of a larger state. -/
def focus {τ ε' : Type} (get : τ → σ) (put : σ → τ → τ) (wrap : ε → ε') (x : Program σ ε α) :
    Program τ ε' α := fun t =>
  match x (get t) with
  | .ok (a, s) => .ok (a, put s t)
  | .error e => .error (wrap e)

/-- Run `body` until it delivers a result, at most `fuel` times. -/
def loop (exhausted : ε) (body : κ → Program σ ε (κ ⊕ β)) : Nat → κ → Program σ ε β
  | 0, _ => fault exhausted
  | fuel + 1, k => do
      match ← body k with
      | .inl next => loop exhausted body fuel next
      | .inr result => pure result

/-- Started in `s`, the program returns `a` and leaves the state `t`. -/
def Returns (x : Program σ ε α) (s : σ) (a : α) (t : σ) : Prop := x s = .ok (a, t)

@[simp] theorem returns_pure (a b : α) (s t : σ) :
    Returns (pure a : Program σ ε α) s b t ↔ a = b ∧ s = t := by
  change Except.ok (a, s) = Except.ok (b, t) ↔ a = b ∧ s = t
  simp only [Except.ok.injEq, Prod.mk.injEq]

@[simp] theorem returns_bind (x : Program σ ε α) (f : α → Program σ ε β) (s t : σ) (b : β) :
    Returns (x >>= f) s b t ↔ ∃ a u, Returns x s a u ∧ Returns (f a) u b t := by
  simp only [Returns, bind, StateT.bind, Except.bind]
  cases first : x s with
  | error e => simp
  | ok result =>
    obtain ⟨a, u⟩ := result
    simp [Prod.ext_iff, and_assoc]

@[simp] theorem returns_map (f : α → β) (x : Program σ ε α) (s t : σ) (b : β) :
    Returns (f <$> x) s b t ↔ ∃ a, Returns x s a t ∧ f a = b := by
  rw [map_eq_pure_bind, returns_bind]
  simp only [returns_pure]
  constructor
  · rintro ⟨a, u, ran, rfl, rfl⟩
    exact ⟨a, ran, rfl⟩
  · rintro ⟨a, ran, rfl⟩
    exact ⟨a, t, ran, rfl, rfl⟩

@[simp] theorem returns_fetch (s t u : σ) :
    Returns (fetch : Program σ ε σ) s t u ↔ s = t ∧ s = u := by
  simp only [Returns, fetch, Except.ok.injEq, Prod.mk.injEq]

@[simp] theorem returns_reads (f : σ → α) (s t : σ) (a : α) :
    Returns (reads f : Program σ ε α) s a t ↔ f s = a ∧ s = t := by
  simp only [Returns, reads, Except.ok.injEq, Prod.mk.injEq]

@[simp] theorem returns_update (f : σ → σ) (s t : σ) (a : Unit) :
    Returns (update f : Program σ ε Unit) s a t ↔ f s = t := by
  simp only [Returns, update, Except.ok.injEq, Prod.mk.injEq, true_and]

@[simp] theorem returns_fault (e : ε) (s t : σ) (a : α) :
    ¬ Returns (fault e : Program σ ε α) s a t := by
  simp only [Returns, fault, reduceCtorEq, not_false_eq_true]

@[simp] theorem returns_check (e : ε) (c : Prop) [Decidable c] (s t : σ) (a : Unit) :
    Returns (check e c : Program σ ε Unit) s a t ↔ c ∧ s = t := by
  unfold check
  split <;> simp_all

@[simp] theorem returns_expect (e : ε) (o : Option α) (s t : σ) (a : α) :
    Returns (expect e o : Program σ ε α) s a t ↔ o = some a ∧ s = t := by
  cases o <;> simp [expect]

@[simp] theorem returns_ofExcept {ε' : Type} (wrap : ε' → ε) (x : Except ε' α) (s t : σ) (a : α) :
    Returns (ofExcept wrap x) s a t ↔ x = .ok a ∧ s = t := by
  cases x <;> simp [ofExcept]

@[simp] theorem returns_focus {τ ε' : Type} (get : τ → σ) (put : σ → τ → τ) (wrap : ε → ε')
    (x : Program σ ε α) (t u : τ) (a : α) :
    Returns (focus get put wrap x) t a u ↔ ∃ s, Returns x (get t) a s ∧ put s t = u := by
  simp only [Returns, focus]
  cases x (get t) with
  | error e => simp
  | ok result =>
    obtain ⟨b, s⟩ := result
    simp only [Except.ok.injEq, Prod.mk.injEq]
    constructor
    · rintro ⟨rfl, rfl⟩
      exact ⟨s, ⟨rfl, rfl⟩, rfl⟩
    · rintro ⟨_, ⟨rfl, rfl⟩, rfl⟩
      exact ⟨rfl, rfl⟩

/-- Run the program and look at the outcome. -/
def passes (x : Program σ ε α) (s : σ) (test : α → σ → Bool) : Bool :=
  match x s with
  | .ok (a, t) => test a t
  | .error _ => false

theorem returns_of_passes {x : Program σ ε α} {s : σ} (test : α → σ → Bool)
    (passed : passes x s test = true) : ∃ a t, Returns x s a t ∧ test a t = true := by
  unfold passes at passed
  split at passed
  next a t ran => exact ⟨a, t, ran, passed⟩
  next => cases passed

/-! ### Carrying a property through a program -/

/-- Whatever state in `P` the program starts from, a run that returns ends in `Q`. -/
def Triple (P : σ → Prop) (x : Program σ ε α) (Q : α → σ → Prop) : Prop :=
  ∀ s a t, P s → Returns x s a t → Q a t

/-- The property `I` of the state survives every run of the program that returns. -/
def Keeps (I : σ → Prop) (x : Program σ ε α) : Prop := Triple I x fun _ => I

variable {P : σ → Prop} {I : σ → Prop}

theorem triple_pure {Q : α → σ → Prop} (a : α) (holds : ∀ s, P s → Q a s) :
    Triple P (pure a : Program σ ε α) Q := by
  intro s b t before ran
  obtain ⟨rfl, rfl⟩ := (returns_pure a b s t).mp ran
  exact holds s before

theorem triple_bind {x : Program σ ε α} {f : α → Program σ ε β} {R : α → σ → Prop}
    {Q : β → σ → Prop} (first : Triple P x R) (rest : ∀ a, Triple (R a) (f a) Q) :
    Triple P (x >>= f) Q := by
  intro s b t before ran
  obtain ⟨a, u, head, tail⟩ := (returns_bind x f s t b).mp ran
  exact rest a u b t (first s a u before head) tail

theorem triple_weaken {x : Program σ ε α} {P' : σ → Prop} {Q Q' : α → σ → Prop}
    (run : Triple P' x Q') (pre : ∀ s, P s → P' s) (post : ∀ a s, Q' a s → Q a s) :
    Triple P x Q :=
  fun s a t before ran => post a t (run s a t (pre s before) ran)

theorem keeps_pure (a : α) : Keeps I (pure a : Program σ ε α) :=
  triple_pure a fun _ holds => holds

theorem keeps_bind {x : Program σ ε α} {f : α → Program σ ε β} (first : Keeps I x)
    (rest : ∀ a, Keeps I (f a)) : Keeps I (x >>= f) :=
  triple_bind first rest

/-- What is kept separately is kept together. -/
theorem keeps_and {x : Program σ ε α} {J : σ → Prop} (first : Keeps I x) (second : Keeps J x) :
    Keeps (fun s => I s ∧ J s) x :=
  fun s a t before ran => ⟨first s a t before.1 ran, second s a t before.2 ran⟩

theorem keeps_fetch : Keeps I (fetch : Program σ ε σ) := by
  intro s a t before ran
  obtain ⟨-, rfl⟩ := (returns_fetch s a t).mp ran
  exact before

theorem keeps_reads (f : σ → α) : Keeps I (reads f : Program σ ε α) := by
  intro s a t before ran
  obtain ⟨-, rfl⟩ := (returns_reads f s t a).mp ran
  exact before

theorem keeps_update {f : σ → σ} (step : ∀ s, I s → I (f s)) :
    Keeps I (update f : Program σ ε Unit) := by
  intro s a t before ran
  obtain rfl := (returns_update f s t a).mp ran
  exact step s before

theorem keeps_fault (e : ε) : Keeps I (fault e : Program σ ε α) :=
  fun s a t _ ran => absurd ran (returns_fault e s t a)

theorem keeps_check (e : ε) (c : Prop) [Decidable c] : Keeps I (check e c : Program σ ε Unit) := by
  intro s a t before ran
  obtain ⟨-, rfl⟩ := (returns_check e c s t a).mp ran
  exact before

theorem keeps_expect (e : ε) (o : Option α) : Keeps I (expect e o : Program σ ε α) := by
  intro s a t before ran
  obtain ⟨-, rfl⟩ := (returns_expect e o s t a).mp ran
  exact before

theorem keeps_ite {c : Prop} [Decidable c] {x y : Program σ ε α} (yes : Keeps I x)
    (no : Keeps I y) : Keeps I (if c then x else y) := by
  split
  · exact yes
  · exact no

/-- The invariant rule for loops: what each round keeps, the whole loop keeps. -/
theorem loop_rule {exhausted : ε} {body : κ → Program σ ε (κ ⊕ β)} (J : κ → σ → Prop)
    (Q : β → σ → Prop)
    (round : ∀ k, Triple (J k) (body k) fun r t => Sum.elim (fun next => J next t) (Q · t) r) :
    ∀ fuel k, Triple (J k) (loop exhausted body fuel k) Q := by
  intro fuel
  induction fuel with
  | zero =>
    intro k s b t _ ran
    exact absurd ran (returns_fault exhausted s t b)
  | succ fuel ih =>
    intro k s b t before ran
    simp only [loop, returns_bind] at ran
    obtain ⟨r, u, once, rest⟩ := ran
    have kept := round k s r u before once
    cases r with
    | inl next => exact ih next u b t kept rest
    | inr result =>
      obtain ⟨rfl, rfl⟩ := (returns_pure result b u t).mp rest
      exact kept

theorem keeps_loop {exhausted : ε} {body : κ → Program σ ε (κ ⊕ β)} (fuel : Nat) (k : κ)
    (round : ∀ k, Keeps I (body k)) : Keeps I (loop exhausted body fuel k) := by
  refine loop_rule (fun _ => I) (fun _ => I) (fun k => ?_) fuel k
  intro s r t before ran
  have kept := round k s r t before ran
  cases r <;> exact kept

/-- What each step of an iteration keeps, the whole iteration keeps. -/
theorem keeps_forM {α : Type} {list : List α} {body : α → Program σ ε PUnit}
    (each : ∀ a, Keeps I (body a)) : Keeps I (list.forM body) := by
  induction list with
  | nil => exact keeps_pure _
  | cons first rest ih => exact keeps_bind (each first) fun _ => ih

/-- Started in `s`, the program returns, with an outcome in `Q`. -/
def Succeeds (x : Program σ ε α) (s : σ) (Q : α → σ → Prop) : Prop := ∃ a t, Returns x s a t ∧ Q a t

section Succeeds

variable {s : σ}

/-- What is known of every run that returns is known of this one. -/
theorem Succeeds.and {x : Program σ ε α} {Q R : α → σ → Prop} (run : Succeeds x s Q)
    (every : Triple P x R) (before : P s) : Succeeds x s fun a t => Q a t ∧ R a t := by
  obtain ⟨a, t, ran, holds⟩ := run
  exact ⟨a, t, ran, holds, every s a t before ran⟩

theorem Succeeds.mono {x : Program σ ε α} {Q R : α → σ → Prop} (run : Succeeds x s Q)
    (post : ∀ a t, Q a t → R a t) : Succeeds x s R := by
  obtain ⟨a, t, ran, holds⟩ := run
  exact ⟨a, t, ran, post a t holds⟩

end Succeeds

/-! ### Faults a program never stops with -/

/-- No run of the program stops with `e`. -/
def Never (e : ε) (x : Program σ ε α) : Prop := ∀ s, x s ≠ .error e

section Never

variable {e : ε}

theorem never_pure (a : α) : Never e (pure a : Program σ ε α) :=
  fun _ failed => nomatch failed

theorem never_bind {x : Program σ ε α} {f : α → Program σ ε β} (first : Never e x)
    (rest : ∀ a, Never e (f a)) : Never e (x >>= f) := by
  intro s failed
  simp only [bind, StateT.bind, Except.bind] at failed
  cases ran : x s with
  | error e' =>
    rw [ran] at failed
    obtain rfl := Except.error.inj failed
    exact first s ran
  | ok result =>
    rw [ran] at failed
    exact rest result.1 result.2 failed

theorem never_fetch : Never e (fetch : Program σ ε σ) := fun _ failed => nomatch failed

theorem never_reads (f : σ → α) : Never e (reads f : Program σ ε α) := fun _ failed => nomatch failed

theorem never_update (f : σ → σ) : Never e (update f : Program σ ε Unit) :=
  fun _ failed => nomatch failed

theorem never_check {e' : ε} (other : e' ≠ e) (c : Prop) [Decidable c] :
    Never e (check e' c : Program σ ε Unit) := by
  intro s failed
  unfold check at failed
  split at failed
  · nomatch failed
  · exact other (Except.error.inj failed)

theorem never_expect {e' : ε} (other : e' ≠ e) (o : Option α) :
    Never e (expect e' o : Program σ ε α) := by
  intro s failed
  cases o with
  | some a => nomatch failed
  | none => exact other (Except.error.inj failed)

theorem never_ite {c : Prop} [Decidable c] {x y : Program σ ε α} (yes : Never e x)
    (no : Never e y) : Never e (if c then x else y) := by
  split
  · exact yes
  · exact no

end Never

end Program

end Foundation
