import Zjit.Foundation.Program

/-!
# Scripts over an instruction set

A script is a program whose only contact with the state is a fixed set of instructions. What
every instruction keeps, every script keeps, whatever it computes from their answers.
-/
namespace Foundation

/-- A tree of instructions from `F`, each continued by its answer. -/
inductive Script (F : Type → Type) (ε α : Type) : Type 1
  | done (a : α)
  | stop (e : ε)
  | step {β : Type} (op : F β) (next : β → Script F ε α)

namespace Script

variable {F G : Type → Type} {σ ε α β κ : Type}

def bind : Script F ε α → (α → Script F ε β) → Script F ε β
  | done a, rest => rest a
  | stop e, _ => stop e
  | step op next, rest => step op fun answer => (next answer).bind rest

instance : Monad (Script F ε) where
  pure := done
  bind := bind

/-- A single instruction. -/
def perform (op : F α) : Script F ε α := step op done

def fault (e : ε) : Script F ε α := stop e

/-- Run `body` until it delivers a result, at most `fuel` times. -/
def loop (exhausted : ε) (body : κ → Script F ε (κ ⊕ β)) : Nat → κ → Script F ε β
  | 0, _ => fault exhausted
  | fuel + 1, k => do
      match ← body k with
      | .inl next => loop exhausted body fuel next
      | .inr result => pure result

/-- The script over a larger instruction set. -/
def embed (inject : ∀ {β}, F β → G β) : Script F ε α → Script G ε α
  | done a => done a
  | stop e => stop e
  | step op next => step (inject op) fun answer => (next answer).embed inject

/-- Carry out a script, its instructions by `handle`. -/
def run (handle : ∀ {β}, F β → Program σ ε β) : Script F ε α → Program σ ε α
  | done a => pure a
  | stop e => Program.fault e
  | step op next => do
    let answer ← handle op
    (next answer).run handle

variable (handle : ∀ {β}, F β → Program σ ε β)

@[simp] theorem returns_run_pure (a b : α) (s t : σ) :
    Program.Returns ((pure a : Script F ε α).run handle) s b t ↔ a = b ∧ s = t :=
  Program.returns_pure a b s t

@[simp] theorem returns_run_perform (op : F α) (s t : σ) (a : α) :
    Program.Returns ((perform op : Script F ε α).run handle) s a t ↔
      Program.Returns (handle op) s a t := by
  simp only [perform, run, Program.returns_bind, Program.returns_pure]
  constructor
  · rintro ⟨_, _, ran, rfl, rfl⟩
    exact ran
  · exact fun ran => ⟨a, t, ran, rfl, rfl⟩

theorem run_bind (x : Script F ε α) (rest : α → Script F ε β) :
    (x >>= rest).run handle = x.run handle >>= fun a => (rest a).run handle := by
  induction x with
  | done a => rfl
  | stop e => rfl
  | step op next ih =>
    change (handle op >>= fun answer => (next answer >>= rest).run handle) =
      (handle op >>= fun answer => (next answer).run handle) >>= fun a => (rest a).run handle
    simp only [ih, bind_assoc]

/-- A script over a larger instruction set does what it did. -/
theorem run_embed (handle : ∀ {β}, G β → Program σ ε β) (inject : ∀ {β}, F β → G β) (x : Script F ε α) :
    (x.embed inject).run handle = x.run fun op => handle (inject op) := by
  induction x with
  | done a => rfl
  | stop e => rfl
  | step op next ih =>
    change (handle (inject op) >>= fun answer => ((next answer).embed inject).run handle) =
      handle (inject op) >>= fun answer => (next answer).run fun op => handle (inject op)
    simp only [ih]

@[simp] theorem returns_run_bind (x : Script F ε α) (rest : α → Script F ε β) (s t : σ) (b : β) :
    Program.Returns ((x >>= rest).run handle) s b t ↔
      ∃ a u, Program.Returns (x.run handle) s a u ∧
        Program.Returns ((rest a).run handle) u b t := by
  rw [run_bind, Program.returns_bind]

/-- A property kept by every instruction is kept by every script. -/
theorem keeps_run {I : σ → Prop} (each : ∀ {β} (op : F β), Program.Keeps I (handle op))
    (x : Script F ε α) : Program.Keeps I (x.run handle) := by
  induction x with
  | done a => exact Program.keeps_pure a
  | stop e => exact Program.keeps_fault e
  | step op next ih => exact Program.keeps_bind (each op) ih

/-- What each round of a loop keeps, the loop keeps. -/
theorem triple_loop {exhausted : ε} {body : κ → Script F ε (κ ⊕ β)} (J : κ → σ → Prop)
    (Q : β → σ → Prop)
    (round : ∀ k, Program.Triple (J k) ((body k).run handle) fun r t =>
      Sum.elim (fun next => J next t) (Q · t) r) :
    ∀ fuel k, Program.Triple (J k) ((loop exhausted body fuel k).run handle) Q := by
  intro fuel
  induction fuel with
  | zero =>
    intro k s b t _ ran
    exact absurd ran (Program.returns_fault exhausted s t b)
  | succ fuel ih =>
    intro k s b t before ran
    obtain ⟨r, u, once, rest⟩ := (returns_run_bind ..).mp ran
    have kept := round k s r u before once
    cases r with
    | inl next => exact ih next u b t kept rest
    | inr result =>
      obtain ⟨rfl, rfl⟩ := (returns_run_pure ..).mp rest
      exact kept

/-! ### Faults a script cannot stop with -/

/-- No branch of the script itself stops with `e`. -/
def Avoids (e : ε) : Script F ε α → Prop
  | done _ => True
  | stop e' => e' ≠ e
  | step _ next => ∀ answer, (next answer).Avoids e

/-- Some branch of the script delivers `a`. -/
def Yields : Script F ε α → α → Prop
  | done b, a => b = a
  | stop _, _ => False
  | step _ next, a => ∃ answer, (next answer).Yields a

@[simp] theorem yields_pure (a b : α) : Yields (pure a : Script F ε α) b ↔ a = b := Iff.rfl

@[simp] theorem yields_bind (x : Script F ε α) (rest : α → Script F ε β) (b : β) :
    (x >>= rest).Yields b ↔ ∃ a, x.Yields a ∧ (rest a).Yields b := by
  induction x with
  | done a =>
    change (rest a).Yields b ↔ ∃ a', a = a' ∧ (rest a').Yields b
    simp only [exists_eq_left']
  | stop e =>
    change False ↔ ∃ a, False ∧ (rest a).Yields b
    simp only [false_and, exists_false]
  | step op next ih =>
    change (∃ answer, (next answer >>= rest).Yields b) ↔
      ∃ a, (∃ answer, (next answer).Yields a) ∧ (rest a).Yields b
    simp only [ih]
    constructor
    · rintro ⟨answer, a, first, last⟩
      exact ⟨a, ⟨answer, first⟩, last⟩
    · rintro ⟨a, ⟨answer, first⟩, last⟩
      exact ⟨answer, a, first, last⟩

/-- What a run returns, some branch delivers. -/
theorem yields_of_returns {x : Script F ε α} {s t : σ} {a : α}
    (ran : Program.Returns (x.run handle) s a t) : x.Yields a := by
  induction x generalizing s with
  | done b => exact ((Program.returns_pure b a s t).mp ran).1
  | stop e => exact absurd ran (Program.returns_fault e s t a)
  | step op next ih =>
    obtain ⟨answer, u, -, rest⟩ := (Program.returns_bind ..).mp ran
    exact ⟨answer, ih answer rest⟩

@[simp] theorem avoids_pure (e : ε) (a : α) : Avoids e (pure a : Script F ε α) := trivial

@[simp] theorem avoids_perform (e : ε) (op : F α) : Avoids e (perform op) := fun _ => trivial

@[simp] theorem avoids_fault (e e' : ε) : Avoids e (fault e' : Script F ε α) ↔ e' ≠ e := Iff.rfl

@[simp] theorem avoids_bind (e : ε) (x : Script F ε α) (rest : α → Script F ε β) :
    (x >>= rest).Avoids e ↔ x.Avoids e ∧ ∀ a, x.Yields a → (rest a).Avoids e := by
  induction x with
  | done a =>
    change (rest a).Avoids e ↔ True ∧ ∀ b, a = b → (rest b).Avoids e
    simp only [true_and, forall_eq']
  | stop e' =>
    change e' ≠ e ↔ e' ≠ e ∧ ∀ b, False → (rest b).Avoids e
    simp only [false_imp_iff, implies_true, and_true]
  | step op next ih =>
    change (∀ answer, (next answer >>= rest).Avoids e) ↔
      (∀ answer, (next answer).Avoids e) ∧
        ∀ b, (∃ answer, (next answer).Yields b) → (rest b).Avoids e
    simp only [ih]
    constructor
    · intro both
      exact ⟨fun answer => (both answer).1, fun b ⟨answer, yields⟩ => (both answer).2 b yields⟩
    · rintro ⟨first, later⟩ answer
      exact ⟨first answer, fun b yields => later b ⟨answer, yields⟩⟩

@[simp] theorem avoids_ite {c : Prop} [Decidable c] (e : ε) (x y : Script F ε α) :
    (if c then x else y).Avoids e ↔ (c → x.Avoids e) ∧ (¬ c → y.Avoids e) := by
  split <;> simp [*]

@[simp] theorem avoids_map (e : ε) (f : α → β) (x : Script F ε α) :
    (f <$> x).Avoids e ↔ x.Avoids e := by
  change (x >>= fun a => pure (f a)).Avoids e ↔ x.Avoids e
  simp only [avoids_bind, avoids_pure, implies_true, and_true]

/-- If no instruction stops with `e` either, no run of the script does. -/
theorem never_run {e : ε} (each : ∀ {β} (op : F β), Program.Never e (handle op))
    {x : Script F ε α} (avoids : x.Avoids e) : Program.Never e (x.run handle) := by
  induction x with
  | done a => exact Program.never_pure a
  | stop e' => exact fun s failed => avoids (Except.error.inj failed)
  | step op next ih => exact Program.never_bind (each op) fun answer => ih answer (avoids answer)

end Script

end Foundation
