import Mathlib.Computability.StateTransition

/-!
# Machines that meet

Two deterministic machines of which neither follows the other step by step. From related states
either both have stopped or both come to related states again, each in as many steps as it takes.
Then they end alike: one comes to its end exactly when the other does.
-/
namespace Foundation

open StateTransition

variable {σ τ ρ : Type*} {f : σ → Option σ} {g : τ → Option τ} {R : σ → τ → Prop}

/-- Related states have both stopped, or both go on to related states. -/
def Meets (f : σ → Option σ) (g : τ → Option τ) (R : σ → τ → Prop) : Prop :=
  ∀ a b, R a b →
    (f a = none ∧ g b = none) ∨ ∃ a' b', Reaches₁ f a a' ∧ Reaches₁ g b b' ∧ R a' b'

theorem Meets.flip (meets : Meets f g R) : Meets g f fun b a => R a b := by
  intro b a related
  rcases meets a b related with ⟨stopped, stopped'⟩ | ⟨a', b', first, second, related'⟩
  · exact .inl ⟨stopped', stopped⟩
  · exact .inr ⟨b', a', second, first, related'⟩

/-- Where one machine ends, the other ends in a related state. -/
theorem Meets.ends (meets : Meets f g R) {a c : σ} {b : τ} (related : R a b)
    (ended : c ∈ eval f a) : ∃ d ∈ eval g b, R c d := by
  -- The induction is over all states on the way, as a meeting skips some of them.
  refine evalInduction (C := fun a => ∀ a' b, Reaches f a a' → R a' b → ∃ d ∈ eval g b, R c d)
    ended (fun a ended ih a' b reached related => ?_) a b Relation.ReflTransGen.refl related
  rcases Relation.ReflTransGen.cases_head reached with rfl | ⟨x, first, rest⟩
  · rcases meets a b related with ⟨stopped, stopped'⟩ | ⟨a', b', going, going', related'⟩
    · obtain rfl : a = c :=
        Part.mem_unique (mem_eval.mpr ⟨Relation.ReflTransGen.refl, stopped⟩) ended
      exact ⟨b, mem_eval.mpr ⟨Relation.ReflTransGen.refl, stopped'⟩, related⟩
    · obtain ⟨x, first, rest⟩ := Relation.TransGen.head'_iff.mp going
      rw [reaches_eval going'.to_reflTransGen]
      exact ih x first a' b' rest related'
  · exact ih x first a' b rest related

/-- Machines over the same states that meet end in the same state, or neither ends. -/
theorem Meets.eval_eq {f g : σ → Option σ} {R : σ → σ → Prop} (meets : Meets f g R)
    (same : ∀ a b, R a b → f a = none → g b = none → a = b) {a b : σ} (related : R a b) :
    eval f a = eval g b := by
  ext c
  constructor
  · intro ended
    obtain ⟨d, ended', related'⟩ := meets.ends related ended
    obtain rfl := same c d related' (mem_eval.mp ended).2 (mem_eval.mp ended').2
    exact ended'
  · intro ended
    obtain ⟨d, ended', related'⟩ := meets.flip.ends related ended
    obtain rfl := same d c related' (mem_eval.mp ended').2 (mem_eval.mp ended).2
    exact ended'

end Foundation
