import Mathlib.Logic.Basic

/-!
# Results of programs

`Ensures p x` says of a program `x` in any monad that its result satisfies `p`. What `x` does
besides giving a result, keep a state or fail, does not matter, so the rules are the same for hosts
that answer in a monad of their own, for readers of texts and for parsers of tokens.
-/

namespace BannerGen

/-- Whatever `x` does, its result satisfies `p`: functions that agree where `p` holds agree on the
result of `x`. -/
def Ensures {m : Type → Type} [Monad m] {α : Type} (p : α → Prop) (x : m α) : Prop :=
  ∀ ⦃β : Type⦄ (f g : α → β), (∀ a, p a → f a = g a) → f <$> x = g <$> x

namespace Ensures

variable {m : Type → Type} [Monad m] {α β : Type} {p : α → Prop} {q : β → Prop}

theorem trivially (x : m α) : Ensures (fun _ => True) x := by
  intro γ f g hfg
  rw [funext fun a => hfg a trivial]

theorem imp {x : m α} {r : α → Prop} (h : Ensures p x) (hpr : ∀ a, p a → r a) : Ensures r x := by
  intro γ f g hfg
  exact h f g fun a ha => hfg a (hpr a ha)

variable [LawfulMonad m]

theorem pure {a : α} (h : p a) : Ensures p (Pure.pure a : m α) := by
  intro γ f g hfg
  rw [map_pure, map_pure, hfg a h]

theorem bind {x : m α} {k : α → m β} (hx : Ensures p x) (hk : ∀ a, p a → Ensures q (k a)) :
    Ensures q (x >>= k) := by
  intro γ f g hfg
  -- A continuation that has effects of its own is a function whose values are programs.
  have hjoin : ∀ next : α → m γ, x >>= next = (next <$> x) >>= id := by
    intro next
    rw [bind_map_left]
    rfl
  rw [map_bind, map_bind, hjoin, hjoin, hx _ _ fun a ha => hk a ha f g hfg]

theorem map {x : m α} {f : α → β} (hx : Ensures p x) (h : ∀ a, p a → q (f a)) :
    Ensures q (f <$> x) := by
  rw [map_eq_pure_bind]
  exact hx.bind fun a ha => pure (h a ha)

/-- What every step of a fold keeps holds at its end. -/
theorem foldlM {step : β → α → m β} {l : List α} {b : β} (hb : q b)
    (hstep : ∀ b, q b → ∀ a ∈ l, Ensures q (step b a)) : Ensures q (l.foldlM step b) := by
  induction l generalizing b with
  | nil => exact pure hb
  | cons a l ih =>
    rw [List.foldlM_cons]
    refine bind (hstep b hb a List.mem_cons_self) ?_
    intro c hc
    exact ih hc fun b hb a ha => hstep b hb a (List.mem_cons_of_mem _ ha)

end Ensures

section Effects

variable {α σ : Type} {p : α → Prop}

/-- Without effects, the result satisfies `p`. -/
theorem ensures_id_iff {x : Id α} : Ensures p x ↔ p x.run := by
  constructor
  · intro h
    exact cast (h p (fun _ => True) fun a ha => eq_true ha).symm trivial
  · intro h
    exact .pure h

/-- With a state, the result from every state satisfies `p`. -/
theorem ensures_state_iff {x : StateM σ α} : Ensures p x ↔ ∀ s, p (x.run s).1 := by
  constructor
  · intro h s
    have heq := h p (fun _ => True) fun a ha => eq_true ha
    exact cast (congrArg (fun y : StateM σ Prop => (y.run s).1) heq).symm trivial
  · intro h γ f g hfg
    funext s
    exact congrArg (·, (x.run s).2) (hfg _ (h s))

/-- Without a result there is nothing to ensure. -/
theorem ensures_option_iff {x : Option α} : Ensures p x ↔ ∀ a, x = some a → p a := by
  cases x with
  | none => simp [Ensures]
  | some b =>
    constructor
    · intro h a ha
      cases ha
      exact cast (Option.some.inj (h p (fun _ => True) fun a ha => eq_true ha)).symm trivial
    · intro h
      exact .pure (h b rfl)

/-- With a state, the result from every state satisfies `p`, whatever else is done. -/
theorem ensures_stateT_iff {m : Type → Type} [Monad m] [LawfulMonad m] {x : StateT σ m α} :
    Ensures p x ↔ ∀ s, Ensures (fun r => p r.1) (x.run s) := by
  constructor
  · intro h s γ f g hfg
    -- The functions are applied to the state only after the program has run.
    have heq := h (fun a t => f (a, t)) (fun a t => g (a, t))
      fun a ha => funext fun t => hfg (a, t) ha
    have happly := congrArg (fun y : StateT σ m (σ → γ) => (fun r => r.1 r.2) <$> y.run s) heq
    simpa [StateT.run_map] using happly
  · intro h γ f g hfg
    refine StateT.ext fun s => ?_
    rw [StateT.run_map, StateT.run_map]
    exact h s _ _ fun r hr => by rw [hfg r.1 hr]

end Effects

end BannerGen
