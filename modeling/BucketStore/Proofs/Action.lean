import BucketStore.World
import Mathlib.Order.Defs.Unbundled

/-!
Runs of actions: one equation for each way of composing them, and relations between the worlds
before and after a run that composition keeps.
-/

namespace BucketStore

namespace Result

variable {ε ε' α β : Type}

/-- A computation without a world that comes to its end has come to the end of both parts. -/
theorem bind_eq_ok {a : Except ε α} {f : α → Except ε β} {y : β}
    (ended : (a >>= f) = .ok y) : ∃ x, a = .ok x ∧ f x = .ok y := by
  cases a with
  | error e => cases ended
  | ok x => exact ⟨x, rfl, ended⟩

theorem map_eq_ok {a : Except ε α} {f : α → β} {y : β} (ended : a.map f = .ok y) :
    ∃ x, a = .ok x ∧ f x = y := by
  cases a with
  | error e => cases ended
  | ok x => exact ⟨x, rfl, Except.ok.inj ended⟩

theorem of_mapError {a : Except ε α} {f : ε → ε'} {x : α} (ended : a.mapError f = .ok x) :
    a = .ok x := by
  cases a with
  | error e => cases ended
  | ok y => exact congrArg _ (Except.ok.inj ended)

theorem of_mapError_error {a : Except ε α} {f : ε → ε'} {e : ε'}
    (failed : a.mapError f = .error e) :
    ∃ e', a = .error e' ∧ f e' = e := by
  cases a with
  | error e' => exact ⟨e', rfl, Except.error.inj failed⟩
  | ok y => cases failed

end Result

namespace Action

variable {σ α β : Type}

@[simp] theorem pure_apply (a : α) (w : World σ) : (pure a : Action σ α) w = (.ok a, w) := rfl

@[simp] theorem throw_apply (fault : Fault) (w : World σ) :
    (throw fault : Action σ α) w = (.error fault, w) := rfl

@[simp] theorem get_apply (w : World σ) : (get : Action σ (World σ)) w = (.ok w, w) := rfl

@[simp] theorem update_apply (f : World σ → World σ) (w : World σ) :
    update f w = (.ok (), f w) := rfl

@[simp] theorem ofExcept_apply (result : Except Fault α) (w : World σ) :
    ofExcept result w = (result, w) := rfl

@[simp] theorem attempt_apply (a : Action σ α) (w : World σ) :
    attempt a w = (.ok (a w).1, (a w).2) := rfl

theorem attempt_bind (a : Action σ α) (f : Except Fault α → Action σ β) (w : World σ) :
    (attempt a >>= f) w = f (a w).1 (a w).2 := rfl

theorem ask_apply (f : σ → α × σ) (w : World σ) :
    ask f w = (.ok (f w.surroundings).1, { w with surroundings := (f w.surroundings).2 }) := rfl

theorem bind_apply (a : Action σ α) (f : α → Action σ β) (w : World σ) :
    (a >>= f) w = match a w with
      | (.ok x, w₁) => f x w₁
      | (.error fault, w₁) => (.error fault, w₁) := by
  change ExceptT.bindCont f (a w).1 (a w).2 = _
  rcases a w with ⟨_ | x, w₁⟩ <;> rfl

theorem bind_of_ok {a : Action σ α} {f : α → Action σ β} {w w₁ : World σ} {x : α}
    (ran : a w = (.ok x, w₁)) : (a >>= f) w = f x w₁ := by
  rw [bind_apply, ran]

theorem bind_of_error {a : Action σ α} {f : α → Action σ β} {w w₁ : World σ} {fault : Fault}
    (ran : a w = (.error fault, w₁)) : (a >>= f) w = (.error fault, w₁) := by
  rw [bind_apply, ran]

/-- A composition that comes to its end has come to the end of both parts. -/
theorem bind_eq_ok {a : Action σ α} {f : α → Action σ β} {w w₂ : World σ} {y : β}
    (ran : (a >>= f) w = (.ok y, w₂)) : ∃ x w₁, a w = (.ok x, w₁) ∧ f x w₁ = (.ok y, w₂) := by
  rcases first : a w with ⟨_ | x, w₁⟩
  · rw [bind_of_error first] at ran
    cases ran
  · rw [bind_of_ok first] at ran
    exact ⟨x, w₁, rfl, ran⟩

/-- Giving a result another form changes nothing in the world. -/
theorem bind_pure_apply (a : Action σ α) (f : α → β) (w : World σ) :
    (a >>= fun x => pure (f x)) w = ((a w).1.map f, (a w).2) := by
  rcases ran : a w with ⟨_ | x, w₁⟩
  · rw [bind_of_error ran]
    rfl
  · rw [bind_of_ok ran]
    rfl

theorem bind_pure_ok {a : Action σ α} {w : World σ} {x : α} (ran : (a w).1 = .ok x) (f : α → β) :
    ((a >>= fun x => pure (f x)) w).1 = .ok (f x) := by
  rw [bind_pure_apply, ran]
  rfl

/-- The world after cleaning up is that of the cleaning, however the action before it ended. -/
theorem ensuring_snd (a : Action σ α) (cleanup : Action σ Unit) (w : World σ) :
    (ensuring a cleanup w).2 = (cleanup (a w).2).2 := by
  unfold ensuring
  rcases a w with ⟨result, w₁⟩
  rcases ended : cleanup w₁ with ⟨_ | _, w₂⟩ <;> simp [ended]

/-- Cleaning up behind two parts is cleaning up behind the second one, once the first one ended. -/
theorem ensuring_bind_of_ok {a : Action σ α} {f : α → Action σ β} {cleanup : Action σ Unit}
    {w w₁ : World σ} {x : α} (ran : a w = (.ok x, w₁)) :
    ensuring (a >>= f) cleanup w = ensuring (f x) cleanup w₁ := by
  unfold ensuring
  rw [bind_of_ok ran]

/-- An action that came to its end with its cleaning up has come to the end of both. -/
theorem ensuring_eq_ok {a : Action σ α} {cleanup : Action σ Unit} {w w' : World σ} {x : α}
    (ran : ensuring a cleanup w = (.ok x, w')) :
    ∃ w₁, a w = (.ok x, w₁) ∧ cleanup w₁ = (.ok (), w') := by
  unfold ensuring at ran
  rcases first : a w with ⟨result, w₁⟩
  rcases last : cleanup w₁ with ⟨fault | _, w₂⟩ <;> simp only [first, last] at ran
  · cases ran
  · cases ran
    exact ⟨w₁, rfl, last⟩

/-- Every run of an action leads from a world to a related one. -/
def Within (R : World σ → World σ → Prop) (a : Action σ α) : Prop :=
  ∀ w, R w (a w).2

namespace Within

variable {R : World σ → World σ → Prop} [IsPreorder (World σ) R]

theorem pure (a : α) : Within R (Pure.pure a : Action σ α) :=
  fun w => refl_of R w

theorem throw (fault : Fault) : Within R (MonadExcept.throw fault : Action σ α) :=
  fun w => refl_of R w

theorem get : Within R (MonadState.get : Action σ (World σ)) :=
  fun w => refl_of R w

theorem ofExcept (result : Except Fault α) : Within R (Action.ofExcept result : Action σ α) :=
  fun w => refl_of R w

theorem bind {a : Action σ α} {f : α → Action σ β} (first : Within R a)
    (rest : ∀ x, Within R (f x)) : Within R (a >>= f) := by
  intro w
  have before := first w
  rcases ran : a w with ⟨_ | x, w₁⟩ <;> rw [ran] at before
  · rw [bind_of_error ran]
    exact before
  · rw [bind_of_ok ran]
    exact trans_of R before (rest x w₁)

omit [IsPreorder (World σ) R] in
theorem attempt {a : Action σ α} (within : Within R a) : Within R (Action.attempt a) :=
  within

theorem ensuring {a : Action σ α} {cleanup : Action σ Unit} (first : Within R a)
    (last : Within R cleanup) : Within R (Action.ensuring a cleanup) := by
  intro w
  rw [ensuring_snd]
  exact trans_of R (first w) (last _)

end Within

end Action

end BucketStore
