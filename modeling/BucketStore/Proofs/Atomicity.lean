import BucketStore.Proofs.Operations

/-!
Atomicity. Whatever fails on the way, an operation leaves the committed contents as they were or
applies its whole batch, and it applies the batch if and only if its commit passed.
-/

namespace BucketStore

variable {σ : Type}

theorem BlockTrace.commits_spec {id : Nat} {committed : Bool} {touches : List Touch}
    (worked : BlockTrace id committed touches) : (made .commit touches).length ≤ 1 ∧
      (made .commit touches).any (·.fault.isNone) = committed := by
  cases worked with
  | broken used => simp [made_of_uses .commit rfl used]
  | ended used fault closed =>
    have last : made .commit [⟨.commit, some id, fault, closed⟩]
      = [⟨.commit, some id, fault, closed⟩] := rfl
    simp [made_of_uses .commit rfl used, last]

/-- An operation commits at most once, and the flag of its contacts tells whether that passed. -/
theorem Exchange.commits_spec {id : Nat} {committed : Bool} {touches : List Touch}
    (exchange : Exchange id committed touches) : (made .commit touches).length ≤ 1 ∧
      (made .commit touches).any (·.fault.isNone) = committed := by
  cases exchange with
  | refused request => simp [request.made_eq_nil .commit rfl nofun]
  | leased request worked undone fault closed =>
    have last : made .commit [.givenBack id fault closed] = [] := rfl
    simpa only [made_append, request.made_eq_nil .commit rfl nofun,
      undone.made_eq_nil .commit nofun, last, List.nil_append, List.append_nil]
      using worked.commits_spec

/-- For every operation, policy and schedule of faults: the operation commits at most once. If that
commit passed, the whole batch is applied, and otherwise the contents are what they were. -/
theorem Operation.perform_atomic [Surroundings σ] (m : Manager) (policy : Policy) (op : Operation)
    (w : World σ) :
    ∃ touches, (op.perform m policy w).2.trace = w.trace ++ touches ∧
      (made .commit touches).length ≤ 1 ∧
      if (made .commit touches).any (·.fault.isNone) then
        ∃ changes, op.Whole (Surroundings.now w.surroundings) changes ∧
          (op.perform m policy w).2.database = w.database.applyAll changes
      else (op.perform m policy w).2.database = w.database := by
  obtain ⟨committed, effect⟩ := op.perform_effect m policy w
  obtain ⟨touches, traced, exchange, _⟩ := effect.trace
  obtain ⟨once, passed⟩ := exchange.commits_spec
  refine ⟨touches, traced, once, ?_⟩
  rw [passed]
  exact effect.database

end BucketStore
