import NetAdmin.Error
/-!
Computations over a state that may fail, such as those over files and those that run
commands. Given a state, a computation gives its result and the state that it leaves,
also when it fails; so nothing that was done before a failure is lost.
-/

namespace NetAdmin
namespace Computation

variable {σ α β : Type}

theorem bind_apply (first : ExceptT Error (StateM σ) α) (next : α → ExceptT Error (StateM σ) β)
    (state : σ) :
    (first >>= next) state =
      match first state with
      | (.ok value, after) => next value after
      | (.error error, after) => (.error error, after) := by
  change (match first state with | (result, after) => ExceptT.bindCont next result after) = _
  rcases first state with ⟨result, after⟩
  cases result <;> rfl

theorem exists_of_bind_ok {first : ExceptT Error (StateM σ) α}
    {next : α → ExceptT Error (StateM σ) β} {before after : σ} {value : β}
    (done : (first >>= next) before = (.ok value, after)) :
    ∃ given middle, first before = (.ok given, middle) ∧
      next given middle = (.ok value, after) := by
  rw [bind_apply] at done
  rcases started : first before with ⟨error | given, middle⟩
  · rw [started] at done
    cases done
  · rw [started] at done
    exact ⟨given, middle, rfl, done⟩

def Succeeds (computation : ExceptT Error (StateM σ) α) (state : σ) : Prop :=
  ∃ value after, computation state = (.ok value, after)

theorem Succeeds.bind {first : ExceptT Error (StateM σ) α}
    {next : α → ExceptT Error (StateM σ) β} {state : σ} (succeeds : Succeeds first state)
    (rest : ∀ value after, first state = (.ok value, after) → Succeeds (next value) after) :
    Succeeds (first >>= next) state := by
  rcases succeeds with ⟨value, after, done⟩
  rcases rest value after done with ⟨result, final, ends⟩
  exact ⟨result, final, by rw [bind_apply, done]; exact ends⟩

theorem Succeeds.map {first : ExceptT Error (StateM σ) α} {state : σ}
    (succeeds : Succeeds first state) (transform : α → β) :
    Succeeds (first >>= fun value => pure (transform value)) state :=
  succeeds.bind fun value after _ => ⟨transform value, after, rfl⟩

theorem map_apply (transform : α → β) (first : ExceptT Error (StateM σ) α) (state : σ) :
    (transform <$> first) state =
      match first state with
      | (.ok value, after) => (.ok (transform value), after)
      | (.error error, after) => (.error error, after) := by
  rw [map_eq_pure_bind, bind_apply]
  rfl

theorem pure_apply (value : α) (state : σ) :
    (pure value : ExceptT Error (StateM σ) α) state = (.ok value, state) :=
  rfl

theorem ofExcept_apply (result : Except Error α) (state : σ) :
    (MonadExcept.ofExcept result : ExceptT Error (StateM σ) α) state = (result, state) := by
  cases result <;> rfl

theorem tryCatch_apply (first : ExceptT Error (StateM σ) α)
    (handler : Error → ExceptT Error (StateM σ) α) (state : σ) :
    (tryCatch first handler) state =
      match first state with
      | (.ok value, after) => (.ok value, after)
      | (.error error, after) => handler error after := by
  simp only [tryCatch, tryCatchThe, MonadExceptOf.tryCatch, ExceptT.tryCatch, ExceptT.mk, bind,
    StateT.bind]
  rcases first state with ⟨_ | _, after⟩ <;> rfl

/-- Reading each of several values stops at the first failure, so if all are read, each result
is that of a value and each value has a result. -/
theorem mem_of_mapM_ok {ε : Type} {read : α → Except ε β} {values : List α} {results : List β}
    (done : values.mapM read = .ok results) :
    (∀ result ∈ results, ∃ value ∈ values, read value = .ok result) ∧
      ∀ value ∈ values, ∃ result ∈ results, read value = .ok result := by
  induction values generalizing results with
  | nil =>
      cases done
      simp
  | cons value values induction =>
      rw [List.mapM_cons] at done
      rcases first : read value with error | result
      · rw [first] at done
        cases done
      · rcases rest : values.mapM read with error | others
        · rw [first, rest] at done
          cases done
        · rw [first, rest] at done
          cases done
          rcases induction rest with ⟨given, taken⟩
          refine ⟨?_, ?_⟩
          · rw [List.forall_mem_cons]
            refine ⟨⟨value, List.mem_cons_self, first⟩, ?_⟩
            intro other member
            rcases given other member with ⟨source, inside, same⟩
            exact ⟨source, List.mem_cons_of_mem _ inside, same⟩
          · rw [List.forall_mem_cons]
            refine ⟨⟨result, List.mem_cons_self, first⟩, ?_⟩
            intro source member
            rcases taken source member with ⟨other, inside, same⟩
            exact ⟨other, List.mem_cons_of_mem _ inside, same⟩

theorem exists_mapM_ok {ε : Type} {read : α → Except ε β} {values : List α}
    (each : ∀ value ∈ values, ∃ result, read value = .ok result) :
    ∃ results, values.mapM read = .ok results := by
  induction values with
  | nil => exact ⟨[], rfl⟩
  | cons value values induction =>
      rcases List.forall_mem_cons.mp each with ⟨⟨result, first⟩, others⟩
      rcases induction others with ⟨results, rest⟩
      exact ⟨result :: results, by rw [List.mapM_cons, first, rest]; rfl⟩

end Computation
end NetAdmin
