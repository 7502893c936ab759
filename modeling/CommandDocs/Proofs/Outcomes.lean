import Mathlib.Data.List.Forall2

/-!
# Outcomes

A step may come to nothing, and what it did until then stays done.  Steps that are made one after
the other, and lists of them, come to a result when each of them does.
-/

namespace CommandDocs

/-! ## Results -/

section Results

variable {ι ε δ α β : Type}

/-- What comes to a result has come to one at both stages. -/
theorem bind_eq_ok_iff {result : Except ε α} {next : α → Except ε β} {b : β} :
    result >>= next = .ok b ↔ ∃ a, result = .ok a ∧ next a = .ok b := by
  cases result with
  | ok a => simp [bind, Except.bind]
  | error fault => simp [bind, Except.bind]

theorem exists_of_map_eq_ok {result : Except ε α} {f : α → β} {b : β}
    (mapped : result.map f = .ok b) : ∃ a, result = .ok a ∧ f a = b := by
  cases result with
  | ok a => exact ⟨a, rfl, Except.ok.inj mapped⟩
  | error fault => cases mapped

theorem mapError_eq_ok_iff {f : ε → δ} {result : Except ε α} {a : α} :
    result.mapError f = .ok a ↔ result = .ok a := by
  cases result <;> simp [Except.mapError]

theorem toOption_bind (result : Except ε α) (next : α → Except ε β) :
    (result >>= next).toOption = result.toOption.bind fun a => (next a).toOption := by
  cases result <;> rfl

theorem toOption_map (result : Except ε α) (f : α → β) :
    (result.map f).toOption = result.toOption.map f := by
  cases result <;> rfl

theorem toOption_mapError (result : Except ε α) (f : ε → δ) :
    (result.mapError f).toOption = result.toOption := by
  cases result <;> rfl

/-- Results are collected one by one. -/
theorem mapM_cons_eq_ok_iff {f : ι → Except ε α} {i : ι} {rest : List ι} {found : List α} :
    (i :: rest).mapM f = .ok found ↔
      ∃ first others, f i = .ok first ∧ rest.mapM f = .ok others ∧ first :: others = found := by
  simp only [List.mapM_cons, bind_eq_ok_iff, pure, Except.pure, Except.ok.injEq,
    exists_and_left]

theorem exists_of_mem_mapM {f : ι → Except ε α} {items : List ι} {found : List α}
    (ran : items.mapM f = .ok found) {a : α} (member : a ∈ found) : ∃ i ∈ items, f i = .ok a := by
  induction items generalizing found with
  | nil =>
      cases ran
      cases member
  | cons i rest ih =>
      obtain ⟨first, others, own, later, rfl⟩ := mapM_cons_eq_ok_iff.mp ran
      rcases List.mem_cons.mp member with rfl | member
      · exact ⟨i, List.mem_cons_self, own⟩
      · obtain ⟨j, there, made⟩ := ih later member
        exact ⟨j, List.mem_cons_of_mem i there, made⟩

theorem mapM_eq_ok_iff {f : ι → Except ε α} {items : List ι} {found : List α} :
    items.mapM f = .ok found ↔ List.Forall₂ (fun i a => f i = .ok a) items found := by
  induction items generalizing found with
  | nil => cases found <;> simp [pure, Except.pure]
  | cons i rest ih =>
      rw [mapM_cons_eq_ok_iff, List.forall₂_cons_left_iff]
      simp only [ih, exists_and_left, @eq_comm _ _ found]

end Results

/-! ## Steps -/

section Steps

variable {σ ε α β : Type} {step : ExceptT ε (StateM σ) α} {next : α → ExceptT ε (StateM σ) β}
  {s after : σ}

/-- One step after another: the second is made where the first has left off, unless that failed. -/
theorem run_bind (step : ExceptT ε (StateM σ) α) (next : α → ExceptT ε (StateM σ) β) (s : σ) :
    (step >>= next).run s =
      match step.run s with
      | (.ok value, after) => (next value).run after
      | (.error fault, after) => (.error fault, after) := by
  rw [ExceptT.run_bind]
  simp only [bind, StateT.bind]
  cases step.run s with
  | mk outcome after => cases outcome <;> rfl

theorem run_bind_of_ok {value : α} (ran : step.run s = (.ok value, after)) :
    (step >>= next).run s = (next value).run after := by
  rw [run_bind, ran]

theorem run_bind_of_error {fault : ε} (ran : step.run s = (.error fault, after)) :
    (step >>= next).run s = (.error fault, after) := by
  rw [run_bind, ran]

theorem run_bind_pure (step : ExceptT ε (StateM σ) α) (f : α → β) (s : σ) :
    (step >>= fun value => pure (f value)).run s = ((step.run s).1.map f, (step.run s).2) := by
  rw [run_bind]
  cases step.run s with
  | mk outcome after => cases outcome <;> rfl

/-- What has come to a result has come to one at every stage. -/
theorem exists_of_run_bind_ok {value : β} (ran : (step >>= next).run s = (.ok value, after)) :
    ∃ first middle, step.run s = (.ok first, middle) ∧
      (next first).run middle = (.ok value, after) := by
  rw [run_bind] at ran
  cases first : step.run s with
  | mk outcome middle =>
      rw [first] at ran
      cases outcome with
      | ok value => exact ⟨value, middle, rfl, ran⟩
      | error fault => cases ran

end Steps

end CommandDocs
