import HostSnapshot.Traced

namespace HostSnapshot.Traced

instance : LawfulMonad Traced := LawfulMonad.mk' Traced
  (by
    intro α x
    obtain ⟨outcome, events⟩ := x
    cases outcome <;> simp [Functor.map])
  (by
    intro α β a f
    simp [bind, pure])
  (by
    intro α β γ x f g
    obtain ⟨outcome, events⟩ := x
    cases outcome with
    | error e => rfl
    | ok a =>
      simp only [bind]
      cases (f a).outcome with
      | error e => rfl
      | ok b => simp [List.append_assoc])

variable {α β : Type} {x : Traced α} {a : α}

theorem outcome_bind_eq_ok {f : α → Traced β} {b : β} :
    (x >>= f).outcome = .ok b ↔ ∃ a, x.outcome = .ok a ∧ (f a).outcome = .ok b := by
  cases hx : x.outcome with
  | error e =>
    rw [bind_of_error hx]
    simp
  | ok a =>
    rw [bind_of_ok hx]
    simp

theorem outcome_bind_eq_error {f : α → Traced β} {e : Fault} :
    (x >>= f).outcome = .error e ↔
      x.outcome = .error e ∨ ∃ a, x.outcome = .ok a ∧ (f a).outcome = .error e := by
  cases hx : x.outcome with
  | error e' =>
    rw [bind_of_error hx]
    simp
  | ok a =>
    rw [bind_of_ok hx]
    simp

theorem outcome_bind_of_ok (h : x.outcome = .ok a) (f : α → Traced β) :
    (x >>= f).outcome = (f a).outcome := by
  rw [bind_of_ok h]

theorem outcome_bind_congr {y : Traced α} (h : x.outcome = y.outcome) (f : α → Traced β) :
    (x >>= f).outcome = (y >>= f).outcome := by
  cases hy : y.outcome with
  | error e => rw [bind_of_error hy, bind_of_error (h.trans hy)]
  | ok a => rw [bind_of_ok hy, bind_of_ok (h.trans hy)]

theorem tryCatch_of_ok (h : x.outcome = .ok a) (handle : Fault → Traced α) :
    tryCatch x handle = ⟨.ok a, x.events⟩ := by
  simp only [tryCatch, tryCatchThe, MonadExceptOf.tryCatch, h]

theorem tryCatch_of_error {e : Fault} (h : x.outcome = .error e) (handle : Fault → Traced α) :
    tryCatch x handle = ⟨(handle e).outcome, x.events ++ (handle e).events⟩ := by
  simp only [tryCatch, tryCatchThe, MonadExceptOf.tryCatch, h]

@[simp] theorem outcome_ofExcept (e : Except Fault α) : (ofExcept e).outcome = e := rfl

@[simp] theorem outcome_log (level : Level) (source message : String) :
    (log level source message).outcome = .ok () := rfl

@[simp] theorem outcome_debug (source message : String) :
    (debug source message).outcome = .ok () := rfl

theorem eq_ok_or_of_outcome_orDefault {isForgiven : Fault → Bool} {source note : String}
    {default : α} {y : Except Fault α} (h : (orDefault isForgiven source note default y).outcome =
      .ok a) : y = .ok a ∨ a = default := by
  cases y with
  | ok b =>
    rw [outcome_orDefault_of_ok rfl, Except.ok.injEq] at h
    exact .inl (congrArg Except.ok h)
  | error e =>
    by_cases he : isForgiven e = true
    · rw [outcome_orDefault_of_isForgiven rfl he, Except.ok.injEq] at h
      exact .inr h.symm
    · rw [outcome_orDefault_of_not_isForgiven rfl he] at h
      cases h

theorem outcome_mapM {f : α → Traced β} {g : α → β} (h : ∀ a, (f a).outcome = .ok (g a))
    (as : List α) : (as.mapM f).outcome = .ok (as.map g) := by
  induction as with
  | nil => rfl
  | cons a as ih =>
    rw [List.mapM_cons, outcome_bind_of_ok (h a), outcome_bind_of_ok ih]
    rfl

theorem outcome_forM {f : α → Traced PUnit} (h : ∀ a, (f a).outcome = .ok ()) (as : List α) :
    (as.forM f).outcome = .ok () := by
  induction as with
  | nil => rfl
  | cons a as ih =>
    change (f a >>= fun _ => as.forM f).outcome = .ok ()
    rw [outcome_bind_of_ok (h a)]
    exact ih

@[simp] theorem calls_pure (a : α) : (pure a : Traced α).calls = [] := rfl

theorem calls_bind_of_ok (h : x.outcome = .ok a) (f : α → Traced β) :
    (x >>= f).calls = x.calls ++ (f a).calls := by
  rw [bind_of_ok h]
  exact List.filterMap_append

theorem calls_bind_of_error {e : Fault} (h : x.outcome = .error e) (f : α → Traced β) :
    (x >>= f).calls = x.calls := by
  rw [bind_of_error h]
  rfl

/-- Whether a computation runs no command. -/
def IsQuiet (x : Traced α) : Prop := x.calls = []

theorem isQuiet_pure (a : α) : IsQuiet (pure a) := calls_pure a

theorem isQuiet_throw (e : Fault) : IsQuiet (throw e : Traced α) := rfl

theorem isQuiet_ofExcept (e : Except Fault α) : IsQuiet (ofExcept e) := rfl

theorem isQuiet_log (level : Level) (source message : String) :
    IsQuiet (log level source message) := rfl

theorem isQuiet_orDefault (isForgiven : Fault → Bool) (source note : String) (default : α)
    (x : Except Fault α) : IsQuiet (orDefault isForgiven source note default x) := by
  unfold orDefault
  split
  · exact isQuiet_pure _
  · split
    · rfl
    · exact isQuiet_throw _

theorem isQuiet_debug (source message : String) : IsQuiet (debug source message) := rfl

/-- What follows may be quiet, so that a computation runs the commands of its first part. -/
theorem calls_bind_of_isQuiet {f : α → Traced β} (h : ∀ a, (f a).IsQuiet) :
    (x >>= f).calls = x.calls := by
  cases hx : x.outcome with
  | error e => exact calls_bind_of_error hx f
  | ok a => rw [calls_bind_of_ok hx, h a, List.append_nil]

theorem IsQuiet.bind {f : α → Traced β} (hx : x.IsQuiet) (h : ∀ a, (f a).IsQuiet) :
    (x >>= f).IsQuiet := by
  rw [IsQuiet, calls_bind_of_isQuiet h]
  exact hx

theorem IsQuiet.mapM {f : α → Traced β} (h : ∀ a, (f a).IsQuiet) (as : List α) :
    (as.mapM f).IsQuiet := by
  induction as with
  | nil => exact isQuiet_pure []
  | cons a as ih =>
    rw [List.mapM_cons]
    exact (h a).bind fun b => ih.bind fun bs => isQuiet_pure (b :: bs)

theorem IsQuiet.forM {f : α → Traced PUnit} (h : ∀ a, (f a).IsQuiet) (as : List α) :
    (as.forM f).IsQuiet := by
  induction as with
  | nil => exact isQuiet_pure ()
  | cons a as ih =>
    exact (h a).bind fun _ => ih

/-- A sequence that returns splits, and with it the commands that it runs. -/
theorem split_bind {f : α → Traced β} {b : β} (h : (x >>= f).outcome = .ok b) :
    ∃ a, x.outcome = .ok a ∧ (f a).outcome = .ok b ∧
      (x >>= f).calls = x.calls ++ (f a).calls := by
  obtain ⟨a, hx, hf⟩ := outcome_bind_eq_ok.mp h
  exact ⟨a, hx, hf, calls_bind_of_ok hx f⟩

theorem IsQuiet.split_bind (hx : x.IsQuiet) {f : α → Traced β} {b : β}
    (h : (x >>= f).outcome = .ok b) :
    ∃ a, x.outcome = .ok a ∧ (f a).outcome = .ok b ∧ (x >>= f).calls = (f a).calls := by
  obtain ⟨a, ha, hf, hcalls⟩ := Traced.split_bind h
  rw [hx] at hcalls
  exact ⟨a, ha, hf, hcalls⟩

end HostSnapshot.Traced
