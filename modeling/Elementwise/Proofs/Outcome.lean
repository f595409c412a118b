/-!
Computations that may fail.  `Ensures` says of one what it results in if it does not fail, whatever
it fails with, and `FailsOnly` says what it fails with if it does, whatever it results in.  `Tracks`
says of two that they succeed together or fail together.  All of these pass through the sequencing of
steps.
-/

namespace Elementwise

variable {ε α β : Type} {P : α → Prop} {Q : β → Prop}

theorem bind_eq_ok {o : Except ε α} {f : α → Except ε β} {b : β} (h : o >>= f = .ok b) :
    ∃ a, o = .ok a ∧ f a = .ok b := by
  cases o with
  | error e => cases h
  | ok a => exact ⟨a, rfl, h⟩

theorem map_eq_ok {o : Except ε α} {f : α → β} {b : β} (h : o.map f = .ok b) :
    ∃ a, o = .ok a ∧ f a = b := by
  cases o with
  | error e => cases h
  | ok a => exact ⟨a, rfl, Except.ok.inj h⟩

theorem exists_ok_of_toOption_map {o : Except ε α} {f : α → β} {b : β}
    (h : o.toOption.map f = some b) : ∃ a, o = .ok a ∧ f a = b := by
  cases o with
  | error e => cases h
  | ok a => exact ⟨a, rfl, Option.some.inj h⟩

theorem ok_bind (a : α) (f : α → Except ε β) : (Except.ok a >>= f) = f a :=
  rfl

theorem error_bind (e : ε) (f : α → Except ε β) : (Except.error e >>= f) = .error e :=
  rfl

/-- What results has the property, if anything does. -/
inductive Ensures (P : α → Prop) : Except ε α → Prop where
  | ok {a : α} (h : P a) : Ensures P (.ok a)
  | error {e : ε} : Ensures P (.error e)

namespace Ensures

theorem bind {o : Except ε α} {f : α → Except ε β} (ho : Ensures P o)
    (hf : ∀ a, P a → Ensures Q (f a)) : Ensures Q (o >>= f) := by
  cases ho with
  | ok h => exact hf _ h
  | error => exact .error

theorem map {o : Except ε α} {f : α → β} (ho : Ensures P o) (hf : ∀ a, P a → Q (f a)) :
    Ensures Q (o.map f) := by
  cases ho with
  | ok h => exact .ok (hf _ h)
  | error => exact .error

theorem mono {P' : α → Prop} {o : Except ε α} (ho : Ensures P o) (h : ∀ a, P a → P' a) :
    Ensures P' o := by
  cases ho with
  | ok h' => exact .ok (h _ h')
  | error => exact .error

theorem trivial (o : Except ε α) : Ensures (fun _ => True) o := by
  cases o with
  | ok a => exact .ok True.intro
  | error e => exact .error

theorem of_eq_ok {o : Except ε α} {a : α} (ho : Ensures P o) (h : o = .ok a) : P a := by
  subst h
  cases ho with
  | ok h => exact h

theorem mapM {f : α → Except ε β} {as : List α} (hf : ∀ a ∈ as, Ensures Q (f a)) :
    Ensures (fun bs => ∀ b ∈ bs, Q b) (as.mapM f) := by
  induction as with
  | nil => exact .ok nofun
  | cons a as ih =>
      obtain ⟨ha, has⟩ := List.forall_mem_cons.1 hf
      rw [List.mapM_cons]
      exact ha.bind fun b hb => (ih has).bind fun bs hbs => .ok (List.forall_mem_cons.2 ⟨hb, hbs⟩)

end Ensures

/-- What it fails with has the property, if it fails. -/
inductive FailsOnly (R : ε → Prop) : Except ε α → Prop where
  | ok {a : α} : FailsOnly R (.ok a)
  | error {e : ε} (h : R e) : FailsOnly R (.error e)

namespace FailsOnly

variable {ε' : Type} {R : ε → Prop} {R' : ε' → Prop}

theorem bind {o : Except ε α} {f : α → Except ε β} (ho : FailsOnly R o)
    (hf : ∀ a, FailsOnly R (f a)) : FailsOnly R (o >>= f) := by
  cases ho with
  | ok => exact hf _
  | error h => exact .error h

/-- The next step may rely on what the first one results in. -/
theorem bind_ensured {o : Except ε α} {f : α → Except ε β} (ho : FailsOnly R o)
    (hensures : Ensures P o) (hf : ∀ a, P a → FailsOnly R (f a)) : FailsOnly R (o >>= f) := by
  cases ho with
  | ok =>
      cases hensures with
      | ok h => exact hf _ h
  | error h => exact .error h

theorem map {o : Except ε α} (ho : FailsOnly R o) (f : α → β) : FailsOnly R (o.map f) := by
  cases ho with
  | ok => exact .ok
  | error h => exact .error h

theorem mono {R' : ε → Prop} {o : Except ε α} (ho : FailsOnly R o) (h : ∀ e, R e → R' e) :
    FailsOnly R' o := by
  cases ho with
  | ok => exact .ok
  | error h' => exact .error (h _ h')

theorem mapError {o : Except ε α} {f : ε → ε'} (ho : FailsOnly R o)
    (hf : ∀ e, R e → R' (f e)) : FailsOnly R' (o.mapError f) := by
  cases ho with
  | ok => exact .ok
  | error h => exact .error (hf _ h)

theorem ite {c : Prop} [Decidable c] {o o' : Except ε α} (ho : FailsOnly R o)
    (ho' : FailsOnly R o') : FailsOnly R (if c then o else o') := by
  split
  · exact ho
  · exact ho'

theorem of_eq_error {o : Except ε α} {e : ε} (ho : FailsOnly R o) (h : o = .error e) : R e := by
  subst h
  cases ho with
  | error h => exact h

theorem mapM {f : α → Except ε β} {as : List α} (hf : ∀ a ∈ as, FailsOnly R (f a)) :
    FailsOnly R (as.mapM f) := by
  induction as with
  | nil => exact .ok
  | cons a as ih =>
      obtain ⟨ha, has⟩ := List.forall_mem_cons.1 hf
      rw [List.mapM_cons]
      exact ha.bind fun b => (ih has).bind fun bs => .ok

theorem foldlM {f : β → α → Except ε β} (hf : ∀ b a, FailsOnly R (f b a)) (as : List α) (b : β) :
    FailsOnly R (as.foldlM f b) := by
  induction as generalizing b with
  | nil => exact .ok
  | cons a as ih =>
      rw [List.foldlM_cons]
      exact (hf b a).bind ih

end FailsOnly

/-! ### Outcomes that follow other outcomes -/

/-- The result of the second computation is the result of the first after `change`, and the errors
agree once `lower` has been applied to both. -/
inductive Tracks {ε α β : Type} (lower : ε → ε) (change : α → β) :
    Except ε α → Except ε β → Prop where
  | ok (a : α) : Tracks lower change (.ok a) (.ok (change a))
  | error {x y : ε} (h : lower y = lower x) : Tracks lower change (.error x) (.error y)

namespace Tracks

variable {ε α β γ δ : Type} {lower : ε → ε} {change : α → β} {change' : γ → δ}

theorem refl (o : Except ε α) : Tracks lower id o o := by
  cases o with
  | ok a => exact .ok a
  | error x => exact .error rfl

theorem bind {o : Except ε α} {o' : Except ε β} {f : α → Except ε γ} {f' : β → Except ε δ}
    (h : Tracks lower change o o') (hf : ∀ a, Tracks lower change' (f a) (f' (change a))) :
    Tracks lower change' (o >>= f) (o' >>= f') := by
  cases h with
  | ok a => exact hf a
  | error h => exact .error h

theorem map {o : Except ε α} {o' : Except ε β} {f : α → γ} {f' : β → δ}
    (h : Tracks lower change o o') (hf : ∀ a, f' (change a) = change' (f a)) :
    Tracks lower change' (o.map f) (o'.map f') := by
  cases h with
  | ok a =>
      show Tracks lower change' (.ok (f a)) (.ok (f' (change a)))
      rw [hf]
      exact .ok (f a)
  | error h => exact .error h

theorem map_mapError_eq {o : Except ε α} {o' : Except ε β} (h : Tracks lower change o o') :
    o'.mapError lower = (o.map change).mapError lower := by
  cases h with
  | ok a => rfl
  | error h => exact congrArg Except.error h

theorem mapError_eq {o o' : Except ε α} (h : Tracks lower id o o') :
    o'.mapError lower = o.mapError lower := by
  cases h with
  | ok a => rfl
  | error h => exact congrArg Except.error h

theorem mapError {ε' : Type} {lower' : ε' → ε'} {o : Except ε α} {o' : Except ε β} {f : ε → ε'}
    (h : Tracks lower change o o') (hf : ∀ x, lower' (f x) = f (lower x)) :
    Tracks lower' change (o.mapError f) (o'.mapError f) := by
  cases h with
  | ok a => exact .ok a
  | error h => exact .error (by rw [hf, hf, h])

end Tracks

end Elementwise
