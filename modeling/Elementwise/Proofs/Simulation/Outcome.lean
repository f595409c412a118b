import Elementwise.Proofs.Soundness.Typing.Conversion

/-!
Two outcomes of typing side by side.  `Alike` says that both are results that a relation relates, or
both are failures.  `Follows` is for runs of which the second may succeed more often: whenever the
first has a result that is worth following, the second has a related one.
-/

namespace Elementwise.Typing

variable {ε α α' β β' : Type} {R : α → α' → Prop} {S : β → β' → Prop}

/-- Related results, or two failures. -/
inductive Alike (R : α → α' → Prop) : Except ε α → Except ε α' → Prop where
  | ok {a : α} {a' : α'} (h : R a a') : Alike R (.ok a) (.ok a')
  | error {x y : ε} : Alike R (.error x) (.error y)

namespace Alike

theorem bind {o : Except ε α} {o' : Except ε α'} {f : α → Except ε β} {f' : α' → Except ε β'}
    (ho : Alike R o o') (hf : ∀ a a', R a a' → Alike S (f a) (f' a')) :
    Alike S (o >>= f) (o' >>= f') := by
  cases ho with
  | ok h => exact hf _ _ h
  | error => exact .error

theorem map {o : Except ε α} {o' : Except ε α'} {f : α → β} {f' : α' → β'} (ho : Alike R o o')
    (hf : ∀ a a', R a a' → S (f a) (f' a')) : Alike S (o.map f) (o'.map f') := by
  cases ho with
  | ok h => exact .ok (hf _ _ h)
  | error => exact .error

theorem flip {o : Except ε α} {o' : Except ε α'} (ho : Alike R o o') :
    Alike (fun a' a => R a a') o' o := by
  cases ho with
  | ok h => exact .ok h
  | error => exact .error

theorem mapM {f : α → Except ε β} {f' : α' → Except ε β'} {as : List α} {as' : List α'}
    (h : List.Forall₂ R as as') (hf : ∀ a a', R a a' → Alike S (f a) (f' a')) :
    Alike (List.Forall₂ S) (as.mapM f) (as'.mapM f') := by
  induction h with
  | nil => exact .ok .nil
  | cons ha _ ih =>
      rw [List.mapM_cons, List.mapM_cons]
      exact (hf _ _ ha).bind fun b b' hb => ih.bind fun bs bs' hbs => .ok (.cons hb hbs)

theorem exists_of_eq_ok {o : Except ε α} {o' : Except ε α'} {a : α} (ho : Alike R o o')
    (h : o = .ok a) : ∃ a', o' = .ok a' ∧ R a a' := by
  subst h
  cases ho with
  | ok h => exact ⟨_, rfl, h⟩

end Alike

/-- Every good result of the first outcome has a related one in the second. -/
def Follows (good : α → Prop) (R : α → α' → Prop) (o : Typed α) (o' : Typed α') : Prop :=
  ∀ a, o = .ok a → good a → ∃ a', o' = .ok a' ∧ R a a'

namespace Follows

variable {good : α → Prop} {good' : β → Prop}

theorem ok {a : α} {a' : α'} (h : R a a') : Follows good R (.ok a) (.ok a') := by
  rintro _ ⟨⟩ -
  exact ⟨a', rfl, h⟩

theorem of_error {e : TypeError} {o' : Typed α'} : Follows good R (.error e) o' :=
  nofun

theorem of_alike {o : Typed α} {o' : Typed α'} (h : Alike R o o') : Follows good R o o' :=
  fun _ ha _ => h.exists_of_eq_ok ha

/-- Sequencing.  The premise `keeps` says that a good result is made from good parts only, so that
the parts are worth following, too. -/
theorem bind {o : Typed α} {o' : Typed α'} {f : α → Typed β} {f' : α' → Typed β'}
    (ho : Follows good R o o') (keeps : ∀ a, Ensures (fun b => good' b → good a) (f a))
    (hf : ∀ a a', R a a' → Follows good' S (f a) (f' a')) :
    Follows good' S (o >>= f) (o' >>= f') := by
  intro b hb hgood
  cases o with
  | error e => cases hb
  | ok a =>
      have hfa : f a = .ok b := hb
      obtain ⟨a', rfl, haa'⟩ := ho a rfl ((keeps a).of_eq_ok hfa hgood)
      exact hf a a' haa' b hfa hgood

theorem map {o : Typed α} {o' : Typed α'} {f : α → β} {f' : α' → β'} (ho : Follows good R o o')
    (hgood : ∀ a, good' (f a) → good a) (hf : ∀ a a', R a a' → S (f a) (f' a')) :
    Follows good' S (o.map f) (o'.map f') := by
  rintro b hb hb'
  cases o with
  | error e => cases hb
  | ok a =>
      obtain rfl := Except.ok.inj hb
      obtain ⟨a', rfl, haa'⟩ := ho a rfl (hgood a hb')
      exact ⟨f' a', rfl, hf a a' haa'⟩

/-- Sequencing after a step that is the same in both runs. -/
theorem bind_same {o : Typed α} {f : α → Typed β} {f' : α → Typed β'}
    (hf : ∀ a, Follows good' S (f a) (f' a)) : Follows good' S (o >>= f) (o >>= f') := by
  cases o with
  | error e => exact of_error
  | ok a => exact hf a

/-- Sequencing after a step that the second run makes if the first one does. -/
theorem bind_eq {o o' : Typed α} {f : α → Typed β} {f' : α → Typed β'}
    (ho : ∀ a, o = .ok a → o' = .ok a) (hf : ∀ a, Follows good' S (f a) (f' a)) :
    Follows good' S (o >>= f) (o' >>= f') := by
  cases o with
  | error e => exact of_error
  | ok a =>
      rw [ho a rfl]
      exact hf a

end Follows

end Elementwise.Typing
