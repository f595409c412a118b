import Elementwise.Proofs.Convertible.Relation
import Elementwise.Library.Standard
import Elementwise.Typing.Overload
import Mathlib.Data.List.Forall2
import Mathlib.Data.List.Nodup
import Mathlib.Order.Defs.Unbundled

/-!
Since implicit conversions order the types, the overloads that take some arguments are ordered by
their parameters, and have at most one least one if no two have the same parameters.  A call resolves
to it, and is ambiguous if there is none; the order in which the overloads are listed is of no
account.
-/

namespace Elementwise.Typing

namespace Overload

variable {overloads overloads' : List Signature} {args ts : List Term} {name : Ident}
  {a b s : Signature}

/-! ### The order of overloads -/

/-- The parameters take the arguments, one each. -/
def Takes (args : List Term) (s : Signature) : Prop :=
  List.Forall₂ (fun param arg => isImplicit arg.ty param = true) s.params args

/-- The parameters of the first overload are taken by those of the second. -/
def Closer (a b : Signature) : Prop :=
  List.Forall₂ (fun p q => isImplicit p q = true) a.params b.params

/-- The overload takes the arguments, and is closer to them than all others that do. -/
structure IsLeast (overloads : List Signature) (args : List Term) (s : Signature) : Prop where
  mem : s ∈ overloads
  takes : Takes args s
  closer : ∀ s' ∈ overloads, Takes args s' → Closer s s'

theorem Closer.params_eq (hab : Closer a b) (hba : Closer b a) : a.params = b.params := by
  unfold Closer at hab hba
  generalize a.params = ps, b.params = qs at hab hba
  induction hab with
  | nil => rfl
  | cons h _ ih =>
      cases hba with
      | cons h' hba => rw [isImplicit_antisymm h h', ih hba]

theorem IsLeast.perm (h : overloads.Perm overloads') (hs : IsLeast overloads args s) :
    IsLeast overloads' args s where
  mem := h.mem_iff.1 hs.mem
  takes := hs.takes
  closer s' hs' := hs.closer s' (h.mem_iff.2 hs')

/-- Overloads with different parameters are not both least. -/
theorem IsLeast.eq (hn : (overloads.map Signature.params).Nodup) (ha : IsLeast overloads args a)
    (hb : IsLeast overloads args b) : a = b :=
  List.inj_on_of_nodup_map hn ha.mem hb.mem
    ((ha.closer b hb.mem hb.takes).params_eq (hb.closer a ha.mem ha.takes))

/-! ### Resolution -/

/-- The overloads that take the arguments. -/
def applicable (overloads : List Signature) (args : List Term) : List Signature :=
  (overloads.filter (·.params.length == args.length)).filter (applies · args)

theorem all_zip_iff {α β : Type} {p : α × β → Bool} {as : List α} {bs : List β} :
    as.length = bs.length ∧ (as.zip bs).all p = true ↔
      List.Forall₂ (fun a b => p (a, b) = true) as bs := by
  rw [List.forall₂_iff_zip, List.all_eq_true]
  simp

theorem mem_applicable : s ∈ applicable overloads args ↔ s ∈ overloads ∧ Takes args s := by
  rw [applicable, List.mem_filter, List.mem_filter, beq_iff_eq, and_assoc, applies, all_zip_iff]
  rfl

theorem atLeastAsGood_iff (ha : Takes args a) (hb : Takes args b) :
    atLeastAsGood a b = true ↔ Closer a b := by
  have hlength : a.params.length = b.params.length := ha.length_eq.trans hb.length_eq.symm
  rw [Closer, ← all_zip_iff (p := fun pair => isImplicit pair.1 pair.2), and_iff_right hlength]
  rfl

theorem mem_best : s ∈ best (applicable overloads args) ↔ IsLeast overloads args s := by
  rw [best, List.mem_filter, mem_applicable, List.all_eq_true]
  constructor
  · rintro ⟨⟨hmem, htakes⟩, hgood⟩
    refine ⟨hmem, htakes, fun s' hs' htakes' => ?_⟩
    exact (atLeastAsGood_iff htakes htakes').1 (hgood s' (mem_applicable.2 ⟨hs', htakes'⟩))
  · intro h
    refine ⟨⟨h.mem, h.takes⟩, fun s' hs' => ?_⟩
    obtain ⟨hmem, htakes⟩ := mem_applicable.1 hs'
    exact (atLeastAsGood_iff h.takes htakes).2 (h.closer s' hmem htakes)

theorem best_eq_singleton (hn : (overloads.map Signature.params).Nodup)
    (hs : IsLeast overloads args s) : best (applicable overloads args) = [s] := by
  have hnodup : (best (applicable overloads args)).Nodup :=
    ((hn.of_map.filter _).filter _).filter _
  have hmem (a : Signature) : a ∈ best (applicable overloads args) ↔ a ∈ [s] := by
    rw [mem_best, List.mem_singleton]
    exact ⟨fun ha => ha.eq hn hs, fun ha => ha ▸ hs⟩
  exact List.perm_singleton.1 ((List.perm_ext_iff_of_nodup hnodup (List.nodup_singleton s)).2 hmem)

theorem exists_coerceAll (offset : Nat) (h : Takes args s) :
    ∃ ts, coerceAll offset s.params args = .ok ts := by
  unfold Takes at h
  generalize s.params = params at h
  induction h with
  | nil => exact ⟨[], rfl⟩
  | cons harg _ ih =>
      obtain ⟨ts, hts⟩ := ih
      obtain ⟨steps, hsteps⟩ := Option.isSome_iff_exists.1 harg
      rw [coerceAll, Term.coerceTo?, hsteps, hts]
      exact ⟨_, rfl⟩

end Overload

open Overload

variable {overloads overloads' : List Signature} {args ts : List Term} {name : Ident}
  {s : Signature}

/-- With an overload that takes the arguments, only the number of best ones matters. -/
theorem resolve_of_takes (hs : s ∈ overloads) (htakes : Takes args s) :
    resolve overloads args name =
      match best (applicable overloads args) with
      | [s] => (coerceAll name.offset s.params args).map (s, ·)
      | _ => .error (.ambiguousCall name.name (args.map Term.ty) name.offset) := by
  have happlicable : s ∈ applicable overloads args := mem_applicable.2 ⟨hs, htakes⟩
  have hcandidates : s ∈ overloads.filter (·.params.length == args.length) :=
    List.mem_of_mem_filter happlicable
  have hsome {l : List Signature} (h : s ∈ l) : ¬l.isEmpty = true :=
    Bool.eq_false_iff.1 (List.isEmpty_eq_false_iff_exists_mem.2 ⟨s, h⟩)
  exact (if_neg (hsome hcandidates)).trans ((if_neg (hsome happlicable)).trans rfl)

theorem resolve_of_isLeast (name : Ident) (hn : (overloads.map Signature.params).Nodup)
    (hs : IsLeast overloads args s) :
    ∃ ts, coerceAll name.offset s.params args = .ok ts ∧
      resolve overloads args name = .ok (s, ts) := by
  obtain ⟨ts, hts⟩ := exists_coerceAll name.offset hs.takes
  refine ⟨ts, hts, ?_⟩
  rw [resolve_of_takes hs.mem hs.takes, best_eq_singleton hn hs]
  simp only [hts]
  rfl

theorem resolve_of_not_isLeast (hs : s ∈ overloads) (htakes : Takes args s)
    (hnone : ¬∃ s, IsLeast overloads args s) :
    resolve overloads args name =
      .error (.ambiguousCall name.name (args.map Term.ty) name.offset) := by
  have hbest : best (applicable overloads args) = [] :=
    List.eq_nil_iff_forall_not_mem.2 fun a ha => hnone ⟨a, mem_best.1 ha⟩
  rw [resolve_of_takes hs htakes, hbest]

/-- Overloads none of which takes the arguments are refused before any are compared. -/
theorem resolve_of_not_takes (name : Ident) (hnone : ¬∃ s ∈ overloads, Takes args s) :
    resolve overloads args name =
        .error (.wrongArity name.name (arities overloads) args.length name.offset) ∨
      resolve overloads args name =
        .error (.noMatchingOverload name.name (args.map Term.ty) name.offset) := by
  have happlicable : applicable overloads args = [] := by
    refine List.eq_nil_iff_forall_not_mem.2 fun s hs => hnone ⟨s, mem_applicable.1 hs⟩
  rw [resolve]
  split
  · exact Or.inl rfl
  · right
    rw [show List.filter _ _ = applicable overloads args from rfl, happlicable]
    rfl

theorem resolve_eq_ok_iff (hn : (overloads.map Signature.params).Nodup) :
    resolve overloads args name = .ok (s, ts) ↔
      IsLeast overloads args s ∧ coerceAll name.offset s.params args = .ok ts := by
  constructor
  · intro h
    by_cases htaken : ∃ s ∈ overloads, Takes args s
    · obtain ⟨a, ha, htakes⟩ := htaken
      by_cases hleast : ∃ s, IsLeast overloads args s
      · obtain ⟨b, hb⟩ := hleast
        obtain ⟨ts', hts, hok⟩ := resolve_of_isLeast name hn hb
        cases h.symm.trans hok
        exact ⟨hb, hts⟩
      · cases h.symm.trans (resolve_of_not_isLeast ha htakes hleast)
    · rcases resolve_of_not_takes name htaken with herror | herror
      · cases h.symm.trans herror
      · cases h.symm.trans herror
  · rintro ⟨hs, hts⟩
    obtain ⟨ts', hts', h⟩ := resolve_of_isLeast name hn hs
    cases hts.symm.trans hts'
    exact h

theorem exists_ambiguousCall_iff (hn : (overloads.map Signature.params).Nodup) :
    (∃ quoted types offset, resolve overloads args name =
        .error (.ambiguousCall quoted types offset)) ↔
      (∃ s ∈ overloads, Takes args s) ∧ ¬∃ s, IsLeast overloads args s := by
  constructor
  · rintro ⟨quoted, types, offset, h⟩
    refine ⟨?_, fun ⟨s, hs⟩ => ?_⟩
    · by_contra htaken
      rcases resolve_of_not_takes name htaken with herror | herror
      · cases h.symm.trans herror
      · cases h.symm.trans herror
    · obtain ⟨ts, -, hok⟩ := resolve_of_isLeast name hn hs
      cases h.symm.trans hok
  · rintro ⟨⟨s, hs, htakes⟩, hleast⟩
    exact ⟨_, _, _, resolve_of_not_isLeast hs htakes hleast⟩

/-- Implicit conversions are a partial order on the types.  So overloads with different parameters
have at most one that is the least of those that take some arguments; a call resolves exactly to it,
in whatever order they are listed, and is ambiguous exactly if some take the arguments and none is the
least. -/
theorem isImplicit_resolve_least :
    IsPartialOrder Ty (fun s t => isImplicit s t = true) ∧
      ∀ (overloads : List Signature) (args : List Term) (name : Ident),
        (overloads.map Signature.params).Nodup →
        (∀ s, (∃ ts, resolve overloads args name = .ok (s, ts)) ↔ IsLeast overloads args s) ∧
        (∀ overloads', overloads.Perm overloads' → ∀ call,
          resolve overloads' args name = .ok call ↔ resolve overloads args name = .ok call) ∧
        ((∃ quoted types offset, resolve overloads args name =
            .error (.ambiguousCall quoted types offset)) ↔
          (∃ s ∈ overloads, Takes args s) ∧ ¬∃ s, IsLeast overloads args s) := by
  have horder : IsPartialOrder Ty (fun s t => isImplicit s t = true) :=
    { refl := isImplicit_self
      trans := fun _ _ _ => isImplicit_trans
      antisymm := fun _ _ => isImplicit_antisymm }
  refine ⟨horder, fun overloads args name hn => ⟨fun s => ⟨?_, fun hs => ?_⟩, ?_,
    exists_ambiguousCall_iff hn⟩⟩
  · rintro ⟨ts, h⟩
    exact ((resolve_eq_ok_iff hn).1 h).1
  · obtain ⟨ts, -, h⟩ := resolve_of_isLeast name hn hs
    exact ⟨ts, h⟩
  · rintro overloads' hperm ⟨s, ts⟩
    have hn' : (overloads'.map Signature.params).Nodup := (hperm.map _).nodup_iff.1 hn
    rw [resolve_eq_ok_iff hn', resolve_eq_ok_iff hn]
    exact and_congr_left fun _ => ⟨IsLeast.perm hperm.symm, IsLeast.perm hperm⟩

/-- Of the overloads of `Math.Max` that take a `Byte` and an `Int16`, the one on two `Int16` is the
least. -/
theorem isImplicit_resolve_least_max :
    ∃ overloads s ts, Library.math.member? "max" = some (.method "Max" overloads) ∧
      (overloads.map Signature.params).Nodup ∧
      resolve overloads [.parameter 0 (.word .byte), .parameter 1 (.word .int16)] ⟨"max", 5⟩ =
        .ok (s, ts) ∧
      s.params = [.word .int16, .word .int16] ∧
      IsLeast overloads [.parameter 0 (.word .byte), .parameter 1 (.word .int16)] s := by
  have hn : ((Library.numberKinds.map fun k =>
      (⟨[.numeric k, .numeric k], .numeric k, .max⟩ : Signature)).map Signature.params).Nodup := by
    decide
  refine ⟨_, _, _, rfl, hn, rfl, rfl, ?_⟩
  exact ((isImplicit_resolve_least.2 _ _ ⟨"max", 5⟩ hn).1 _).1 ⟨_, rfl⟩

end Elementwise.Typing
