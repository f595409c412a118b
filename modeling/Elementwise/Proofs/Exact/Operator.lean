import Elementwise.Proofs.Exact.Arithmetic
import Elementwise.Proofs.Exact.Coercion
import Elementwise.Proofs.Nullable.Operator

/-!
Operators on exact numbers are exact.  Operands of different kinds meet in a kind that holds the
values of both, so the conversions before an operation lose nothing, and the operation is that on
the numbers themselves.
-/

namespace Elementwise

open Eval
open Number (NumericKind Word WordKind)

namespace Ty

theorem isExact_of_isWhole {t : Ty} (h : t.isWhole = true) : t.isExact = true := by
  rw [isExact, h, Bool.true_or]

theorem isValueType_of_isExact {t : Ty} (h : t.isExact = true) : t.isValueType = true := by
  rcases isExact_cases h with ⟨k, rfl⟩ | rfl <;> rfl

theorem ne_of_isExact {t u : Ty} (h : t.isExact = true) (hu : u.isExact = false) : t ≠ u := by
  rintro rfl
  rw [h] at hu
  cases hu

theorem isExact_numeric {k : NumericKind} :
    (numeric k).isExact = true ↔ k.integral = true ∨ k = .decimal := by
  rw [isExact, Bool.or_eq_true, decide_eq_true_iff, numeric.injEq]
  rfl

/-- Exact types without the 16 bits that do not hold all characters. -/
def keepsNumbers (t : Ty) : Bool :=
  t.isExact && !(t = char || t = word .uint16)

theorem keepsNumbers_iff {t : Ty} :
    t.keepsNumbers = true ↔ t.isExact = true ∧ t ≠ char ∧ t ≠ word .uint16 := by
  rw [keepsNumbers, Bool.and_eq_true, Bool.not_eq_true', Bool.or_eq_false_iff,
    decide_eq_false_iff_not, decide_eq_false_iff_not]

end Ty

namespace Typing

variable {op : BinaryOperator} {l r t c : Term} {s w target : Ty} {steps : List (Coercion × Ty)}
  {env : List Value} {v : Value} {p q : ℚ} {x y : Int} {offset : Nat}

/-! ### Operands -/

theorem Implicit.run_exact (h : Implicit s target steps) (hs : s.isExact = true)
    (htarget : target.keepsNumbers = true) (hv : v.HasType s) (hp : v.toRat? = some p) :
    ∃ w, Typing.run steps v = .ok w ∧ w.HasType target ∧ w.toRat? = some p := by
  obtain ⟨hexact, hchar, hshort⟩ := Ty.keepsNumbers_iff.1 htarget
  cases h with
  | same => exact ⟨v, rfl, hv, hp⟩
  | @numeric j k h hne =>
      obtain ⟨n, rfl, rfl⟩ := Value.hasType_numeric.1 hv
      obtain ⟨m, q, hm, hq, hmq⟩ := castNumber_exact (Ty.isExact_numeric.1 hexact) h fun _ _ =>
        Or.inr ⟨fun hk => hchar (congrArg Ty.numeric hk), fun hk => hshort (congrArg Ty.numeric hk)⟩
      obtain rfl := Option.some.inj (hq.symm.trans hp)
      exact ⟨.number m, (run_single _ _ _).trans (cast_number_eq_ok_iff.2 ⟨m, hm, rfl⟩),
        Value.hasType_numeric.2 ⟨m, rfl, castNumber_kind hm⟩, hmq⟩
  | upcast href =>
      have hvalue := Ty.isValueType_of_isExact hs
      rw [Ty.isValueType, href] at hvalue
      cases hvalue
  | nullLiteral | liftedNumeric => cases hs
  | box | wrap => cases hexact

/-- The term has an exact type, and a value of that type which stands for the number. -/
structure Denotes (env : List Value) (t : Term) (p : ℚ) : Prop where
  isExact : t.ty.isExact = true
  value : ∃ v, evaluate t env = .ok v ∧ v.HasType t.ty ∧ v.toRat? = some p

namespace Denotes

theorem of_conformsTo (ht : t.ty.isExact = true) (hv : evaluate t env = .ok v)
    (hty : v.conformsTo t.ty = true) (hp : v.toRat? = some p) : Denotes env t p :=
  ⟨ht, v, hv, Value.hasType_of_isExact ht hty, hp⟩

/-- A conversion to a type that keeps numbers does not change what an operand stands for. -/
theorem coerceTo? (h : Denotes env t p) (htarget : target.keepsNumbers = true)
    (hc : t.coerceTo? target = some c) : Denotes env c p := by
  obtain ⟨v, hv, hty, hp⟩ := h.value
  obtain ⟨steps, hsteps, -⟩ := Option.map_eq_some_iff.1 hc
  obtain ⟨w, hrun, hw, hwp⟩ :=
    (implicit_of_implicitSteps? hsteps).run_exact h.isExact htarget hty hp
  rw [← coerceTo?_ty hc] at htarget hw
  refine ⟨(Ty.keepsNumbers_iff.1 htarget).1, w, ?_, hw, hwp⟩
  rw [evaluate_coerceTo? hsteps hc, hv]
  exact hrun

/-- A day of the week takes part in arithmetic as its number. -/
theorem numberOfDay (h : Denotes env t p) (ht : t.ty.isWhole = true) :
    Denotes env (numberOfDay t) p ∧
      ∃ k : NumericKind, k.integral = true ∧ (numberOfDay t).ty = .numeric k := by
  rcases Ty.isExact_cases h.isExact with ⟨k, hk⟩ | hday
  · have hself : Typing.numberOfDay t = t := by
      rw [Typing.numberOfDay, hk]
      rfl
    rw [hself]
    rw [hk] at ht
    exact ⟨h, k, ht, hk⟩
  · have hconvert : Typing.numberOfDay t = t.convert (.ofDayOfWeek false) .int32 := by
      rw [Typing.numberOfDay, hday]
      rfl
    obtain ⟨v, hv, hty, hp⟩ := h.value
    rw [hday] at hty
    obtain ⟨w, rfl⟩ := Value.hasType_dayOfWeek.1 hty
    rw [hconvert]
    refine ⟨⟨rfl, .int32 w, ?_, Value.hasType_word.2 ⟨w, rfl⟩, hp⟩, _, rfl, rfl⟩
    rw [evaluate, hv]
    rfl

theorem exists_word {k : WordKind} (h : Denotes env t x) (ht : t.ty = .word k) :
    ∃ a : Word k, a.val = x ∧ evaluate t env = .ok (.number (.word k a)) := by
  obtain ⟨v, hv, hty, hx⟩ := h.value
  rw [ht] at hty
  obtain ⟨a, rfl⟩ := Value.hasType_word.1 hty
  exact ⟨a, Int.cast_inj.1 (Option.some.inj hx), hv⟩

theorem isValueType (h : Denotes env t p) : t.ty.isValueType = true :=
  Ty.isValueType_of_isExact h.isExact

theorem isNullLiteral (h : Denotes env t p) : t.isNullLiteral = false :=
  decide_eq_false (Ty.ne_of_isExact h.isExact rfl)

theorem isNullable (h : Denotes env t p) : t.ty.isNullable = false :=
  isNullable_of_isValueType h.isValueType

theorem underlying (h : Denotes env t p) : t.ty.underlying = t.ty :=
  underlying_of_isNullable_false h.isNullable

end Denotes

/-! ### Promotion -/

/-- Two kinds meet in one of them or in a kind of words. -/
theorem promote?_eq {j k m : NumericKind} (h : promote? j k = some m) :
    m = j ∨ m = k ∨ ∃ b, m = .word b := by
  have either {m : NumericKind} (h : (j == m || k == m) = true) :
      m = j ∨ m = k ∨ ∃ b, m = .word b := by
    rw [Bool.or_eq_true, beq_iff_eq, beq_iff_eq] at h
    rcases h with rfl | rfl
    · exact Or.inl rfl
    · exact Or.inr (Or.inl rfl)
  unfold promote? at h
  dsimp only at h
  split at h
  · split at h
    · cases h
    · cases h
      exact either (by assumption)
  split at h
  · cases h
    exact either (by assumption)
  split at h
  · cases h
    exact either (by assumption)
  refine Or.inr (Or.inr ?_)
  repeat' split at h
  all_goals cases h <;> exact ⟨_, rfl⟩

/-- Exact numbers are compared and calculated with in kinds that keep them. -/
theorem keepsNumbers_of_promote? {j k m : NumericKind} (hj : (Ty.numeric j).isExact = true)
    (hk : (Ty.numeric k).isExact = true) (h : promote? j k = some m) :
    (Ty.numeric m).keepsNumbers = true := by
  have hm := promote?_mem h
  refine Ty.keepsNumbers_iff.2 ⟨?_, ?_, ?_⟩
  · rcases promote?_eq h with rfl | rfl | ⟨b, rfl⟩
    · exact hj
    · exact hk
    · rfl
  · rintro ⟨⟩
    exact absurd hm (by decide)
  · rintro ⟨⟩
    exact absurd hm (by decide)

/-- Two exact types are compared in a type that keeps numbers: the kind where two numbers meet, or
the type that both are. -/
theorem keepsNumbers_of_promoteTypes? {other : Option Ty} (hs : s.isExact = true)
    (ht : target.isExact = true) (hother : ∀ w, other = some w → s = target ∧ w = s)
    (h : (promoteTypes? s target).getD other = some w) : w.keepsNumbers = true := by
  rcases Ty.isExact_cases hs with ⟨j, rfl⟩ | rfl
  · rcases Ty.isExact_cases ht with ⟨k, rfl⟩ | rfl
    · obtain ⟨m, hm, rfl⟩ := Option.map_eq_some_iff.1 h
      exact keepsNumbers_of_promote? hs ht hm
    · -- a number and a day of the week are not compared
      obtain ⟨heq, -⟩ := hother w h
      cases heq
  · obtain ⟨-, rfl⟩ := hother w h
    rfl

/-- Integers are calculated with as words. -/
theorem eq_word_of_promote? {j k m : NumericKind} (hj : j.integral = true)
    (hk : k.integral = true) (h : promote? j k = some m) :
    ∃ b, m = .word b ∧ hasArithmetic b = true := by
  have hm := promote?_mem h
  have hintegral : m.integral = true := by
    rcases promote?_eq h with rfl | rfl | ⟨b, rfl⟩
    · exact hj
    · exact hk
    · rfl
  cases m with
  | word b =>
      refine ⟨b, rfl, ?_⟩
      revert hm
      cases b <;> decide
  | char => exact absurd hm (by decide)
  | single | double | decimal => cases hintegral

/-! ### Operations -/

theorem comparison_exact {target? : Option Ty} {b : Bool} (hl : Denotes env l p)
    (hr : Denotes env r q) (htarget : ∀ w, target? = some w → w.keepsNumbers = true)
    (hc : comparison op l r target? false offset = .ok t) (h : op.truth? p q = some b) :
    t.ty = .boolean ∧ evaluate t env = .ok (.boolean b) := by
  obtain ⟨w, cl, cr, rfl, hcl, hcr, rfl⟩ := comparison_eq_ok_iff.1 hc
  have hw := htarget w rfl
  have hop : operation op ≠ .and ∧ operation op ≠ .or := by
    cases op with
    | and | or | coalesce => cases h
    | _ => exact ⟨nofun, nofun⟩
  obtain ⟨v, hv, hvty, hp⟩ := (hl.coerceTo? hw hcl).value
  obtain ⟨v', hv', hvty', hq⟩ := (hr.coerceTo? hw hcr).value
  rw [coerceTo?_ty hcl] at hvty
  rw [coerceTo?_ty hcr] at hvty'
  refine ⟨rfl, ?_⟩
  rw [evaluate_binary hop.1 hop.2, hv, hv']
  exact binaryOn_truth (Ty.keepsNumbers_iff.1 hw).1 hvty hvty' hp hq h

theorem binaryOn_words {k : WordKind} (hk : hasArithmetic k = true)
    (hop : (operation op).isArithmetic = true) (a b : Word k) :
    binaryOn (operation op) false (.number (.word k a)) (.number (.word k b)) =
      wordArithmetic (operation op) k a b := by
  have harithmetic : Eval.arithmetic (operation op) (.number (.word k a)) (.number (.word k b)) =
      wordArithmetic (operation op) k a b := by
    rw [Eval.arithmetic, dif_pos rfl, if_pos hk]
  cases op with
  | add | subtract | multiply | divide | modulo => exact harithmetic
  | _ => cases hop

theorem arithmetic_exact (hl : Denotes env l x) (hr : Denotes env r y)
    (hlw : l.ty.isWhole = true) (hrw : r.ty.isWhole = true)
    (hop : (operation op).isArithmetic = true)
    (hc : Typing.arithmetic op l r false offset = .ok t) :
    ∃ k, t.ty = .word k ∧ Calculates op k x y (evaluate t env) := by
  obtain ⟨w, cl, cr, hw, hcl, hcr, rfl⟩ := arithmetic_eq_ok_iff.1 hc
  obtain ⟨hl, j, hj, hlty⟩ := hl.numberOfDay hlw
  obtain ⟨hr, k, hk, hrty⟩ := hr.numberOfDay hrw
  rw [hlty, hrty] at hw
  obtain ⟨m, hm, rfl⟩ := Option.map_eq_some_iff.1 hw
  obtain ⟨b, rfl, hb⟩ := eq_word_of_promote? hj hk hm
  have hkeeps := keepsNumbers_of_promote? (hlty ▸ hl.isExact) (hrty ▸ hr.isExact) hm
  obtain ⟨u, rfl, hu⟩ := (hl.coerceTo? hkeeps hcl).exists_word (coerceTo?_ty hcl)
  obtain ⟨u', rfl, hu'⟩ := (hr.coerceTo? hkeeps hcr).exists_word (coerceTo?_ty hcr)
  have hne : operation op ≠ .and ∧ operation op ≠ .or := by
    constructor <;> intro h <;> rw [h] at hop <;> cases hop
  refine ⟨b, rfl, ?_⟩
  rw [evaluate_binary hne.1 hne.2, hu, hu']
  change Calculates op b u.val u'.val (binaryOn _ false _ _)
  rw [binaryOn_words hb hop]
  exact wordArithmetic_calculates hop

/-! ### Operators -/

section Comparison

variable {b : Bool} (hl : Denotes env l p) (hr : Denotes env r q) (h : op.truth? p q = some b)
include hl hr h

theorem equality_exact (hc : equality op l r offset = .ok t) :
    t.ty = .boolean ∧ evaluate t env = .ok (.boolean b) := by
  unfold equality at hc
  rw [hl.isNullLiteral, hr.isNullLiteral, if_neg Bool.false_ne_true, if_neg Bool.false_ne_true]
    at hc
  dsimp only at hc
  rw [hl.isNullable, hr.isNullable, hl.underlying, hr.underlying] at hc
  refine comparison_exact hl hr (fun w => ?_) hc h
  refine keepsNumbers_of_promoteTypes? hl.isExact hr.isExact fun w hw => ?_
  split at hw
  · cases hw
    exact ⟨by assumption, rfl⟩
  · -- neither operand is an object
    rw [decide_eq_false (Ty.ne_of_isExact hl.isExact rfl),
      decide_eq_false (Ty.ne_of_isExact hr.isExact rfl)] at hw
    cases hw

theorem relational_exact (hc : relational op l r false offset = .ok t) :
    t.ty = .boolean ∧ evaluate t env = .ok (.boolean b) := by
  unfold relational at hc
  dsimp only at hc
  rw [hl.underlying, hr.underlying] at hc
  refine comparison_exact hl hr (fun w => ?_) hc h
  refine keepsNumbers_of_promoteTypes? hl.isExact hr.isExact fun w hw => ?_
  split at hw
  · rename_i heq
    cases hw
    rw [Bool.and_eq_true, decide_eq_true_iff] at heq
    exact ⟨heq.1, rfl⟩
  · cases hw

theorem binary_truth (hc : Typing.binary op l r offset = .ok t) :
    t.ty = .boolean ∧ evaluate t env = .ok (.boolean b) := by
  unfold Typing.binary at hc
  rw [hl.isNullable, hr.isNullable] at hc
  cases op with
  | equal | notEqual => exact equality_exact hl hr h hc
  | lessThan | greaterThan | lessEqual | greaterEqual => exact relational_exact hl hr h hc
  | _ => cases h

end Comparison

section Arithmetic

variable (hl : Denotes env l x) (hr : Denotes env r y) (hlw : l.ty.isWhole = true)
  (hrw : r.ty.isWhole = true)
include hl hr hlw hrw

theorem additive_exact (hop : (operation op).isArithmetic = true)
    (hc : additive op l r false offset = .ok t) :
    ∃ k, t.ty = .word k ∧ Calculates op k x y (evaluate t env) := by
  have htemporal : temporal? op l.ty.underlying r.ty.underlying = none := by
    rcases Ty.isExact_cases hl.isExact with ⟨j, hj⟩ | hj <;> rw [hj] <;> rfl
  unfold additive at hc
  rw [htemporal] at hc
  exact arithmetic_exact hl hr hlw hrw hop hc

theorem binary_calculates (hcoalesce : op ≠ .coalesce) (h : op.truth? x y = none)
    (hc : Typing.binary op l r offset = .ok t) :
    ∃ k, t.ty = .word k ∧ Calculates op k x y (evaluate t env) := by
  unfold Typing.binary at hc
  rw [hl.isNullable, hr.isNullable] at hc
  cases op with
  | subtract | multiply | divide | modulo => exact additive_exact hl hr hlw hrw rfl hc
  | add =>
      -- neither operand is a text that the other would be appended to
      dsimp only at hc
      rw [decide_eq_false (Ty.ne_of_isExact hl.isExact rfl),
        decide_eq_false (Ty.ne_of_isExact hr.isExact rfl)] at hc
      exact additive_exact hl hr hlw hrw rfl hc
  | and | or =>
      dsimp only at hc
      rw [decide_eq_false (Ty.ne_of_isExact hl.isExact rfl)] at hc
      cases hc
  | coalesce => exact absurd rfl hcoalesce
  | _ => cases h

end Arithmetic

/-! ### Expressions -/

/-- What an operator between two expressions binds to, where the left one denotes an exact number;
such a number is never missing, so the operator is not the one for missing values. -/
theorem binary_of_bind {catalog : Catalog} {e₁ e₂ : Expr} {np : Bool} {scopes : List Scope}
    (hl : bind catalog e₁ false scopes = .ok l) (hr : bind catalog e₂ false scopes = .ok r)
    (ht : bind catalog (.binary op e₁ e₂ offset) np scopes = .ok t) (h : Denotes env l p) :
    op ≠ .coalesce ∧ Typing.binary op l r offset = .ok t := by
  rw [bind, hl, hr] at ht
  cases op with
  | coalesce =>
      change coalesce l r offset = .ok t at ht
      rw [coalesce, h.isNullLiteral, if_neg Bool.false_ne_true,
        acceptsNull_of_isValueType h.isValueType] at ht
      cases ht
  | _ => exact ⟨by decide, ht⟩

/-- Operators on operands that stand for integers, whatever their kinds, are exact: comparisons have
the truth value of the comparison of the integers, and arithmetic computes with the integers in the
kind of the result.  Comparisons are exact between decimals and integers as well. -/
theorem bind_binary_exact {catalog : Catalog} {e₁ e₂ : Expr} {np : Bool} {scopes : List Scope}
    {a b : Value} (hl : bind catalog e₁ false scopes = .ok l)
    (hr : bind catalog e₂ false scopes = .ok r)
    (ht : bind catalog (.binary op e₁ e₂ offset) np scopes = .ok t)
    (ha : evaluate l env = .ok a) (hb : evaluate r env = .ok b)
    (hal : a.conformsTo l.ty = true) (hbr : b.conformsTo r.ty = true) :
    (l.ty.isWhole = true → r.ty.isWhole = true →
      ∃ x y : Int, a.toRat? = some (x : ℚ) ∧ b.toRat? = some (y : ℚ) ∧
        match op.truth? x y with
        | some holds => t.ty = .boolean ∧ evaluate t env = .ok (.boolean holds)
        | none => ∃ k, t.ty = .word k ∧ Calculates op k x y (evaluate t env)) ∧
      (l.ty.isExact = true → r.ty.isExact = true →
        ∃ p q, a.toRat? = some p ∧ b.toRat? = some q ∧ ∀ holds, op.truth? p q = some holds →
          t.ty = .boolean ∧ evaluate t env = .ok (.boolean holds)) := by
  constructor
  · intro hlw hrw
    have hls := Ty.isExact_of_isWhole hlw
    have hrs := Ty.isExact_of_isWhole hrw
    obtain ⟨x, hx⟩ := Value.exists_integer hlw (Value.hasType_of_isExact hls hal)
    obtain ⟨y, hy⟩ := Value.exists_integer hrw (Value.hasType_of_isExact hrs hbr)
    have hlx := Denotes.of_conformsTo hls ha hal hx
    have hry := Denotes.of_conformsTo hrs hb hbr hy
    obtain ⟨hcoalesce, hbinary⟩ := binary_of_bind hl hr ht hlx
    refine ⟨x, y, hx, hy, ?_⟩
    cases htruth : op.truth? x y with
    | some holds => exact binary_truth hlx hry ((op.truth?_cast x y).trans htruth) hbinary
    | none => exact binary_calculates hlx hry hlw hrw hcoalesce htruth hbinary
  · intro hls hrs
    obtain ⟨p, hp⟩ := Value.exists_toRat? hls (Value.hasType_of_isExact hls hal)
    obtain ⟨q, hq⟩ := Value.exists_toRat? hrs (Value.hasType_of_isExact hrs hbr)
    have hlp := Denotes.of_conformsTo hls ha hal hp
    have hrq := Denotes.of_conformsTo hrs hb hbr hq
    exact ⟨p, q, hp, hq, fun holds htruth =>
      binary_truth hlp hrq htruth (binary_of_bind hl hr ht hlp).2⟩

/-- A signed byte divided by a character is truncated toward zero, as a 32-bit integer. -/
theorem bind_binary_exact_truncated :
    ∃ t, bind .standard (.binary .divide (.it 0) (.literal (.char 'c')) 3) false
        [⟨itKey, .word .sbyte⟩] = .ok t ∧ t.ty = .int32 ∧
      ∃ w : Word .int32,
        evaluate t [.number (.word .sbyte (.wrap .sbyte (-100)))] = .ok (.int32 w) ∧
          w.val = -1 := by
  have ht : bind .standard (.binary .divide (.it 0) (.literal (.char 'c')) 3) false
      [⟨itKey, .word .sbyte⟩] = .ok (.binary .divide
        (.coerce (.numeric (.word .int32)) (.parameter 0 (.word .sbyte)) .int32)
        (.coerce (.numeric (.word .int32)) (.constant (.char 'c') .char) .int32) false .int32) :=
    rfl
  have ha : evaluate (.parameter 0 (.word .sbyte)) [.number (.word .sbyte (.wrap .sbyte (-100)))] =
      .ok (.number (.word .sbyte (.wrap .sbyte (-100)))) := rfl
  obtain ⟨x, y, hx, hy, k, hk, h⟩ := (bind_binary_exact rfl rfl ht ha rfl rfl rfl).1 rfl rfl
  obtain rfl : -100 = x := Int.cast_inj.1 (Option.some.inj hx)
  obtain rfl : 99 = y := Int.cast_inj.1 (Option.some.inj hy)
  cases hk
  obtain ⟨w, hw, hval⟩ := h
  exact ⟨_, ht, rfl, w, hw, hval⟩

end Typing

end Elementwise
