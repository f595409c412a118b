import Elementwise.Proofs.Exact.Operator
import Mathlib.Algebra.BigOperators.Group.List.Basic
import Mathlib.Algebra.Field.Rat
import Mathlib.Tactic.NormNum

/-!
Sums of integers.  The items of an array are added as 32-bit or 64-bit integers where one of these
kinds holds the items, and then every sum that is found is that of the items.  The unsigned words of
64 bits go to neither; they are added in single precision, where a sum is found that is not theirs.
-/

namespace Elementwise

open Eval
open Number (NumericKind Word WordKind)

/-! ### What numbers of all kinds stand for -/

/-- The number that a binary number is. -/
def Number.Binary.toRat? : Number.Binary → Option ℚ
  | .finite negative m e => some ((if negative then -1 else 1) * m * 2 ^ e)
  | _ => none

/-- The number that a value stands for, in floating point as well. -/
def Value.denotation? : Value → Option ℚ
  | .number (.single x) => (Number.Binary.ofFloat32 x).toRat?
  | .number (.double x) => (Number.Binary.ofFloat x).toRat?
  | v => v.toRat?

namespace Eval

/-! ### Sums of words -/

section Words

variable {k : WordKind} {total n : Int} {ws : List (Word k)}

/-- One step of a sum of words. -/
def addWord (total : Int) (v : Value) : Except Fault Int := do
  let n ← match v with
    | .number (.word .int32 w) => .ok w.val
    | .number (.word .int64 w) => .ok w.val
    | v => .error (.unexpected v "Sum")
  match Word.ofInt? .int64 (total + n) with
  | some w => .ok w.val
  | none => .error (sumOverflow (.word .int64))

theorem sumWords_eq (values : List Value) : sumWords values = values.foldlM addWord 0 :=
  rfl

theorem addWord_word (hk : k = .int32 ∨ k = .int64) {w : Word k} :
    addWord total (.number (.word k w)) =
      match Word.ofInt? .int64 (total + w.val) with
      | some w => .ok w.val
      | none => .error (sumOverflow (.word .int64)) := by
  rcases hk with rfl | rfl <;> rfl

/-- A step that does not fault adds the number, and stays in the 64-bit range. -/
theorem addWord_eq_ok (hk : k = .int32 ∨ k = .int64) {w : Word k}
    (h : addWord total (.number (.word k w)) = .ok n) :
    n = total + w.val ∧ ∃ sum : Word .int64, sum.val = n := by
  rw [addWord_word hk] at h
  split at h
  · rename_i sum hsum
    cases h
    exact ⟨Word.ofInt?_eq_some.1 hsum, sum, rfl⟩
  · cases h

/-- All steps together add all numbers; the start is given, so that the list can be taken apart. -/
theorem foldlM_addWord (hk : k = .int32 ∨ k = .int64)
    (hstart : ∃ sum : Word .int64, sum.val = total)
    (h : (ws.map fun w => Value.number (.word k w)).foldlM addWord total = .ok n) :
    n = total + (ws.map (·.val)).sum ∧ ∃ sum : Word .int64, sum.val = n := by
  induction ws generalizing total with
  | nil =>
      cases h
      exact ⟨(add_zero _).symm, hstart⟩
  | cons w ws ih =>
      rw [List.map_cons, List.foldlM_cons] at h
      cases hw : addWord total (.number (.word k w)) with
      | error f =>
          rw [hw] at h
          cases h
      | ok next =>
          rw [hw] at h
          obtain ⟨rfl, hnext⟩ := addWord_eq_ok hk hw
          obtain ⟨rfl, hn⟩ := ih hnext h
          rw [List.map_cons, List.sum_cons, ← add_assoc]
          exact ⟨rfl, hn⟩

/-- The sum of words is theirs, where it does not fault. -/
theorem sum_words {v : Value} (hk : k = .int32 ∨ k = .int64)
    (h : sum (.word k) (ws.map fun w => Value.number (.word k w)) = .ok v) :
    ∃ w : Word k, v = .number (.word k w) ∧ w.val = (ws.map (·.val)).sum := by
  have htotal {n : Int} (hn : sumWords (ws.map fun w => Value.number (.word k w)) = .ok n) :
      n = (ws.map (·.val)).sum ∧ ∃ sum : Word .int64, sum.val = n := by
    rw [sumWords_eq] at hn
    obtain ⟨hsum, hn⟩ := foldlM_addWord hk ⟨.zero .int64, rfl⟩ hn
    exact ⟨hsum.trans (zero_add _), hn⟩
  cases hn : sumWords (ws.map fun w => Value.number (.word k w)) with
  | error f =>
      rcases hk with rfl | rfl <;> rw [sum, hn] at h <;> cases h
  | ok n =>
      obtain ⟨hsum, w, rfl⟩ := htotal hn
      rcases hk with rfl | rfl
      · rw [sum, hn, ok_bind] at h
        split at h
        · rename_i w' hw'
          cases h
          exact ⟨w', rfl, (Word.ofInt?_eq_some.1 hw').trans hsum⟩
        · cases h
      · rw [sum, hn] at h
        cases h
        exact ⟨w, congrArg (fun w => Value.number (.word .int64 w)) (Word.wrap_val w), hsum⟩

end Words

end Eval

namespace Typing

variable {env : List Value} {items : List Value} {k : NumericKind} {m : WordKind}

/-! ### Items as addends -/

/-- Where a function makes a word of every item that stands for the same integer, it makes words of
all items. -/
theorem exists_words {f : ItemFunction}
    (h : ∀ item ∈ items, ∃ x : Int, item.denotation? = some (x : ℚ) ∧
      ∃ w : Word m, w.val = x ∧ f item = .ok (.number (.word m w))) :
    ∃ ws : List (Word m), project f items = .ok (ws.map fun w => .number (.word m w)) ∧
      items.map Value.denotation? = ws.map fun w => some (w.val : ℚ) := by
  induction items with
  | nil => exact ⟨[], rfl, rfl⟩
  | cons item items ih =>
      obtain ⟨⟨x, hx, w, rfl, hw⟩, hrest⟩ := List.forall_mem_cons.1 h
      obtain ⟨ws, hproject, hsummands⟩ := ih hrest
      refine ⟨w :: ws, ?_, ?_⟩
      · rw [project, hw, hproject]
        rfl
      · rw [List.map_cons, List.map_cons, hx, hsummands]

/-- The kind in which integers of a kind are added. -/
theorem aggregateKind?_of_integral (hk : k.integral = true) (hne : k ≠ .word .uint64) :
    ∃ m, (m = .int32 ∨ m = .int64) ∧ Query.aggregateKind? (.numeric k) = some (.word m) ∧
      isImplicit (.numeric k) (.word m) = true := by
  cases k with
  | char => exact ⟨.int32, Or.inl rfl, rfl, rfl⟩
  | word b =>
      cases b with
      | sbyte | byte | int16 | uint16 | int32 => exact ⟨.int32, Or.inl rfl, rfl, rfl⟩
      | uint32 | int64 => exact ⟨.int64, Or.inr rfl, rfl, rfl⟩
      | uint64 => exact absurd rfl hne
  | single | double | decimal => cases hk

theorem denotation?_of_integral {item : Value} (hk : k.integral = true)
    (hitem : item.conformsTo (.numeric k) = true) : item.denotation? = item.toRat? := by
  obtain ⟨n, rfl, rfl⟩ := Value.hasType_numeric.1
    (Value.hasType_of_isExact (Ty.isExact_numeric.2 (Or.inl hk)) hitem)
  cases n with
  | char | word => rfl
  | single | double | decimal => cases hk

/-- An item is an addend as the integer that it stands for. -/
theorem exists_addend {body : Term} {item : Value} (hk : k.integral = true)
    (hm : m = .int32 ∨ m = .int64) (hitem : item.conformsTo (.numeric k) = true)
    (hbody : (Term.parameter 0 (.numeric k)).coerceTo? (.word m) = some body) :
    ∃ x : Int, item.denotation? = some (x : ℚ) ∧
      ∃ w : Word m, w.val = x ∧ evaluate body (item :: env) = .ok (.number (.word m w)) := by
  have hexact : (Ty.numeric k).isExact = true := Ty.isExact_numeric.2 (Or.inl hk)
  have hkeeps : (Ty.word m).keepsNumbers = true := by
    rcases hm with rfl | rfl <;> rfl
  obtain ⟨x, hx⟩ := Value.exists_integer (t := .numeric k) hk (Value.hasType_of_isExact hexact hitem)
  have hitself : Denotes (item :: env) (.parameter 0 (.numeric k)) x :=
    .of_conformsTo hexact (by rw [evaluate]; rfl) hitem hx
  exact ⟨x, (denotation?_of_integral hk hitem).trans hx,
    (hitself.coerceTo? hkeeps hbody).exists_word (coerceTo?_ty hbody)⟩

/-! ### The query -/

/-- `it.Sum()`, with the name spelled in some way. -/
def sumOfInput (name : Ident) : Expr :=
  .call (.member (.it 0) name) [] name.offset

/-- What `it.Sum()` binds to on an array of numbers. -/
theorem bind_sumOfInput {catalog : Catalog} {name : Ident} {j : NumericKind} {body : Term}
    (hname : QueryOperator.ofName? name.name = some .sum)
    (hj : Query.aggregateKind? (.numeric k) = some j)
    (hbody : (Term.parameter 0 (.numeric k)).coerceTo? (.numeric j) = some body) :
    bindInput catalog (sumOfInput name) (.array (.numeric k)) =
      .ok (.query (.sum j) (.parameter 0 (.array (.numeric k))) (some body) [] false
        (.numeric j)) := by
  have haddend : Query.addend [⟨itKey, .array (.numeric k)⟩] (.numeric k) none name .sum =
      .ok (j, body) := by
    have hkind : Query.aggregateKind? (Term.parameter 0 (.numeric k)).ty = some j := hj
    simp only [Query.addend, Query.selector, ok_bind, hkind, hbody]
  have hplan : Query.plan [⟨itKey, .array (.numeric k)⟩] (.numeric k) .sum name [] =
      .ok { query := .sum j, body := body, ty := .numeric j } := by
    rw [Query.plan, Query.optionalArgument]
    change (Query.addend _ _ none name .sum >>= _) = _
    rw [haddend]
    rfl
  have hcall : bindInput catalog (sumOfInput name) (.array (.numeric k)) =
      bindMethodCall (.parameter 0 (.array (.numeric k))) name [] false
        [⟨itKey, .array (.numeric k)⟩] := rfl
  rw [hcall, bindMethodCall, hname]
  change query _ (.numeric k) .sum name [] false _ = _
  rw [query, hplan]
  rfl

/-- Whatever `it.Sum()` gives on an array of numbers of the kind is the sum of what the items stand
for. -/
def SumsExactly (catalog : Catalog) (name : Ident) (k : NumericKind) : Prop :=
  ∃ t, bindInput catalog (sumOfInput name) (.array (.numeric k)) = .ok t ∧
    ∀ items v, (Value.array items).conformsTo (.array (.numeric k)) = true →
      evaluate t [.array items] = .ok v →
        ∃ xs : List Int, (items.map Value.denotation? = xs.map fun x : Int => some (x : ℚ)) ∧
          v.denotation? = some ((xs.sum : Int) : ℚ)

variable {catalog : Catalog} {name : Ident}

theorem sumsExactly_of_ne (hname : QueryOperator.ofName? name.name = some .sum)
    (hk : k.integral = true) (hne : k ≠ .word .uint64) : SumsExactly catalog name k := by
  obtain ⟨m, hm, hkind, himplicit⟩ := aggregateKind?_of_integral hk hne
  obtain ⟨steps, hsteps⟩ := Option.isSome_iff_exists.1 himplicit
  obtain ⟨body, hbody, -⟩ := exists_coerceTo? (t := .parameter 0 (.numeric k)) hsteps
  refine ⟨_, bind_sumOfInput hname hkind hbody, fun items v hitems hv => ?_⟩
  obtain ⟨ws, hproject, hsummands⟩ := exists_words
    (f := fun item => evaluate body [item, .array items]) fun item hitem =>
      exists_addend hk hm (List.all_eq_true.1 hitems item hitem) hbody
  have hquery : evaluate (.query (.sum (.word m)) (.parameter 0 (.array (.numeric k))) (some body) []
      false (.word m)) [.array items] =
        project (fun item => evaluate body [item, .array items]) items >>= sum (.word m) := rfl
  rw [hquery, hproject] at hv
  obtain ⟨w, rfl, hw⟩ := sum_words hm hv
  refine ⟨ws.map (·.val), ?_, ?_⟩
  · rw [hsummands, List.map_map]
    rfl
  · rw [← hw]
    rfl

/-! ### Unsigned words of 64 bits -/

/-- The least integer that single precision does not hold. -/
def unheld : Value :=
  .number (.word .uint64 (.wrap .uint64 16777217))

theorem denotation?_unheld : unheld.denotation? = some 16777217 :=
  rfl

theorem denotation?_single :
    (Value.single (Number.float32OfInt 16777216)).denotation? = some 16777216 := by
  have hdecode : Number.Binary.ofFloat32 (Number.float32OfInt 16777216) =
      .finite false 8388608 1 := by decide
  have hvalue : (Value.single (Number.float32OfInt 16777216)).denotation? =
      (Number.Binary.ofFloat32 (Number.float32OfInt 16777216)).toRat? := by
    rw [Value.single, Value.denotation?]
  rw [hvalue, hdecode, Number.Binary.toRat?]
  norm_num

theorem not_sumsExactly (hname : QueryOperator.ofName? name.name = some .sum) :
    ¬SumsExactly catalog name (.word .uint64) := by
  rintro ⟨t, ht, h⟩
  cases (bind_sumOfInput hname rfl rfl).symm.trans ht
  obtain ⟨xs, hxs, hsum⟩ := h [unheld] (.single (Number.float32OfInt 16777216)) rfl rfl
  obtain ⟨x, rfl, hx⟩ := List.map_eq_singleton_iff.1 hxs.symm
  have hx' : (x : ℚ) = 16777217 := Option.some.inj (hx.trans denotation?_unheld)
  rw [denotation?_single, List.sum_singleton, hx'] at hsum
  exact absurd (Option.some.inj hsum) (by norm_num)

/-- Sums of integers are exact for all kinds but the unsigned words of 64 bits. -/
theorem sumsExactly_iff (hname : QueryOperator.ofName? name.name = some .sum)
    (hk : k.integral = true) : SumsExactly catalog name k ↔ k ≠ .word .uint64 :=
  ⟨fun h hk => not_sumsExactly hname (hk ▸ h), sumsExactly_of_ne hname hk⟩

/-- Characters are added by their codes, whatever the case in which the operator is written. -/
theorem sumsExactly_iff_chars : SumsExactly .standard ⟨"sum", 3⟩ .char :=
  (sumsExactly_iff rfl rfl).2 nofun

/-- The one item of an array is an unsigned word of 64 bits, and its sum is one less. -/
theorem sum_unheld_inexact :
    ∃ t, bindInput .standard (sumOfInput ⟨"Sum", 3⟩) (.array (.word .uint64)) = .ok t ∧
      (Value.array [unheld]).conformsTo (.array (.word .uint64)) = true ∧
      evaluate t [.array [unheld]] = .ok (.single (Number.float32OfInt 16777216)) ∧
      (Value.single (Number.float32OfInt 16777216)).denotation? = some 16777216 ∧
      unheld.denotation? = some 16777217 ∧ ¬SumsExactly .standard ⟨"Sum", 3⟩ (.word .uint64) :=
  ⟨_, bind_sumOfInput rfl rfl rfl, rfl, rfl, denotation?_single, denotation?_unheld,
    not_sumsExactly rfl⟩

end Typing

end Elementwise
