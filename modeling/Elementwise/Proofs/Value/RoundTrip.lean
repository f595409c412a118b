import Elementwise.Proofs.Value.Numbers
import Elementwise.Proofs.Value.Scalars

/-!
Values read back from their JSON.  The JSON of a value does not say what it is the JSON of: a text
may stand for a character, a date or an infinity, and a number for one of many kinds.  Read as the
type that the value has, it gives the value again; only zeros of floating point lose their sign.
-/

namespace Elementwise

/-- The types whose values JSON carries: those without parts, decimals, spans and days of the week
apart, and what `Nullable` and `Array` build from them. -/
inductive Ty.Carried : Ty → Prop where
  | boolean : Carried .boolean
  | char : Carried .char
  | word (k : Number.WordKind) : Carried (.word k)
  | single : Carried .single
  | double : Carried .double
  | string : Carried .string
  | dateTime : Carried .dateTime
  | dateTimeOffset : Carried .dateTimeOffset
  | guid : Carried .guid
  | nullable {t : Ty} : Carried t → Carried (.nullable t)
  | array {t : Ty} : Carried t → Carried (.array t)

namespace Value

open Number

/-! ### Ordinary values -/

mutual

/-- Every number inside a value is a number, and every date inside it one of the years 1 to 9999
without a leap second. -/
def Ordinary : Value → Prop
  | number n => n.isNaN = false
  | dateTime t => t.Ordinary
  | dateTimeOffset t => t.Ordinary
  | array items => AllOrdinary items
  | _ => True

def AllOrdinary : List Value → Prop
  | [] => True
  | v :: vs => Ordinary v ∧ AllOrdinary vs

end

/-! ### Zeros -/

mutual

/-- The same value with every floating point zero inside it positive. -/
def unsignZeros : Value → Value
  | number (.single x) => single (unsignZero32 x)
  | number (.double x) => double (unsignZero x)
  | array items => array (allUnsignZeros items)
  | v => v

def allUnsignZeros : List Value → List Value
  | [] => []
  | v :: vs => unsignZeros v :: allUnsignZeros vs

end

/-! ### Reading back -/

theorem decode_jsons {t : Ty} {items : List Value}
    (h : ∀ v ∈ items, decode t v.json = .ok v.unsignZeros) :
    (jsons items).mapM (decode t) = .ok (allUnsignZeros items) := by
  induction items with
  | nil => rfl
  | cons v vs ih =>
      rw [jsons, allUnsignZeros, List.mapM_cons, h v (List.mem_cons_self ..),
        ih fun w hw => h w (List.mem_cons_of_mem v hw)]
      rfl

theorem exists_number {v : Value} {k : NumericKind} (hv : v.conformsTo (.numeric k) = true) :
    ∃ n, v = number n ∧ n.kind = k := by
  cases v with
  | number n => exact ⟨n, rfl, eq_of_beq hv⟩
  | _ => cases hv

theorem allOrdinary_iff {vs : List Value} : AllOrdinary vs ↔ ∀ v ∈ vs, v.Ordinary := by
  induction vs with
  | nil => simp [AllOrdinary]
  | cons v vs ih => simp [AllOrdinary, ih]

/-- A value of a type that JSON carries is read back from its JSON, up to the sign of zeros. -/
theorem decode_json {t : Ty} {v : Value} (ht : t.Carried) (hv : v.conformsTo t = true)
    (ho : v.Ordinary) : decode t v.json = .ok v.unsignZeros := by
  induction ht generalizing v with
  | boolean => cases v <;> first | rfl | cases hv
  | string => cases v <;> first | rfl | cases hv
  | char =>
      obtain ⟨n, rfl, hn⟩ := exists_number hv
      cases n <;> cases hn
      exact decode_char _
  | word k =>
      obtain ⟨n, rfl, hn⟩ := exists_number hv
      cases n <;> cases hn
      exact (decode_numeric (by rintro ⟨⟩) _).trans (decodeNumber_word _)
  | single =>
      obtain ⟨n, rfl, hn⟩ := exists_number hv
      cases n <;> cases hn
      exact (decode_numeric (by rintro ⟨⟩) _).trans (decodeNumber_single ho)
  | double =>
      obtain ⟨n, rfl, hn⟩ := exists_number hv
      cases n <;> cases hn
      exact (decode_numeric (by rintro ⟨⟩) _).trans (decodeNumber_double ho)
  | dateTime =>
      cases v with
      | dateTime t => exact decode_dateTime ho
      | _ => cases hv
  | dateTimeOffset =>
      cases v with
      | dateTimeOffset t => exact decode_dateTimeOffset ho
      | _ => cases hv
  | guid =>
      cases v with
      | guid g => exact decode_guid g
      | _ => cases hv
  | nullable _ ih =>
      by_cases hnull : v = null
      · rw [hnull]
        rfl
      · -- a value that is present is one of the type underneath
        rw [conformsTo, Bool.or_eq_true] at hv
        rw [decode_nullable (json_ne_null hnull)]
        refine ih (hv.resolve_left fun h => hnull ?_) ho
        cases v <;> first | rfl | cases h
  | array _ ih =>
      cases v with
      | array items =>
          rw [conformsTo, List.all_eq_true] at hv
          rw [json, decode, decode_jsons fun w hw => ih (hv w hw) (allOrdinary_iff.1 ho w hw)]
          rfl
      | null => rfl
      | _ => cases hv

theorem decode_json_doubles :
    decode (.array (.nullable .double)) (array [null, double (-0.0), double 0.5]).json =
      .ok (array [null, double 0, double 0.5]) :=
  decode_json (v := array [null, double (-0.0), double 0.5]) (.array (.nullable .double))
    (by decide) ⟨trivial, (by decide : (-0.0 : Float).isNaN = false),
      (by decide : (0.5 : Float).isNaN = false), trivial⟩

end Value

end Elementwise
