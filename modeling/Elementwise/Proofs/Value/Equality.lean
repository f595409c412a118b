import Elementwise.Proofs.Order.Rank

/-!
Equality of values is symmetric and transitive.  It is not reflexive, since what is no number equals
nothing and neither does an array or a record that holds it; and it is not identity, since decimals of
different scale and zeros of different sign are equal.
-/

namespace Elementwise

namespace Number

open Float.Model (UnpackedFloat)

variable {m n : Number}

theorem unpacked_beq_iff {a b : UnpackedFloat} : a.beq b = true ↔
    a.isNaN = false ∧ b.isNaN = false ∧ unpackedGrade a = unpackedGrade b := by
  rw [show a.beq b = (a.compare b == some .eq) from rfl]
  cases ha : a.isNaN with
  | true =>
      have hnone : a.compare b = none := by
        cases a with
        | notANumber => cases b <;> rfl
        | _ => cases ha
      rw [hnone]
      simp only [Bool.true_eq_false, false_and, iff_false]
      decide
  | false =>
      cases hb : b.isNaN with
      | true =>
          have hnone : a.compare b = none := by
            cases b with
            | notANumber => cases a <;> rfl
            | _ => cases hb
          rw [hnone]
          simp only [Bool.true_eq_false, false_and, and_false, iff_false]
          decide
      | false =>
          rw [unpacked_compare ha hb, beq_iff_eq, Option.some.injEq, compare_eq_iff_eq]
          simp only [true_and]

theorem kind_of_same (h : m.same n = true) : m.kind = n.kind := by
  cases m with
  | word j a =>
      cases n with
      | word k b =>
          rw [same, Bool.and_eq_true, beq_iff_eq] at h
          exact congrArg NumericKind.word h.1
      | _ => cases h
  | _ =>
      cases n with
      | word k b => cases h
      | _ => first | rfl | cases h

theorem grade_of_toRat? {p : ℚ} (hm : m.toRat? = some p) :
    m.isNaN = false ∧ m.grade = .ofRat p := by
  cases m with
  | char | word | decimal =>
      cases hm
      exact ⟨rfl, rfl⟩
  | single | double => cases hm

theorem same_iff_of_toRat? {p q : ℚ} (hkind : m.kind = n.kind) (hm : m.toRat? = some p)
    (hn : n.toRat? = some q) :
    m.same n = true ↔ m.isNaN = false ∧ n.isNaN = false ∧ m.grade = n.grade := by
  obtain ⟨hm', hgrade⟩ := grade_of_toRat? hm
  obtain ⟨hn', hgrade'⟩ := grade_of_toRat? hn
  rw [same_eq hkind hm hn, decide_eq_true_iff, hm', hn', hgrade, hgrade', ← compare_eq_iff_eq,
    ← Grade.compare_ofRat, compare_eq_iff_eq]
  simp only [true_and]

/-- Numbers are equal if they are numbers of one kind and one grade. -/
theorem same_iff : m.same n = true ↔
    m.kind = n.kind ∧ m.isNaN = false ∧ n.isNaN = false ∧ m.grade = n.grade := by
  by_cases hkind : m.kind = n.kind
  · rw [← and_iff_right (a := m.kind = n.kind) (b := m.same n = true) hkind, and_congr_right_iff]
    intro
    cases m with
    | single =>
        cases n with
        | single => exact unpacked_beq_iff
        | _ => cases hkind
    | double =>
        cases n with
        | double => exact unpacked_beq_iff
        | _ => cases hkind
    | _ =>
        cases n with
        | single | double => cases hkind
        | _ => exact same_iff_of_toRat? hkind rfl rfl
  · exact ⟨fun h => absurd (kind_of_same h) hkind, fun h => absurd h.1 hkind⟩

/-- Equal numbers are equal to the same numbers, on either side. -/
theorem same_congr (h : m.same n = true) (l : Number) :
    m.same l = n.same l ∧ l.same m = l.same n := by
  obtain ⟨hkind, hm, hn, hgrade⟩ := same_iff.1 h
  constructor
  · rw [Bool.eq_iff_iff, same_iff, same_iff, hkind, hm, hn, hgrade]
  · rw [Bool.eq_iff_iff, same_iff, same_iff, hkind, hm, hn, hgrade]

end Number

namespace Value

variable {a b c : Value}

/-- Whether only the value itself equals it: it has no parts and is no number and no date with an
offset. -/
def isSingular : Value → Bool
  | null | boolean _ | string _ | dateTime _ | timeSpan _ | guid _ | dayOfWeek _ => true
  | _ => false

theorem eq_of_same (ha : a.isSingular = true) (h : a.same b = true) : a = b := by
  cases a with
  | null =>
      cases b with
      | null => rfl
      | _ => cases h
  | boolean | string | dateTime | timeSpan | guid | dayOfWeek =>
      cases b <;> first | exact congrArg _ (eq_of_beq h) | cases h
  | _ => cases ha

mutual

/-- Equal values are equal to the same values, on either side. -/
theorem same_congr : (a b : Value) → a.same b = true →
    ∀ c, a.same c = b.same c ∧ c.same a = c.same b
  | null, b, h | boolean _, b, h | string _, b, h | dateTime _, b, h | timeSpan _, b, h
  | guid _, b, h | dayOfWeek _, b, h => by
      rw [eq_of_same rfl h]
      exact fun _ => ⟨rfl, rfl⟩
  | number m, b, h => by
      cases b with
      | number n =>
          intro c
          cases c with
          | number l => exact Number.same_congr h l
          | _ => exact ⟨rfl, rfl⟩
      | _ => cases h
  | dateTimeOffset x, b, h => by
      cases b with
      | dateTimeOffset y =>
          have hutc : x.utc = y.utc := eq_of_beq h
          intro c
          cases c with
          | dateTimeOffset z =>
              rw [same, same, same, same, hutc]
              exact ⟨rfl, rfl⟩
          | _ => exact ⟨rfl, rfl⟩
      | _ => cases h
  | array as, b, h => by
      cases b with
      | array bs =>
          intro c
          cases c with
          | array cs => exact sameItems_congr as bs h cs
          | _ => exact ⟨rfl, rfl⟩
      | _ => cases h
  | record fs as, b, h => by
      cases b with
      | record gs bs =>
          rw [same, Bool.and_eq_true, decide_eq_true_iff] at h
          obtain ⟨rfl, h⟩ := h
          intro c
          cases c with
          | record hs cs =>
              obtain ⟨hleft, hright⟩ := sameItems_congr as bs h cs
              rw [same, same, same, same, hleft, hright]
              exact ⟨rfl, rfl⟩
          | _ => exact ⟨rfl, rfl⟩
      | _ => cases h

theorem sameItems_congr : (as bs : List Value) → sameItems as bs = true →
    ∀ cs, sameItems as cs = sameItems bs cs ∧ sameItems cs as = sameItems cs bs
  | [], bs, h => by
      cases bs with
      | nil => exact fun _ => ⟨rfl, rfl⟩
      | cons b bs => cases h
  | a :: as, bs, h => by
      cases bs with
      | nil => cases h
      | cons b bs =>
          rw [sameItems, Bool.and_eq_true] at h
          intro cs
          cases cs with
          | nil => exact ⟨rfl, rfl⟩
          | cons c cs =>
              obtain ⟨hleft, hright⟩ := same_congr a b h.1 c
              obtain ⟨hlefts, hrights⟩ := sameItems_congr as bs h.2 cs
              simp only [sameItems]
              rw [hleft, hright, hlefts, hrights]
              exact ⟨rfl, rfl⟩

end

theorem same_trans (hab : a.same b = true) (hbc : b.same c = true) : a.same c = true := by
  rw [(same_congr a b hab c).1, hbc]

theorem same_symm (h : a.same b = true) : b.same a = true := by
  obtain ⟨hleft, hright⟩ := same_congr a b h b
  rw [hright, ← hleft, h]

end Value

end Elementwise
