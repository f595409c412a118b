import Elementwise.Proofs.Soundness.Builtin

/-!
The functions of dates and spans give what they promise.
-/

namespace Elementwise

open Number (NumericKind)
open Eval

namespace Builtin

/-! ### Dates -/

theorem validYear_yields (year : Int) : Yields (fun _ => True) (validYear year) := by
  rw [validYear]
  split
  · exact .ok trivial
  · exact .error rfl

theorem daysInMonth_hasType (year month : Int) :
    HasType (Eval.daysInMonth year month) .int32 := by
  refine (validYear_yields year).bind fun year _ => ?_
  cases Time.daysInMonth? year month.toNat with
  | some days => exact .ok (hasType_count days)
  | none => exact .error rfl

theorem daysInMonth_isSound : IsSound .daysInMonth :=
  isSound_of_takes_two (fun _ => rfl) fun _ _ _ hv hw =>
    (int32Argument_yields rfl hv).bind fun year _ =>
      (int32Argument_yields rfl hw).bind fun month _ => daysInMonth_hasType year.val month.val

theorem isLeapYear_isSound : IsSound .isLeapYear :=
  isSound_of_takes_one (fun _ => rfl) fun _ _ hv =>
    (int32Argument_yields rfl hv).bind fun year _ =>
      (validYear_yields year.val).bind fun _ _ => .ok (hasType_truth _)

theorem datePart_isSound (part : DatePart) : IsSound (.datePart part) := by
  cases part with
  | ticks =>
      exact isSound_of_onDate (fun _ => rfl) fun _ _ hv =>
        (clockArgument_yields rfl hv).bind fun _ _ => .ok (Value.hasType_word.2 ⟨_, rfl⟩)
  | _ =>
      exact isSound_of_onDate (fun _ => rfl) fun _ _ hv =>
        (clockArgument_yields rfl hv).bind fun _ _ => .ok (Value.hasType_word.2 ⟨_, rfl⟩)

theorem dayOfWeek_isSound : IsSound .dayOfWeek :=
  isSound_of_onDate (fun _ => rfl) fun _ _ hv =>
    (clockArgument_yields rfl hv).bind fun _ _ => .ok (Value.hasType_dayOfWeek.2 ⟨_, rfl⟩)

theorem date_isSound : IsSound .date :=
  isSound_of_onDate (fun _ => rfl) fun _ _ hv =>
    (clockArgument_yields rfl hv).bind fun _ _ => .ok (Value.hasType_dateTime.2 ⟨_, rfl⟩)

theorem timeOfDay_isSound : IsSound .timeOfDay :=
  isSound_of_onDate (fun _ => rfl) fun _ _ hv =>
    (clockArgument_yields rfl hv).bind fun _ _ => .ok (Value.hasType_timeSpan.2 ⟨_, rfl⟩)

theorem addToDate_hasType {v : Value} {t : Ty} (s : Time.Span) (hv : v.HasType t)
    (ht : t = .dateTime ∨ t = .dateTimeOffset) : HasType (addToDate v s) t := by
  rcases ht with rfl | rfl
  · obtain ⟨t, rfl⟩ := Value.hasType_dateTime.1 hv
    exact (shiftDate_yields t s).map fun t _ => Value.hasType_dateTime.2 ⟨t, rfl⟩
  · obtain ⟨t, rfl⟩ := Value.hasType_dateTimeOffset.1 hv
    exact (shiftOffsetDate_yields t s).map fun t _ => Value.hasType_dateTimeOffset.2 ⟨t, rfl⟩

/-- The parameters of a function that moves a date. -/
theorem eq_of_movesDate {amount : Ty} {params : List Ty} {t : Ty}
    (h : movesDate amount params = some t) :
    params = [t, amount] ∧ (t = .dateTime ∨ t = .dateTimeOffset) := by
  unfold movesDate at h
  split at h
  · split at h
    · cases h
      exact ⟨by subst_vars; rfl, Or.inl rfl⟩
    · cases h
  · split at h
    · cases h
      exact ⟨by subst_vars; rfl, Or.inr rfl⟩
    · cases h
  · cases h

theorem spanOf_yields (amount : Float) (unit : TimeUnit) :
    Yields (fun _ => True) (spanOf amount unit) := by
  simp only [spanOf]
  split
  · exact .error rfl
  · split
    · exact .ok trivial
    · exact .error rfl

theorem addTime_isSound (unit : TimeUnit) : IsSound (.addTime unit) := by
  intro args params t given ht hargs _
  obtain ⟨rfl, hown⟩ := eq_of_movesDate ht
  obtain ⟨v, w, rfl, hv, hw⟩ := arguments_two hargs
  exact (doubleArgument_yields rfl hw).bind fun amount _ =>
    (spanOf_yields amount unit).bind fun s _ => addToDate_hasType s hv hown

theorem addTicks_isSound : IsSound .addTicks := by
  intro args params t given ht hargs _
  obtain ⟨rfl, hown⟩ := eq_of_movesDate ht
  obtain ⟨v, w, rfl, hv, hw⟩ := arguments_two hargs
  exact (int64Argument_yields rfl hw).bind fun ticks _ =>
    addToDate_hasType (.ofTicks ticks.val) hv hown

/-- A function of a date with an offset. -/
theorem isSound_of_takesOffsetDate
    (hb : ∀ params, b.result? params = takes [[.dateTimeOffset]] r params)
    (h : ∀ t given, HasType (invokeNonNull b [.dateTimeOffset t] given) r) : b.IsSound := by
  refine isSound_of_takes_one hb fun v given hv => ?_
  obtain ⟨t, rfl⟩ := Value.hasType_dateTimeOffset.1 hv
  exact h t given

theorem offset_isSound : IsSound .offset :=
  isSound_of_takesOffsetDate (fun _ => rfl) fun _ _ => .ok (Value.hasType_timeSpan.2 ⟨_, rfl⟩)

theorem localDateTime_isSound : IsSound .localDateTime :=
  isSound_of_takesOffsetDate (fun _ => rfl) fun _ _ => .ok (Value.hasType_dateTime.2 ⟨_, rfl⟩)

theorem utcDateTime_isSound : IsSound .utcDateTime :=
  isSound_of_takesOffsetDate (fun _ => rfl) fun _ _ => .ok (Value.hasType_dateTime.2 ⟨_, rfl⟩)

theorem utcTicks_isSound : IsSound .utcTicks :=
  isSound_of_takesOffsetDate (fun _ => rfl) fun _ _ => .ok (Value.hasType_word.2 ⟨_, rfl⟩)

/-! ### Spans -/

theorem spanPart_isSound (part : SpanPart) : IsSound (.spanPart part) := by
  cases part with
  | ticks =>
      exact isSound_of_takes_one (fun _ => rfl) fun _ _ hv =>
        (spanArgument_yields rfl hv).bind fun _ _ => .ok (Value.hasType_word.2 ⟨_, rfl⟩)
  | _ =>
      exact isSound_of_takes_one (fun _ => rfl) fun _ _ hv =>
        (spanArgument_yields rfl hv).bind fun _ _ => .ok (Value.hasType_word.2 ⟨_, rfl⟩)

theorem spanTotal_isSound (unit : TimeUnit) : IsSound (.spanTotal unit) :=
  isSound_of_takes_one (fun _ => rfl) fun _ _ hv =>
    (spanArgument_yields rfl hv).bind fun _ _ => .ok (Value.hasType_double.2 ⟨_, rfl⟩)

theorem spanFrom_isSound (unit : TimeUnit) : IsSound (.spanFrom unit) :=
  isSound_of_takes_one (fun _ => rfl) fun _ _ hv =>
    (doubleArgument_yields rfl hv).bind fun amount _ =>
      (spanOf_yields amount unit).bind fun s _ => .ok (Value.hasType_timeSpan.2 ⟨s, rfl⟩)

theorem spanFromTicks_isSound : IsSound .spanFromTicks :=
  isSound_of_takes_one (fun _ => rfl) fun _ _ hv =>
    (int64Argument_yields rfl hv).bind fun _ _ => .ok (Value.hasType_timeSpan.2 ⟨_, rfl⟩)

end Builtin

end Elementwise
